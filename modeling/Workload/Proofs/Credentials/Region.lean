import Workload.Preparation
import Workload.Proofs.Attempt

/-!
# Which region a session has

Two variables of the process environment may name the region, and `AWS_REGION` comes first. A
variable that is unset, unreadable or empty names none. Where the environment names no region, the
credentials of the process environment have none, and those of the AWS tool have the one that the
tool has configured.

The lookup passes over a first variable that is unset or unreadable, but not over one that is empty:
`AWS_REGION`, set to nothing, hides a region that `AWS_DEFAULT_REGION` names. That is the one case
in which the region found is not the first one named.
-/

namespace Workload

namespace Credentials

/-- The region that a variable names: its text, if it is readable and not empty. -/
def regionNamed? (environment : ProcessEnvironment) (name : String) : Option String :=
  (environment.text? name).filter (· ≠ "")

/-- The first region that the process environment names. -/
def firstRegion? (environment : ProcessEnvironment) : Option String :=
  (regionNamed? environment regionName).or (regionNamed? environment defaultRegionName)

/-- The second variable names a region, and the first one is set to nothing. -/
structure RegionHidden (environment : ProcessEnvironment) : Prop where
  blank : environment.text? regionName = some ""
  named : ∃ region, regionNamed? environment defaultRegionName = some region

/--
A region is the one that a session gets: the first that the environment names, else a last resort.
Of an environment whose region is hidden only the last resort is left.
-/
structure GetsRegion (environment : ProcessEnvironment) (resort region : Option String) : Prop where
  first : ¬ RegionHidden environment → region = (firstRegion? environment).or resort
  hidden : RegionHidden environment → region = resort

variable {environment : ProcessEnvironment} {obtained : Credentials}

theorem regionOf_of_blank (blank : environment.text? regionName = some "") :
    regionOf environment = none := by
  rw [regionOf, blank]
  rfl

/-- An `AWS_REGION` that is not empty is either a region or passed over. -/
theorem regionOf_of_not_blank (unblank : environment.text? regionName ≠ some "") :
    regionOf environment = firstRegion? environment := by
  rw [regionOf, firstRegion?, regionNamed?, regionNamed?]
  cases first : environment.text? regionName with
  | some region =>
      have filled : region ≠ "" := by
        rintro rfl
        exact unblank first
      simp [Option.filter, filled]
  | none =>
      cases environment.text? defaultRegionName with
      | none => rfl
      | some region => by_cases blank : region = "" <;> simp [Option.filter, blank]

theorem getsRegion (environment : ProcessEnvironment) (resort : Option String) :
    GetsRegion environment resort ((regionOf environment).or resort) := by
  constructor
  · intro shown
    by_cases blank : environment.text? regionName = some ""
    · have unnamed : regionNamed? environment defaultRegionName = none := by
        rw [Option.eq_none_iff_forall_ne_some]
        intro region named
        exact shown ⟨blank, region, named⟩
      rw [regionOf_of_blank blank, firstRegion?, unnamed, regionNamed?, blank]
      rfl
    · rw [regionOf_of_not_blank blank]
  · intro hidden
    rw [regionOf_of_blank hidden.blank, Option.none_or]

/-! ## Credentials of the process environment -/

theorem ofEnvironment_eq_ok_iff :
    ofEnvironment environment = .ok obtained ↔
      ∃ accessKeyId secretAccessKey, environment.text? accessKeyIdName = some accessKeyId ∧
        environment.text? secretAccessKeyName = some secretAccessKey ∧
          obtained = { accessKeyId, secretAccessKey
                       sessionToken := environment.text? sessionTokenName
                       region := regionOf environment } := by
  simp only [ofEnvironment, requiredVariable, bind, Except.bind, pure, Except.pure]
  cases environment.text? accessKeyIdName with
  | none => simp
  | some accessKeyId =>
      cases environment.text? secretAccessKeyName with
      | none => simp
      | some secretAccessKey => simp [eq_comm]

end Credentials

/-! ## Credentials of the AWS tool -/

namespace Aws

open Credentials

/-- The region that the tool has configured, if it answers with one. -/
def configured? (client : Aws) : Option String :=
  (client.call configuredRegionArguments).result.toOption.filter (· ≠ "")

variable {client : Aws} {environment : ProcessEnvironment} {obtained : Credentials}

theorem result_configuredRegion (client : Aws) :
    client.configuredRegion.result = .ok client.configured? := by
  rw [configuredRegion, configured?, Attempt.result_bind]
  simp only [Attempt.toOption, Attempt.result_mapError, Attempt.result_pure]
  cases (client.call configuredRegionArguments).result <;> rfl

theorem result_sessionRegion (client : Aws) (environment : ProcessEnvironment) :
    (client.sessionRegion environment).result =
      .ok ((client.region.or (regionOf environment)).or client.configured?) := by
  rw [sessionRegion]
  cases client.region.or (regionOf environment) with
  | some region => rfl
  | none => exact client.result_configuredRegion

/-- That credentials are obtained does not depend on where their region comes from. -/
theorem credentials_eq_ok_iff :
    (client.credentials environment).result = .ok obtained ↔
      ∃ text exported, (client.call credentialsArguments).result = .ok text ∧
        readCredentials text = .ok exported ∧
          obtained = { accessKeyId := exported.accessKeyId
                       secretAccessKey := exported.secretAccessKey
                       sessionToken := exported.sessionToken
                       region := (client.region.or (regionOf environment)).or
                         client.configured? } := by
  simp only [credentials, Attempt.result_within, Attempt.result_bind_eq_ok_iff,
    Attempt.result_mapError_eq_ok_iff, Attempt.result_ofResult, result_sessionRegion,
    Attempt.result_pure, Except.ok.injEq, exists_eq_left', exists_and_left]
  constructor
  · rintro ⟨text, answered, exported, readable, rfl⟩
    exact ⟨text, answered, exported, readable, rfl⟩
  · rintro ⟨text, answered, exported, readable, rfl⟩
    exact ⟨text, answered, exported, readable, rfl⟩

end Aws

namespace Credentials

/-- The credentials that a command obtains, from either source, get the region of a session. -/
theorem getsRegion_of_preparation {surroundings : Surroundings} {settings : Settings}
    {obtained : Credentials}
    (success : (Preparation.credentials surroundings
      (Preparation.clientOf surroundings settings)).result = .ok obtained) :
    GetsRegion surroundings.environment
      (if availableIn surroundings.environment then none
        else (Preparation.clientOf surroundings settings).configured?) obtained.region := by
  rw [Preparation.credentials] at success
  split at success
  · rename_i available
    rcases ofEnvironment_eq_ok_iff.mp success with ⟨_, _, _, _, rfl⟩
    simpa [available] using getsRegion surroundings.environment none
  · rename_i unavailable
    rcases Aws.credentials_eq_ok_iff.mp success with ⟨_, _, _, _, rfl⟩
    -- The client of a command already has the region of the process environment.
    have known : (Preparation.clientOf surroundings settings).region =
        regionOf surroundings.environment := rfl
    simpa [unavailable, known] using getsRegion surroundings.environment
      (Preparation.clientOf surroundings settings).configured?

/--
Whether credentials are obtained does not depend on the variables of the region. Those that are
obtained from the process environment have the first region that it names, and those obtained from
the AWS tool by a client without a region of its own have that one or else the region that the tool
has configured, unless the region is hidden. The same holds of the source that a command chooses.
-/
theorem first_region_found_unless_hidden (environment : ProcessEnvironment) :
    (((∃ obtained, ofEnvironment environment = .ok obtained) ↔
        (environment.text? accessKeyIdName).isSome ∧
          (environment.text? secretAccessKeyName).isSome) ∧
      ∀ obtained, ofEnvironment environment = .ok obtained →
        GetsRegion environment none obtained.region) ∧
    (∀ client : Aws, client.region = none →
      ((∃ obtained, (client.credentials environment).result = .ok obtained) ↔
        ∃ text exported, (client.call Aws.credentialsArguments).result = .ok text ∧
          Aws.readCredentials text = .ok exported) ∧
      ∀ obtained, (client.credentials environment).result = .ok obtained →
        GetsRegion environment client.configured? obtained.region) ∧
    ∀ surroundings settings obtained, surroundings.environment = environment →
      (Preparation.credentials surroundings
        (Preparation.clientOf surroundings settings)).result = .ok obtained →
      GetsRegion environment
        (if availableIn environment then none
          else (Preparation.clientOf surroundings settings).configured?) obtained.region := by
  refine ⟨⟨?_, ?_⟩, ?_, ?_⟩
  · simp only [ofEnvironment_eq_ok_iff, Option.isSome_iff_exists]
    constructor
    · rintro ⟨_, accessKeyId, secretAccessKey, first, second, _⟩
      exact ⟨⟨accessKeyId, first⟩, secretAccessKey, second⟩
    · rintro ⟨⟨accessKeyId, first⟩, secretAccessKey, second⟩
      exact ⟨_, accessKeyId, secretAccessKey, first, second, rfl⟩
  · intro obtained success
    rcases ofEnvironment_eq_ok_iff.mp success with ⟨_, _, _, _, rfl⟩
    simpa using getsRegion environment none
  · intro client regionless
    constructor
    · simp only [Aws.credentials_eq_ok_iff]
      constructor
      · rintro ⟨_, text, exported, answered, readable, _⟩
        exact ⟨text, exported, answered, readable⟩
      · rintro ⟨text, exported, answered, readable⟩
        exact ⟨_, text, exported, answered, readable, rfl⟩
    · intro obtained success
      rcases Aws.credentials_eq_ok_iff.mp success with ⟨_, _, _, _, rfl⟩
      simpa [regionless] using getsRegion environment client.configured?
  · rintro surroundings settings obtained rfl success
    exact getsRegion_of_preparation success

/-- A process environment with a key pair and the given variables of the region. -/
def withRegions (first second : List UInt8) : ProcessEnvironment :=
  [(accessKeyIdName, Text.encode "AK"), (secretAccessKeyName, Text.encode "SK"),
    (regionName, first), (defaultRegionName, second)]

/-- What a tool prints that exports a key pair and has a region configured. -/
def configuredOutput (arguments : List String) : String :=
  if arguments = Aws.configuredRegionArguments then "eu-north-1\n" else "[\"AK\",\"SK\"]"

/-- A client of that tool. -/
def configuredClient : Aws where
  path := "aws"
  tool := fun arguments => .ok { stdout := Text.encode (configuredOutput arguments) }

/-- A machine with that tool, on which the first variable of the region is unreadable. -/
def unreadableMachine : Surroundings where
  environment := withRegions [0xFF] (Text.encode "eu-west-1")
  fileAt := fun _ => .missing
  toolAt := fun _ => configuredClient.tool

theorem region_found_past_unreadable :
    (∃ obtained, ofEnvironment unreadableMachine.environment = .ok obtained ∧
      obtained.region = some "eu-west-1") ∧
    (∃ obtained, (Preparation.credentials unreadableMachine
        (Preparation.clientOf unreadableMachine .default)).result = .ok obtained ∧
      obtained.region = some "eu-west-1") ∧
    configuredClient.region = none ∧
    ∃ obtained, (configuredClient.credentials (withRegions [] [0xFF])).result = .ok obtained ∧
      obtained.region = some "eu-north-1" := by
  have shown : ¬ RegionHidden unreadableMachine.environment := by
    intro hidden
    exact absurd hidden.blank (by decide +kernel)
  rcases first_region_found_unless_hidden unreadableMachine.environment with
    ⟨⟨obtains, gets⟩, _, chosen⟩
  refine ⟨?_, ?_, rfl, ?_⟩
  · rcases obtains.mpr (by decide +kernel) with ⟨obtained, success⟩
    refine ⟨obtained, success, ?_⟩
    rw [(gets obtained success).first shown]
    decide +kernel
  · have success : (Preparation.credentials unreadableMachine
        (Preparation.clientOf unreadableMachine .default)).result =
          .ok ⟨"AK", "SK", none, some "eu-west-1"⟩ := eq_ok_of_toOption (by decide +kernel)
    refine ⟨_, success, ?_⟩
    rw [(chosen _ _ _ rfl success).first shown]
    decide +kernel
  · have bare : ¬ RegionHidden (withRegions [] [0xFF]) := by
      rintro ⟨_, region, named⟩
      have unnamed : regionNamed? (withRegions [] [0xFF]) defaultRegionName = none := by
        decide +kernel
      rw [unnamed] at named
      cases named
    have printed : (configuredClient.call Aws.credentialsArguments).result =
        .ok "[\"AK\",\"SK\"]" := eq_ok_of_toOption (by decide +kernel)
    have readable : Aws.readCredentials "[\"AK\",\"SK\"]" = .ok ⟨"AK", "SK", none⟩ :=
      eq_ok_of_toOption (by decide +kernel)
    rcases (first_region_found_unless_hidden (withRegions [] [0xFF])).2.1 configuredClient rfl with
      ⟨obtains, gets⟩
    rcases obtains.mpr ⟨_, _, printed, readable⟩ with ⟨obtained, success⟩
    refine ⟨obtained, success, ?_⟩
    rw [(gets obtained success).first bare]
    decide +kernel

theorem blank_region_hides_named :
    regionNamed? (withRegions [] (Text.encode "eu-west-1")) regionName = none ∧
    regionNamed? (withRegions [] (Text.encode "eu-west-1")) defaultRegionName =
      some "eu-west-1" ∧
    (∃ obtained, ofEnvironment (withRegions [] (Text.encode "eu-west-1")) = .ok obtained ∧
      obtained.region = none) ∧
    configuredClient.region = none ∧
    ∃ obtained,
      (configuredClient.credentials (withRegions [] (Text.encode "eu-west-1"))).result =
        .ok obtained ∧ obtained.region = some "eu-north-1" := by
  refine ⟨by decide +kernel, by decide +kernel, ⟨⟨"AK", "SK", none, none⟩, ?_, rfl⟩, rfl,
    ⟨"AK", "SK", none, some "eu-north-1"⟩, ?_, rfl⟩
  · exact eq_ok_of_toOption (by decide +kernel)
  · exact eq_ok_of_toOption (by decide +kernel)

end Credentials

end Workload
