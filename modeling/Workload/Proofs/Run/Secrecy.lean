import Mathlib.Data.List.Basic
import Workload.Proofs.Environment.Building
import Workload.Proofs.Run.Reachability

/-!
# Secret values stay off command lines

What a secret is worth is put into the environment last, in the place of its reference, and the flag
that makes it a secret stays. So two builds whose stores differ in the values of secrets alone
differ in nothing else, and every variable goes either onto the command line or, by its name only,
to the secrets: a plan from one build is a plan from the other with other values of secrets.
-/

namespace Workload.Environment

variable {environment : Environment} {container key : String}

theorem entries?_withSecrets (value : String → String) (environment : Environment)
    (container : String) :
    (environment.withSecrets value).entries? container =
      (environment.entries? container).map (Table.mapItems fun _ entry =>
        if entry.origin = .secret then ⟨value entry.text, .secret⟩ else entry) := by
  rw [entries?, withSecrets, Table.find?_mapItems]
  rfl

theorem select_withSecrets (wanted : Origin → Bool) (value : String → String)
    (environment : Environment) (container : String) :
    (environment.withSecrets value).select wanted container =
      ((environment.entries? container).getD []).filterMap fun (key, entry) =>
        if wanted entry.origin then
          some (key, if entry.origin = .secret then value entry.text else entry.text)
        else none := by
  rw [select, entries?_withSecrets]
  cases environment.entries? container with
  | none => rfl
  | some entries =>
      simp only [Option.map_some, Option.getD_some, Table.mapItems, List.filterMap_map]
      apply List.filterMap_congr
      rintro ⟨key, entry⟩ _
      by_cases placeholder : entry.origin = .secret <;> simp [placeholder]

@[simp]
theorem plainPart_withSecrets (value : String → String) (environment : Environment)
    (container : String) :
    (environment.withSecrets value).plainPart container = environment.plainPart container := by
  rw [plainPart, select_withSecrets, plainPart, select]
  apply List.filterMap_congr
  rintro ⟨key, entry⟩ _
  by_cases placeholder : entry.origin = .secret <;> simp [placeholder]

@[simp]
theorem keys_secretPart_withSecrets (value : String → String) (environment : Environment)
    (container : String) :
    Table.keys ((environment.withSecrets value).secretPart container) =
      Table.keys (environment.secretPart container) := by
  rw [secretPart, select_withSecrets, secretPart, select, Table.keys, Table.keys,
    List.map_filterMap, List.map_filterMap]
  apply List.filterMap_congr
  rintro ⟨key, entry⟩ _
  by_cases placeholder : entry.origin = .secret <;> simp [placeholder]

theorem mem_keys_select {wanted : Origin → Bool} {entries : List (String × Entry)}
    (known : environment.entries? container = some entries) :
    key ∈ Table.keys (environment.select wanted container) ↔
      ∃ entry, (key, entry) ∈ entries ∧ wanted entry.origin := by
  rw [select, known, Option.getD_some]
  simp [Table.keys]

/-- No variable is both secret and plain. -/
theorem Tidy.parts_disjoint (tidy : environment.Tidy)
    (secret : key ∈ Table.keys (environment.secretPart container)) :
    key ∉ Table.keys (environment.plainPart container) := by
  intro plain
  cases known : environment.entries? container with
  | none => simp [secretPart, select, known, Table.keys] at secret
  | some entries =>
      -- Both parts are taken from one table, in which a key has one entry and so one origin.
      have distinct := (tidy container entries known).nodup_keys
      rcases (mem_keys_select known).mp secret with ⟨hidden, member, isSecret⟩
      rcases (mem_keys_select known).mp plain with ⟨shown, other, isPlain⟩
      have same : (key, hidden) = (key, shown) :=
        List.inj_on_of_nodup_map distinct member other rfl
      cases same
      simp_all

theorem Tidy.withSecrets (tidy : environment.Tidy) (value : String → String) :
    (environment.withSecrets value).Tidy := by
  intro container entries found
  rw [entries?_withSecrets, Option.map_eq_some_iff] at found
  rcases found with ⟨before, found, rfl⟩
  have sorted := tidy container before found
  rw [Table.Sorted, Table.keys_mapItems]
  exact sorted

end Workload.Environment

namespace Workload.Run

open Container Environment

/-- An application with the names of its secrets only. -/
def Application.masked (application : Application) : Application :=
  { application with
    specification :=
      { application.specification with
        secrets := (Table.keys application.specification.secrets).map fun key => (key, "") } }

/-- The arguments that run the containers of a plan, those of the pause container first. -/
def Plan.commandLines (plan : Plan) : List (List String) :=
  plan.pause.arguments :: plan.applications.map fun application =>
    application.specification.arguments

/-- The arguments that run a container depend on the names of its secrets only. -/
theorem Application.arguments_masked (application : Application) :
    application.masked.specification.arguments = application.specification.arguments := by
  simp [masked, Specification.arguments, Specification.networkArguments,
    Specification.portArguments, Specification.variableArguments, Specification.secretArguments,
    Table.keys, List.flatMap_map]

variable {request : Request} {definition : Task.Definition} {credentials : Credentials}

theorem masked_applications_withSecrets (request : Request) (settings : Settings)
    (definition : Task.Definition) (environment : Environment) (value : String → String) :
    (Preparation.plan request settings definition
        (environment.withSecrets value)).applications.map Application.masked =
      (Preparation.plan request settings definition environment).applications.map
        Application.masked := by
  apply List.ext_getElem?
  intro index
  simp only [Plan.applications, List.getElem?_map, List.getElem?_mapIdx, Option.map_map]
  congr 1
  funext entry
  simp [Application.masked, Plan.specification, Preparation.plan]

theorem commandLines_eq {first second : Plan} (pause : first.pause = second.pause)
    (applications : first.applications.map Application.masked =
      second.applications.map Application.masked) :
    first.commandLines = second.commandLines := by
  have lines : ∀ plan : Plan,
      (plan.applications.map fun application => application.specification.arguments) =
        (plan.applications.map Application.masked).map
          fun application => application.specification.arguments := by
    intro plan
    rw [List.map_map]
    exact List.map_congr_left fun application _ => application.arguments_masked.symm
  rw [Plan.commandLines, Plan.commandLines, pause, lines, lines, applications]

theorem secrets_disjoint {plan : Plan} (tidy : plan.environment.Tidy) {application : Application}
    (member : application ∈ plan.applications) {key : String}
    (secret : key ∈ Table.keys application.specification.secrets) :
    key ∉ Table.keys application.specification.plainVariables := by
  rw [Plan.applications, List.mem_mapIdx] at member
  rcases member with ⟨index, _, rfl⟩
  exact tidy.parts_disjoint secret

theorem tidy_of_prepare {prepared : Environment} {overrides : List Override}
    {references : List String}
    (success : prepare definition credentials overrides = .ok (prepared, references)) :
    prepared.Tidy := by
  rcases registered_of_prepare success with ⟨_, _, registered⟩
  exact registered.tidy (tidy_withoutSecrets definition credentials overrides)

/--
Two builds whose stores answer for the same references, with whatever values, either both fail or
give plans that differ in the values of secrets alone: the containers are run with the same
arguments, and no secret has the name of a variable whose value stands among them.
-/
theorem secrets_kept_off_command_lines (settings : Settings) {first second : Secret.Answers}
    {firstEvents secondEvents : List Secret.Resolution.Event}
    {firstBuilding secondBuilding : Building}
    {firstResult secondResult : Except RunError Environment}
    (same : ∀ store reference, (first store reference).isOk = (second store reference).isOk)
    (firstPath : follow (Building.step first)
      (.begin definition credentials request.variableOverrides) firstEvents = some firstBuilding)
    (secondPath : follow (Building.step second)
      (.begin definition credentials request.variableOverrides) secondEvents = some secondBuilding)
    (firstEnded : firstBuilding.result? = some firstResult)
    (secondEnded : secondBuilding.result? = some secondResult) :
    firstResult.isOk = secondResult.isOk ∧
    ∀ firstEnvironment secondEnvironment, firstResult = .ok firstEnvironment →
      secondResult = .ok secondEnvironment →
      let firstPlan := Preparation.plan request settings definition firstEnvironment
      let secondPlan := Preparation.plan request settings definition secondEnvironment
      firstPlan.commandLines = secondPlan.commandLines ∧
      firstPlan.pause = secondPlan.pause ∧
      firstPlan.applications.map Application.masked =
        secondPlan.applications.map Application.masked ∧
      ∀ application ∈ firstPlan.applications,
        ∀ key ∈ Table.keys application.specification.secrets,
          key ∉ Table.keys application.specification.plainVariables := by
  constructor
  · rw [Bool.eq_iff_iff, isOk_result_iff firstPath firstEnded,
      isOk_result_iff secondPath secondEnded]
    simp only [Secret.Resolution.isOk_answerOf_congr same]
  · rintro firstEnvironment secondEnvironment rfl rfl firstPlan secondPlan
    rcases resolved_of_built firstPath firstEnded with
      ⟨prepared, references, _, firstValues, success, _, _, _, rfl⟩
    rcases resolved_of_built secondPath secondEnded with
      ⟨_, _, _, secondValues, again, _, _, _, rfl⟩
    rw [success] at again
    cases again
    have pause : firstPlan.pause = secondPlan.pause := rfl
    have applications : firstPlan.applications.map Application.masked =
        secondPlan.applications.map Application.masked := by
      simp only [firstPlan, secondPlan, fillSecrets_eq_withSecrets,
        masked_applications_withSecrets]
    have tidy : firstPlan.environment.Tidy := by
      change (prepared.fillSecrets firstValues).Tidy
      rw [fillSecrets_eq_withSecrets]
      exact (tidy_of_prepare success).withSecrets _
    refine ⟨commandLines_eq pause applications, pause, applications, ?_⟩
    intro application member key secret
    exact secrets_disjoint tidy member secret

/-- A request for the containers with shared secrets. -/
def crossedRequest : Request where
  identity := Plan.single.identity
  variableOverrides := referenceOverride

/-- Stores that answer everything alike. -/
def uniformAnswers : Secret.Answers := fun _ _ => .ok "hunter2"

theorem differing_secrets_run_alike :
    ∃ firstBuilding secondBuilding firstEnvironment secondEnvironment,
      follow (Building.step crossedAnswers)
        (.begin contested regionalSession crossedRequest.variableOverrides) crossedFetches =
          some firstBuilding ∧
      follow (Building.step uniformAnswers)
        (.begin contested regionalSession crossedRequest.variableOverrides) crossedFetches =
          some secondBuilding ∧
      firstBuilding.result? = some (.ok firstEnvironment) ∧
      secondBuilding.result? = some (.ok secondEnvironment) ∧
      firstEnvironment.get? "web" "TOKEN" = some ⟨"swordfish", .secret⟩ ∧
      secondEnvironment.get? "web" "TOKEN" = some ⟨"hunter2", .secret⟩ ∧
      (Preparation.plan crossedRequest .default contested firstEnvironment).commandLines =
        (Preparation.plan crossedRequest .default contested secondEnvironment).commandLines := by
  have same : ∀ store reference, (crossedAnswers store reference).isOk =
      (uniformAnswers store reference).isOk := fun _ _ => rfl
  have firstPath : follow (Building.step crossedAnswers)
      (.begin contested regionalSession crossedRequest.variableOverrides) crossedFetches =
        some _ := rfl
  have secondPath : follow (Building.step uniformAnswers)
      (.begin contested regionalSession crossedRequest.variableOverrides) crossedFetches =
        some _ := rfl
  have alike := secrets_kept_off_command_lines .default same firstPath secondPath rfl rfl
  exact ⟨_, _, _, _, firstPath, secondPath, rfl, rfl, rfl, rfl,
    (alike.2 _ _ rfl rfl).1⟩

end Workload.Run
