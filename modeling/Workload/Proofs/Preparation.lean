import Workload.Preparation
import Workload.Proofs.Attempt
import Workload.Proofs.Run.Specifications

/-!
# The stages of a preparation

A request goes through the stages in order: it is validated, the task definition loaded, the
credentials are obtained, the environment is prepared and its secrets are resolved. The first stage
that fails ends the preparation with its error, and the stores of secrets are only asked by the
last.
-/

namespace Workload

/-- A call of the AWS tool that asks a store for the value of a secret. -/
def Tool.Call.isLookup (call : Tool.Call) : Bool :=
  call.arguments.head? = some "ssm" || call.arguments.head? = some "secretsmanager"

/-- The resolutions that a resolver gives are followed to their end. -/
def Secret.Resolver.Follows (resolver : Secret.Resolver) : Prop :=
  ∀ answers references, ∃ events outcome,
    Resolution.Reaches answers references events (resolver answers references) ∧
      (resolver answers references).outcome = some outcome

/-- For whatever the stores answer, some interleaving leads a resolution to its end. -/
theorem Secret.Resolver.exists_follows : ∃ resolver : Secret.Resolver, resolver.Follows := by
  have ends : ∀ answers references, ∃ resolution events outcome,
      Resolution.Reaches answers references events resolution ∧
        resolution.outcome = some outcome := by
    intro answers references
    rcases Resolution.exists_completion answers (.initial references) with
      ⟨events, resolution, outcome, path, ended⟩
    exact ⟨resolution, events, outcome, path, ended⟩
  choose resolver follows using ends
  exact ⟨resolver, follows⟩

namespace Preparation

/-- The client of the AWS tool for a request. -/
def clientFor (surroundings : Surroundings) (request : Request) : Aws :=
  clientOf surroundings (Settings.read surroundings.environment request.engine)

/-- All stages before the secrets are resolved have succeeded. -/
structure Passed (surroundings : Surroundings) (request : Request) (loaded : Task.Definition)
    (obtained : Credentials) (prepared : Environment) (references : List String) : Prop where
  valid : request.validate = .ok ()
  definition :
    (definition surroundings (clientFor surroundings request) request).result = .ok loaded
  credentials : (credentials surroundings (clientFor surroundings request)).result = .ok obtained
  environment : Environment.prepare loaded obtained request.variableOverrides =
    .ok (prepared, references)

/-- The errors of the first stage that fails, of which there are several for secrets only. -/
inductive FirstFailure (surroundings : Surroundings) (request : Request) : RunError → Prop where
  | validation (fault : InputError) (invalid : request.validate = .error fault) :
      FirstFailure surroundings request (.input fault)
  | definition (fault : RunError) (valid : request.validate = .ok ())
      (failed : (definition surroundings (clientFor surroundings request) request).result =
        .error fault) :
      FirstFailure surroundings request fault
  | credentials (loaded : Task.Definition) (fault : RunError) (valid : request.validate = .ok ())
      (found : (Preparation.definition surroundings (clientFor surroundings request)
        request).result = .ok loaded)
      (failed : (credentials surroundings (clientFor surroundings request)).result =
        .error fault) :
      FirstFailure surroundings request fault
  | environment (loaded : Task.Definition) (obtained : Credentials) (fault : InputError)
      (valid : request.validate = .ok ())
      (found : (Preparation.definition surroundings (clientFor surroundings request)
        request).result = .ok loaded)
      (given : (Preparation.credentials surroundings (clientFor surroundings request)).result =
        .ok obtained)
      (refused : Environment.prepare loaded obtained request.variableOverrides = .error fault) :
      FirstFailure surroundings request (.input fault)
  | secret (loaded : Task.Definition) (obtained : Credentials) (prepared : Environment)
      (references : List String) (reference : String) (cause : SecretError)
      (passed : Passed surroundings request loaded obtained prepared references)
      (pending : reference ∈ references)
      (failed : Secret.answerOf (clientFor surroundings request).answers reference =
        .error cause) :
      FirstFailure surroundings request (.secret (.fetch reference cause))

/-- The run that is ready to start once everything is resolved. -/
def launchOf (surroundings : Surroundings) (request : Request) (loaded : Task.Definition)
    (environment : Environment) : Launch where
  plan := plan request (Settings.read surroundings.environment request.engine) loaded environment
  engine := (Settings.read surroundings.environment request.engine).engine
  pollInterval := (Settings.read surroundings.environment request.engine).pollInterval

section Stages

variable {surroundings : Surroundings} {request : Request} {resolver : Secret.Resolver}
  {loaded : Task.Definition} {obtained : Credentials} {prepared : Environment}
  {references : List String}

/-- The stages of a preparation, each of which needs the one before. -/
theorem result_prepare (surroundings : Surroundings) (resolver : Secret.Resolver)
    (request : Request) :
    (prepare surroundings resolver request).result =
      match request.validate with
      | .error fault => .error (.input fault)
      | .ok () =>
          match (definition surroundings (clientFor surroundings request) request).result with
          | .error fault => .error fault
          | .ok loaded =>
              match (credentials surroundings (clientFor surroundings request)).result with
              | .error fault => .error fault
              | .ok obtained =>
                  (environment (clientFor surroundings request) resolver loaded obtained
                    request.variableOverrides).result.map
                      (launchOf surroundings request loaded) := by
  have client : clientOf surroundings (Settings.read surroundings.environment request.engine) =
      clientFor surroundings request := rfl
  simp only [prepare, client, Attempt.result_bind, Attempt.result_ofResult, Attempt.result_record,
    Attempt.result_log, Attempt.result_pure]
  cases request.validate with
  | error fault => rfl
  | ok valid =>
      cases (definition surroundings (clientFor surroundings request) request).result with
      | error fault => rfl
      | ok loaded =>
          cases (credentials surroundings (clientFor surroundings request)).result with
          | error fault => rfl
          | ok obtained =>
              simp only [Except.mapError]
              cases (environment (clientFor surroundings request) resolver loaded obtained
                request.variableOverrides).result <;> rfl

theorem failed_or_passed (surroundings : Surroundings) (resolver : Secret.Resolver)
    (request : Request) :
    (∃ fault, FirstFailure surroundings request fault ∧
      (prepare surroundings resolver request).result = .error fault) ∨
    ∃ loaded obtained prepared references,
      Passed surroundings request loaded obtained prepared references := by
  have result := result_prepare surroundings resolver request
  cases valid : request.validate with
  | error fault =>
      rw [valid] at result
      exact Or.inl ⟨_, .validation fault valid, result⟩
  | ok checked =>
      cases found : (definition surroundings (clientFor surroundings request) request).result with
      | error fault =>
          rw [valid, found] at result
          exact Or.inl ⟨_, .definition fault valid found, result⟩
      | ok loaded =>
          cases given : (credentials surroundings (clientFor surroundings request)).result with
          | error fault =>
              rw [valid, found, given] at result
              exact Or.inl ⟨_, .credentials loaded fault valid found given, result⟩
          | ok obtained =>
              cases success : Environment.prepare loaded obtained request.variableOverrides with
              | error fault =>
                  have refused := (Environment.preparation_builds (clientFor surroundings request)
                    resolver loaded obtained request.variableOverrides).1
                  rw [Environment.build_of_error success] at refused
                  simp only [valid, found, given, refused] at result
                  exact Or.inl
                    ⟨_, .environment loaded obtained fault valid found given success, result⟩
              | ok pair =>
                  exact Or.inr ⟨loaded, obtained, pair.1, pair.2, valid, found, given, success⟩

theorem Passed.result_prepare
    (passed : Passed surroundings request loaded obtained prepared references)
    (resolver : Secret.Resolver) :
    (prepare surroundings resolver request).result =
      (Preparation.environment (clientFor surroundings request) resolver loaded obtained
        request.variableOverrides).result.map (launchOf surroundings request loaded) := by
  rw [Preparation.result_prepare, passed.valid, passed.definition, passed.credentials]

/-- A resolution of secrets fails on account of one of them, or the environment is built. -/
theorem failed_or_built (follows : resolver.Follows) (client : Aws)
    {overrides : List Environment.Override}
    (success : Environment.prepare loaded obtained overrides = .ok (prepared, references)) :
    (∃ reference ∈ references, ∃ cause,
      Secret.answerOf client.answers reference = .error cause ∧
        (environment client resolver loaded obtained overrides).result =
          .error (.secret (.fetch reference cause))) ∨
    (∀ reference ∈ references, (Secret.answerOf client.answers reference).isOk) ∧
      ∃ built, Environment.Builds client.answers obtained overrides loaded built ∧
        (environment client resolver loaded obtained overrides).result = .ok built := by
  have builds := (Environment.preparation_builds client resolver loaded obtained overrides).1
  -- Which secret is blamed depends on the interleaving; that one is blamed does not.
  rcases follows client.answers references with ⟨events, outcome, reached, settled⟩
  rw [Environment.build_of_ok success, Secret.Resolution.result, settled, Option.getD_some]
    at builds
  cases outcome with
  | error fault =>
      rcases reached.truthful.failed _ settled with ⟨reference, pending, cause, rfl, failed⟩
      exact Or.inl ⟨reference, pending, cause, failed, builds⟩
  | ok values =>
      refine Or.inr ⟨(reached.isOk_iff settled).mp rfl, _, ?_, builds⟩
      refine ⟨events, .resolving prepared _, ?_, by rw [Environment.Building.result?, settled]; rfl⟩
      rw [Environment.Building.begin, success]
      exact Environment.follow_resolving_of_follow reached

/-- Once all other stages have succeeded, only a secret that its store refuses can fail. -/
theorem Passed.firstFailure_iff
    (passed : Passed surroundings request loaded obtained prepared references)
    {fault : RunError} :
    FirstFailure surroundings request fault ↔
      ∃ reference ∈ references, ∃ cause,
        Secret.answerOf (clientFor surroundings request).answers reference = .error cause ∧
          fault = .secret (.fetch reference cause) := by
  constructor
  · intro failure
    cases failure with
    | validation fault invalid => cases passed.valid.symm.trans invalid
    | definition fault _ failed => cases passed.definition.symm.trans failed
    | credentials _ fault _ _ failed => cases passed.credentials.symm.trans failed
    | environment _ _ fault _ found given refused =>
        cases passed.definition.symm.trans found
        cases passed.credentials.symm.trans given
        cases passed.environment.symm.trans refused
    | secret _ _ _ _ reference cause again pending failed =>
        -- The references that are pending are the same as before.
        cases passed.definition.symm.trans again.definition
        cases passed.credentials.symm.trans again.credentials
        cases passed.environment.symm.trans again.environment
        exact ⟨reference, pending, cause, failed, rfl⟩
  · rintro ⟨reference, pending, cause, failed, rfl⟩
    exact .secret loaded obtained prepared references reference cause passed pending failed

theorem Passed.not_firstFailure
    (passed : Passed surroundings request loaded obtained prepared references)
    (answered : ∀ reference ∈ references,
      (Secret.answerOf (clientFor surroundings request).answers reference).isOk)
    (fault : RunError) : ¬ FirstFailure surroundings request fault := by
  rw [passed.firstFailure_iff]
  rintro ⟨reference, pending, cause, failed, _⟩
  have value := answered reference pending
  rw [failed] at value
  cases value

/-- A preparation ends with the first failure, or with what all stages have given. -/
theorem prepare_cases (follows : resolver.Follows) (surroundings : Surroundings)
    (request : Request) :
    (∃ fault, FirstFailure surroundings request fault ∧
      (prepare surroundings resolver request).result = .error fault) ∨
    (∀ fault, ¬ FirstFailure surroundings request fault) ∧
      ∃ loaded obtained prepared references built,
        Passed surroundings request loaded obtained prepared references ∧
        Environment.Builds (clientFor surroundings request).answers obtained
          request.variableOverrides loaded built ∧
        (prepare surroundings resolver request).result =
          .ok (launchOf surroundings request loaded built) := by
  rcases failed_or_passed surroundings resolver request with
    failed | ⟨loaded, obtained, prepared, references, passed⟩
  · exact Or.inl failed
  · rcases failed_or_built follows (clientFor surroundings request) passed.environment with
      ⟨reference, pending, cause, failed, result⟩ | ⟨answered, built, builds, result⟩
    · refine Or.inl ⟨_, passed.firstFailure_iff.mpr ⟨reference, pending, cause, failed, rfl⟩, ?_⟩
      rw [passed.result_prepare, result]
      rfl
    · refine Or.inr ⟨passed.not_firstFailure answered, loaded, obtained, prepared, references,
        built, passed, builds, ?_⟩
      rw [passed.result_prepare, result]
      rfl

/-! ## The calls of the stages -/

variable {client : Aws} {call : Tool.Call}

theorem mem_calls_definition (member : call ∈ (definition surroundings client request).calls) :
    call.tool = client.path ∧ call.isLookup = false := by
  rw [definition] at member
  split at member
  · rw [definitionFromFile, Attempt.calls_within] at member
    simp only [Attempt.mem_calls_bind, Attempt.calls_record, Attempt.calls_ofResult,
      Attempt.calls_log, Attempt.calls_pure, List.not_mem_nil, and_false, exists_false,
      or_false] at member
  · simp only [Aws.definition, Attempt.calls_within, Attempt.mem_calls_bind, Attempt.calls_mapError,
      Attempt.calls_ofResult, List.not_mem_nil, and_false, exists_false, or_false, Aws.call,
      List.mem_singleton] at member
    subst call
    exact ⟨rfl, by simp [Tool.Call.isLookup, Aws.definitionArguments]⟩

theorem mem_calls_configuredRegion (member : call ∈ client.configuredRegion.calls) :
    call.tool = client.path ∧ call.isLookup = false := by
  simp only [Aws.configuredRegion, Attempt.mem_calls_bind, Attempt.calls_toOption,
    Attempt.calls_mapError, Attempt.calls_pure, List.not_mem_nil, and_false, exists_false, or_false,
    Aws.call, List.mem_singleton] at member
  subst call
  exact ⟨rfl, by simp [Tool.Call.isLookup, Aws.configuredRegionArguments]⟩

theorem mem_calls_credentials (member : call ∈ (credentials surroundings client).calls) :
    call.tool = client.path ∧ call.isLookup = false := by
  rw [credentials] at member
  split at member
  · simp only [Attempt.calls_ofResult, List.not_mem_nil] at member
  · simp only [Aws.credentials, Attempt.calls_within, Attempt.mem_calls_bind,
      Attempt.calls_mapError, Attempt.calls_ofResult, Attempt.calls_pure, List.not_mem_nil,
      and_false, exists_false, or_false, false_or, Aws.call, List.mem_singleton] at member
    rcases member with exporting | ⟨_, _, _, _, inSession⟩
    · subst call
      exact ⟨rfl, by simp [Tool.Call.isLookup, Aws.credentialsArguments]⟩
    · rw [Aws.sessionRegion] at inSession
      split at inSession
      · simp only [Attempt.give, List.not_mem_nil] at inSession
      · exact mem_calls_configuredRegion inSession

theorem mem_calls_environment (follows : resolver.Follows)
    {overrides : List Environment.Override}
    (member : call ∈ (environment client resolver loaded obtained overrides).calls) :
    ∃ prepared references,
      Environment.prepare loaded obtained overrides = .ok (prepared, references) ∧
        ∃ reference ∈ references, ∃ store, Secret.storeOf reference = .ok store ∧
          call.tool = client.path ∧
          call.arguments = Aws.secretArguments reference store ++ client.regionArguments := by
  rw [(Environment.preparation_builds client resolver loaded obtained overrides).2] at member
  cases success : Environment.prepare loaded obtained overrides with
  | error fault => simp only [success, List.not_mem_nil] at member
  | ok pair =>
      simp only [success, List.mem_flatMap] at member
      rcases member with ⟨lookup, asked, member⟩
      simp only [Aws.secret, Attempt.calls_mapError, Aws.call, List.mem_singleton] at member
      rcases follows client.answers pair.2 with ⟨events, outcome, reached, _⟩
      subst call
      exact ⟨pair.1, pair.2, rfl, lookup.2, reached.tracked.lookup_mem_references asked, lookup.1,
        reached.tracked.lookupsServed lookup asked, rfl, rfl⟩

theorem mem_calls_prepare (member : call ∈ (prepare surroundings resolver request).calls) :
    call ∈ (definition surroundings (clientFor surroundings request) request).calls ∨
    call ∈ (credentials surroundings (clientFor surroundings request)).calls ∨
    ∃ loaded obtained, request.validate = .ok () ∧
      (definition surroundings (clientFor surroundings request) request).result = .ok loaded ∧
      (credentials surroundings (clientFor surroundings request)).result = .ok obtained ∧
      call ∈ (environment (clientFor surroundings request) resolver loaded obtained
        request.variableOverrides).calls := by
  have client : clientOf surroundings (Settings.read surroundings.environment request.engine) =
      clientFor surroundings request := rfl
  simp only [prepare, client, Attempt.mem_calls_bind, Attempt.calls_ofResult, Attempt.calls_record,
    Attempt.calls_log, Attempt.calls_pure, List.not_mem_nil, and_false, exists_false, or_false,
    false_or, Attempt.result_ofResult] at member
  rcases member with
    ⟨⟨⟩, valid, _, _, loading | ⟨loaded, found, _, _, obtaining | ⟨obtained, given, building⟩⟩⟩
  · exact Or.inl loading
  · exact Or.inr (Or.inl obtaining)
  · refine Or.inr (Or.inr ⟨loaded, obtained, ?_, found, given, building⟩)
    cases checked : request.validate with
    | error fault =>
        rw [checked] at valid
        cases valid
    | ok => rfl

/-- Only the tool of the client is called, and for a secret only after all other stages. -/
theorem lookup_of_mem_calls (follows : resolver.Follows)
    (member : call ∈ (prepare surroundings resolver request).calls) :
    call.tool = (clientFor surroundings request).path ∧
      (call.isLookup → ∃ loaded obtained prepared references,
        Passed surroundings request loaded obtained prepared references ∧
          ∃ reference ∈ references, ∃ store, Secret.storeOf reference = .ok store ∧
            call.arguments = Aws.secretArguments reference store ++
              (clientFor surroundings request).regionArguments) := by
  rcases mem_calls_prepare member with
    loading | obtaining | ⟨loaded, obtained, valid, found, given, building⟩
  · rcases mem_calls_definition loading with ⟨tool, other⟩
    exact ⟨tool, fun asks => by rw [other] at asks; cases asks⟩
  · rcases mem_calls_credentials obtaining with ⟨tool, other⟩
    exact ⟨tool, fun asks => by rw [other] at asks; cases asks⟩
  · rcases mem_calls_environment follows building with
      ⟨prepared, references, success, reference, pending, store, served, tool, arguments⟩
    exact ⟨tool, fun _ => ⟨loaded, obtained, prepared, references, ⟨valid, found, given, success⟩,
      reference, pending, store, served, arguments⟩⟩

end Stages

end Preparation

end Workload
