import Workload.Preparation
import Workload.Proofs.Attempt
import Workload.Proofs.Environment.Precedence
import Workload.Proofs.Secret.Outcome

/-!
# Secrets are fetched once and put in their places

An environment that cannot be prepared leads to no resolution; otherwise building it is the
resolution of its references, followed by one substitution. A placeholder holds the reference that
its value is found under, so nothing but the placeholders is substituted and no value is substituted
again, whatever texts happen to be equal.
-/

namespace Workload.Environment

open Secret

/-- Replaces the text of every secret by what a function makes of it. -/
def withSecrets (value : String → String) (environment : Environment) : Environment :=
  ⟨Table.mapItems
    (fun _ entries => Table.mapItems
      (fun _ entry =>
        if entry.origin = .secret then ⟨value entry.text, .secret⟩ else entry) entries)
    environment.containers⟩

/-- How far building an environment has come. -/
inductive Building where
  | refused (fault : InputError)
  | resolving (prepared : Environment) (resolution : Resolution)

namespace Building

def begin (definition : Task.Definition) (credentials : Credentials)
    (overrides : List Override) : Building :=
  match prepare definition credentials overrides with
  | .error fault => .refused fault
  | .ok (prepared, references) => .resolving prepared (.initial references)

def step (answers : Answers) : Building → Resolution.Event → Option Building
  | .refused _, _ => none
  | .resolving prepared resolution, event =>
      (resolution.step answers event).map (.resolving prepared)

def lookups : Building → List (Store × String)
  | .refused _ => []
  | .resolving _ resolution => resolution.lookups

/-- What building ends with, once it has ended. -/
def result? : Building → Option (Except RunError Environment)
  | .refused fault => some (.error (.input fault))
  | .resolving prepared resolution =>
      resolution.outcome.map fun outcome =>
        match outcome with
        | .error cause => .error (.secret cause)
        | .ok values => .ok (prepared.fillSecrets values)

/-- What the references were resolved to. -/
def resolve : Building → List String → Except SecretError (List (String × String))
  | .refused _, _ => .ok []
  | .resolving _ resolution, _ => resolution.result

end Building

variable {definition : Task.Definition} {credentials : Credentials} {overrides : List Override}
  {answers : Answers} {events : List Resolution.Event} {environment prepared : Environment}
  {references : List String} {building : Building} {container key : String}

theorem build_of_error {fault : InputError}
    (refused : prepare definition credentials overrides = .error fault)
    (resolve : List String → Except SecretError (List (String × String))) :
    build definition credentials overrides resolve = .error (.input fault) := by
  rw [build, refused]

theorem build_of_ok
    (success : prepare definition credentials overrides = .ok (prepared, references))
    (resolve : List String → Except SecretError (List (String × String))) :
    build definition credentials overrides resolve =
      match resolve references with
      | .error cause => .error (.secret cause)
      | .ok values => .ok (prepared.fillSecrets values) := by
  cases outcome : resolve references <;> simp [build, success, outcome]

/--
Preparing a run builds the environment; the tool is called for the lookups of the resolution, of
which there are none if the environment is refused.
-/
theorem preparation_builds (client : Aws) (resolver : Resolver) (definition : Task.Definition)
    (credentials : Credentials) (overrides : List Override) :
    (Preparation.environment client resolver definition credentials overrides).result =
        build definition credentials overrides (fun references =>
          (resolver client.answers references).result) ∧
      (Preparation.environment client resolver definition credentials overrides).calls =
        match prepare definition credentials overrides with
        | .error _ => []
        | .ok (_, references) =>
            (resolver client.answers references).lookups.flatMap fun (store, reference) =>
              (client.secret store reference).calls := by
  cases success : prepare definition credentials overrides with
  | error fault =>
      rw [build_of_error success]
      simp [Preparation.environment, success, Except.mapError]
  | ok found =>
      rcases found with ⟨prepared, references⟩
      rw [build_of_ok success]
      cases outcome : (resolver client.answers references).result <;>
        simp [Preparation.environment, Preparation.secrets, success, outcome, Except.mapError]

/-! ## Building ends as the resolution does -/

theorem follow_refused {fault : InputError}
    (path : follow (Building.step answers) (.refused fault) events = some building) :
    building = .refused fault := by
  cases events with
  | nil =>
      cases path
      rfl
  | cons event events => cases path

theorem follow_resolving {resolution : Resolution}
    (path : follow (Building.step answers) (.resolving prepared resolution) events =
      some building) :
    ∃ later, building = .resolving prepared later ∧
      follow (Resolution.step answers) resolution events = some later := by
  induction events generalizing resolution with
  | nil =>
      cases path
      exact ⟨resolution, rfl, rfl⟩
  | cons event events hypothesis =>
      rcases follow_cons_eq_some.mp path with ⟨next, taken, rest⟩
      simp only [Building.step, Option.map_eq_some_iff] at taken
      rcases taken with ⟨after, taken, rfl⟩
      rcases hypothesis rest with ⟨later, rfl, onward⟩
      exact ⟨later, rfl, follow_cons_eq_some.mpr ⟨after, taken, onward⟩⟩

theorem follow_resolving_of_follow {resolution later : Resolution}
    (path : follow (Resolution.step answers) resolution events = some later) :
    follow (Building.step answers) (.resolving prepared resolution) events =
      some (.resolving prepared later) := by
  induction events generalizing resolution with
  | nil =>
      cases path
      rfl
  | cons event events hypothesis =>
      rcases follow_cons_eq_some.mp path with ⟨next, taken, rest⟩
      refine follow_cons_eq_some.mpr ⟨.resolving prepared next, ?_, hypothesis rest⟩
      rw [Building.step, taken]
      rfl

/-- Building either goes no way at all or the way of a resolution. -/
theorem building_cases
    (path : follow (Building.step answers) (.begin definition credentials overrides) events =
      some building) :
    (∃ fault, prepare definition credentials overrides = .error fault ∧
      building = .refused fault) ∨
    ∃ prepared references resolution,
      prepare definition credentials overrides = .ok (prepared, references) ∧
        building = .resolving prepared resolution ∧
        Resolution.Reaches answers references events resolution := by
  rw [Building.begin] at path
  cases success : prepare definition credentials overrides with
  | error fault =>
      rw [success] at path
      exact Or.inl ⟨fault, rfl, follow_refused path⟩
  | ok found =>
      rcases found with ⟨prepared, references⟩
      rw [success] at path
      rcases follow_resolving path with ⟨resolution, rfl, reached⟩
      exact Or.inr ⟨prepared, references, resolution, rfl, rfl, reached⟩

theorem build_of_result? {result : Except RunError Environment}
    (path : follow (Building.step answers) (.begin definition credentials overrides) events =
      some building) (ended : building.result? = some result) :
    build definition credentials overrides building.resolve = result := by
  rcases building_cases path with ⟨fault, refused, rfl⟩ | ⟨_, _, resolution, success, rfl, _⟩
  · cases ended
    exact build_of_error refused _
  · simp only [Building.result?, Option.map_eq_some_iff] at ended
    rcases ended with ⟨outcome, settled, rfl⟩
    rw [build_of_ok success, Building.resolve, Resolution.result, settled]
    rfl

/-- An environment that is built rests on a resolution that succeeded. -/
theorem resolved_of_built
    (path : follow (Building.step answers) (.begin definition credentials overrides) events =
      some building) (built : building.result? = some (.ok environment)) :
    ∃ prepared references resolution values,
      prepare definition credentials overrides = .ok (prepared, references) ∧
        building = .resolving prepared resolution ∧
        Resolution.Reaches answers references events resolution ∧
        resolution.outcome = some (.ok values) ∧ environment = prepared.fillSecrets values := by
  rcases building_cases path with
    ⟨fault, _, rfl⟩ | ⟨prepared, references, resolution, success, rfl, reached⟩
  · cases built
  · simp only [Building.result?, Option.map_eq_some_iff] at built
    rcases built with ⟨outcome, settled, same⟩
    cases outcome with
    | error cause => cases same
    | ok values =>
        cases same
        exact ⟨prepared, references, resolution, values, success, rfl, reached, settled, rfl⟩

/-- Whether an environment is built depends on which references are answered with a value only. -/
theorem isOk_result_iff {result : Except RunError Environment}
    (path : follow (Building.step answers) (.begin definition credentials overrides) events =
      some building) (ended : building.result? = some result) :
    result.isOk ↔ ∃ prepared references,
      prepare definition credentials overrides = .ok (prepared, references) ∧
        ∀ reference ∈ references, (answerOf answers reference).isOk := by
  rcases building_cases path with
    ⟨fault, refused, rfl⟩ | ⟨prepared, references, resolution, success, rfl, reached⟩
  · cases ended
    refine iff_of_false (by simp [Except.isOk, Except.toBool]) ?_
    rintro ⟨prepared, references, success, _⟩
    rw [refused] at success
    cases success
  · simp only [Building.result?, Option.map_eq_some_iff] at ended
    rcases ended with ⟨outcome, settled, rfl⟩
    have answered : outcome.isOk ↔ _ := reached.isOk_iff settled
    have sameOk : (match outcome with
        | .error cause => Except.error (RunError.secret cause)
        | .ok values => Except.ok (prepared.fillSecrets values)).isOk = outcome.isOk := by
      cases outcome <;> rfl
    rw [sameOk, answered]
    constructor
    · exact fun all => ⟨prepared, references, success, all⟩
    · rintro ⟨_, _, again, all⟩
      rw [success] at again
      cases again
      exact all

/-- However far building has come, it can still come to its end. -/
theorem exists_built
    (path : follow (Building.step answers) (.begin definition credentials overrides) events =
      some building) :
    ∃ further final, follow (Building.step answers) building further = some final ∧
      final.result?.isSome := by
  rcases building_cases path with
    ⟨fault, _, rfl⟩ | ⟨prepared, references, resolution, _, rfl, reached⟩
  · exact ⟨[], _, rfl, rfl⟩
  · rcases Resolution.exists_completion answers reached.tracked with
      ⟨further, final, outcome, onward, settled⟩
    refine ⟨further, .resolving prepared final, follow_resolving_of_follow onward, ?_⟩
    simp [Building.result?, settled]

/-! ## Placeholders give way to their values -/

theorem fillSecrets_eq_withSecrets (values : List (String × String)) (environment : Environment) :
    environment.fillSecrets values =
      environment.withSecrets fun reference =>
        (Table.find? reference values).getD reference := by
  simp only [fillSecrets, withSecrets, Table.mapItems]
  congr 1
  apply List.map_congr_left
  rintro ⟨name, entries⟩ _
  congr 1
  apply List.map_congr_left
  rintro ⟨key, entry⟩ _
  dsimp only
  split <;> rfl

/-- The references still to fetch are those of the secrets that no override targets. -/
theorem mem_references_iff
    (success : prepare definition credentials overrides = .ok (prepared, references))
    {reference : String} :
    reference ∈ references ↔
      ∃ container ∈ definition.containers, ∃ secret ∈ container.secrets,
        secret.reference = reference ∧
          ∀ item ∈ overrides, item.sets container.name secret.name = false := by
  rcases registered_of_prepare success with ⟨collected, rfl, registered⟩
  have collectedIff : reference ∈ collected ↔
      ∃ secret ∈ definition.secrets, secret.value = reference ∧
        ∀ item ∈ overrides, item.sets secret.container secret.name = false := by
    rw [registered.pending]
    apply exists_congr
    intro secret
    refine and_congr_right fun member => and_congr_right fun _ => ?_
    exact free_iff registered member
  rw [List.mem_eraseDups, collectedIff]
  simp [Task.Definition.secrets, and_assoc]

theorem mem_references_of_placeholder
    (success : prepare definition credentials overrides = .ok (prepared, references))
    {entry : Entry} (found : prepared.get? container key = some entry)
    (placeholder : entry.origin = .secret) : entry.text ∈ references := by
  rcases registered_of_prepare success with ⟨collected, rfl, registered⟩
  rw [List.mem_eraseDups, pending_iff registered]
  refine ⟨container, key, ?_⟩
  rw [found, ← placeholder]

/--
If the environment cannot be prepared, building it gives that error and looks nothing up. If it is
built, the references that were looked up are those of the secrets that no override targets, each
once and in the store that serves it, and all that differs from the prepared environment is the text
of the placeholders: it is what the store has answered for the reference of each. However far
building has come, it can still come to its end.
-/
theorem secrets_fetched_once
    (path : follow (Building.step answers) (.begin definition credentials overrides) events =
      some building) :
    (∀ fault, prepare definition credentials overrides = .error fault →
      building.result? = some (.error (.input fault)) ∧ building.lookups = [] ∧
        ∀ resolve, build definition credentials overrides resolve = .error (.input fault)) ∧
    (∀ environment, building.result? = some (.ok environment) →
      build definition credentials overrides building.resolve = .ok environment ∧
      (building.lookups.map Prod.snd).Nodup ∧
      (∀ reference, reference ∈ building.lookups.map Prod.snd ↔
        ∃ container ∈ definition.containers, ∃ secret ∈ container.secrets,
          secret.reference = reference ∧
            ∀ item ∈ overrides, item.sets container.name secret.name = false) ∧
      (∀ lookup ∈ building.lookups, storeOf lookup.2 = .ok lookup.1) ∧
      ∃ prepared references value,
        prepare definition credentials overrides = .ok (prepared, references) ∧
        environment = prepared.withSecrets value ∧
        ∀ container key entry, prepared.get? container key = some entry →
          entry.origin = .secret → answerOf answers entry.text = .ok (value entry.text)) ∧
    ∃ further final, follow (Building.step answers) building further = some final ∧
      final.result?.isSome := by
  refine ⟨?_, ?_, exists_built path⟩
  · intro fault refused
    rcases building_cases path with ⟨_, other, rfl⟩ | ⟨_, _, _, success, _, _⟩
    · rw [refused] at other
      cases other
      exact ⟨rfl, rfl, build_of_error refused⟩
    · rw [refused] at success
      cases success
  · intro environment built
    rcases resolved_of_built path built with
      ⟨prepared, references, resolution, values, success, rfl, reached, settled, rfl⟩
    have lookedUp : (resolution.lookups.map Prod.snd).Perm references.eraseDups :=
      reached.lookups_of_ok settled
    refine ⟨build_of_result? path built, ?_, ?_, reached.tracked.lookupsServed,
      prepared, references, _, success, fillSecrets_eq_withSecrets values prepared, ?_⟩
    · exact lookedUp.nodup_iff.mpr (nodup_eraseDups references)
    · intro reference
      rw [Building.lookups, lookedUp.mem_iff, List.mem_eraseDups, mem_references_iff success]
    · intro container key entry found placeholder
      -- A value was found, so the reference itself never stands in for one.
      have pending := mem_references_of_placeholder success found placeholder
      rcases reached.values_of_ok settled pending with ⟨value, known, answered⟩
      rw [known, Option.getD_some]
      exact answered

/-- A value that looks like the reference of another secret. -/
def crossedAnswers : Answers := fun _ reference =>
  .ok (if reference = "/shop/db" then "/shop/token" else "swordfish")

/-- An override whose value looks like a reference. -/
def referenceOverride : List Override :=
  [⟨some "worker", "DB", "/shop/token"⟩]

/-- The fetch that is started last is answered first. -/
def crossedFetches : List Resolution.Event :=
  [.start "/shop/token", .start "/shop/db", .ask "/shop/token", .ask "/shop/db",
    .answer "/shop/db", .answer "/shop/token", .see, .see, .conclude]

theorem crossed_values_kept_apart :
    ∃ building environment,
      follow (Building.step crossedAnswers) (.begin contested regionalSession referenceOverride)
        crossedFetches = some building ∧
      building.result? = some (.ok environment) ∧
      (building.lookups.map Prod.snd).Nodup ∧
      "/shop/db" ∈ building.lookups.map Prod.snd ∧
      environment.get? "web" "TOKEN" = some ⟨"swordfish", .secret⟩ ∧
      environment.get? "web" "DB" = some ⟨"/shop/token", .secret⟩ ∧
      environment.get? "worker" "DB" = some ⟨"/shop/token", .operator⟩ := by
  have path : follow (Building.step crossedAnswers)
      (.begin contested regionalSession referenceOverride) crossedFetches = some _ := rfl
  rcases (secrets_fetched_once path).2.1 _ rfl with ⟨_, once, lookedUp, _⟩
  refine ⟨_, _, path, rfl, once, (lookedUp "/shop/db").mpr ?_, rfl, rfl, rfl⟩
  exact ⟨contestedWeb, List.mem_cons_self .., ⟨"DB", "/shop/db"⟩, by decide, rfl, by decide⟩

end Workload.Environment
