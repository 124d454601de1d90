import Workload.Proofs.Environment.Precedence

/-!
# When an environment cannot be prepared

There are two ways to fail. An override may be for a container that the task definition does not
have; this is found first, whatever the secrets are. Otherwise a secret may find its variable taken:
by the identity of the session, by a declaration that counts, or by an earlier secret of the same
container. An override of the variable settles the matter, for then the secret is not needed.

A registration fails at one secret, after all before it were registered, and `Registered` says what
these have left behind. So the secret that fails is the first that collides.
-/

namespace Workload.Environment

/-- The override is for a container that the task definition does not have. -/
def Override.IsStray (definition : Task.Definition) (item : Override) : Prop :=
  ∃ container, item.container = some container ∧ container ∉ definition.names

/-- What else than an override claims a variable, when the given secrets came earlier. -/
inductive Taken (definition : Task.Definition) (credentials : Credentials)
    (earlier : List Task.Declared) (container key : String) : Prop where
  | identity (seeded : key ∈ Table.keys credentials.identityVariables)
  | declared (counted : ¬ Credentials.isIdentityName key)
      (member : ∃ plain ∈ definition.plainVariables,
        plain.container = container ∧ plain.name = key)
  | repeated (member : ∃ other ∈ earlier, other.container = container ∧ other.name = key)

/-- A secret that no override targets, and whose variable is taken. -/
structure Collides (definition : Task.Definition) (credentials : Credentials)
    (overrides : List Override) (earlier : List Task.Declared) (secret : Task.Declared) :
    Prop where
  untargeted : ∀ item ∈ overrides, item.sets secret.container secret.name = false
  taken : Taken definition credentials earlier secret.container secret.name

/-- Why an environment cannot be prepared. -/
inductive Failure (definition : Task.Definition) (credentials : Credentials)
    (overrides : List Override) : InputError → Prop where
  | stray {before after : List Override} {item : Override} {container : String}
      (split : overrides = before ++ item :: after) (target : item.container = some container)
      (unknown : container ∉ definition.names)
      (first : ∀ earlier ∈ before, ¬ earlier.IsStray definition) :
      Failure definition credentials overrides (.unknownContainer item.target container)
  | collision {before after : List Task.Declared} {secret : Task.Declared}
      (placed : ∀ item ∈ overrides, ¬ item.IsStray definition)
      (split : definition.secrets = before ++ secret :: after)
      (collides : Collides definition credentials overrides before secret)
      (first : ∀ earlier other later, before = earlier ++ other :: later →
        ¬ Collides definition credentials overrides earlier other) :
      Failure definition credentials overrides
        (.duplicateSecret secret.container secret.name)

/-! ## Where a registration fails -/

section Registration

variable {environment middle : Environment} {secret : Task.Declared}
  {secrets before after : List Task.Declared} {references : List String} {fault : InputError}

theorem registerAll_cons_eq_error :
    registerAll environment (secret :: secrets) = .error fault ↔
      register environment secret = .error fault ∨
        ∃ next reference, register environment secret = .ok (next, reference) ∧
          registerAll next secrets = .error fault := by
  simp only [registerAll, bind, Except.bind]
  cases first : register environment secret with
  | error other => simp
  | ok registered =>
      rcases registered with ⟨next, reference⟩
      cases others : registerAll next secrets with
      | error other => simp [others]
      | ok finished => simp [others, pure, Except.pure]

theorem registerAll_cons_of_ok {next : Environment} {reference : Option String}
    (first : register environment secret = .ok (next, reference))
    (others : registerAll next secrets = .ok (middle, references)) :
    registerAll environment (secret :: secrets) =
      .ok (middle, reference.toList ++ references) := by
  simp [registerAll, bind, Except.bind, first, others, pure, Except.pure]

/-- A registration fails at one secret, after all before it were registered. -/
theorem registerAll_eq_error_iff :
    registerAll environment secrets = .error fault ↔
      ∃ before secret after middle references, secrets = before ++ secret :: after ∧
        registerAll environment before = .ok (middle, references) ∧
          register middle secret = .error fault := by
  induction secrets generalizing environment with
  | nil =>
      constructor
      · intro failed
        cases failed
      · rintro ⟨before, secret, after, _, _, split, _⟩
        cases before <;> cases split
  | cons secret rest hypothesis =>
      rw [registerAll_cons_eq_error]
      constructor
      · rintro (failed | ⟨next, reference, first, failed⟩)
        · exact ⟨[], secret, rest, environment, [], rfl, rfl, failed⟩
        · rcases hypothesis.mp failed with
            ⟨before, other, after, middle, references, rfl, registered, fails⟩
          exact ⟨secret :: before, other, after, middle, _, rfl,
            registerAll_cons_of_ok first registered, fails⟩
      · rintro ⟨before, other, after, middle, references, split, registered, fails⟩
        rcases List.cons_eq_append_iff.mp split with ⟨rfl, here⟩ | ⟨earlier, rfl, rfl⟩
        · cases here
          cases registered
          exact Or.inl fails
        · rcases registerAll_cons_eq_ok registered with ⟨next, reference, further, first, others, _⟩
          right
          exact ⟨next, reference, first, hypothesis.mpr
            ⟨earlier, other, after, middle, further, rfl, others, fails⟩⟩

theorem register_eq_error_iff :
    register environment secret = .error fault ↔
      (∃ entry, environment.get? secret.container secret.name = some entry ∧
        entry.origin ≠ .operator) ∧
      fault = .duplicateSecret secret.container secret.name := by
  rw [register]
  split
  · rename_i entry found
    rw [found]
    by_cases overridden : entry.origin = .operator
    · simp [overridden]
    · simp only [overridden, if_false, Except.error.injEq, Option.some.injEq, exists_eq_left',
        ne_eq, not_false_eq_true, true_and]
      exact eq_comm
  · rename_i free
    simp [free]

end Registration

/-! ## Which secret collides -/

section Collision

variable {definition : Task.Definition} {credentials : Credentials} {overrides : List Override}
  {secret : Task.Declared} {before after : List Task.Declared} {middle : Environment}
  {references : List String} {fault : InputError} {container key : String}

theorem find?_reverse_eq_none
    (untargeted : ∀ item ∈ overrides, item.sets container key = false) :
    overrides.reverse.find? (fun item => item.sets container key) = none := by
  rw [List.find?_eq_none]
  intro item member
  simp [untargeted item (List.mem_reverse.mp member)]

/-- What stands in the place of a variable before secrets are registered. -/
theorem exists_get?_withoutSecrets_iff (known : container ∈ definition.names)
    (untargeted : ∀ item ∈ overrides, item.sets container key = false) :
    (∃ entry, (withoutSecrets definition credentials overrides).get? container key = some entry) ↔
      Taken definition credentials [] container key := by
  rw [← Option.isSome_iff_exists, get?_withoutSecrets _ _ known,
    find?_reverse_eq_none untargeted, Option.map_none, Option.none_or, Option.isSome_or,
    Option.isSome_map, Option.isSome_map, Bool.or_eq_true, List.find?_isSome,
    Option.isSome_iff_exists, ← Table.mem_keys_iff]
  constructor
  · rintro (⟨plain, member, counts⟩ | seeded)
    · simp only [declares, Bool.and_eq_true, decide_eq_true_eq, Bool.not_eq_true'] at counts
      rcases counts with ⟨⟨here, named⟩, counted⟩
      refine .declared ?_ ⟨plain, List.mem_reverse.mp member, here, named⟩
      simpa [← named] using counted
    · exact .identity seeded
  · intro taken
    cases taken with
    | identity seeded => exact Or.inr seeded
    | declared counted member =>
        rcases member with ⟨plain, member, here, named⟩
        left
        refine ⟨plain, List.mem_reverse.mpr member, ?_⟩
        simpa [declares, here, named] using counted
    | repeated member =>
        rcases member with ⟨other, member, _⟩
        cases member

theorem Taken.of_nil {earlier : List Task.Declared}
    (taken : Taken definition credentials [] container key) :
    Taken definition credentials earlier container key := by
  cases taken with
  | identity seeded => exact .identity seeded
  | declared counted member => exact .declared counted member
  | repeated member =>
      rcases member with ⟨other, member, _⟩
      cases member

theorem taken_iff {earlier : List Task.Declared} :
    Taken definition credentials earlier container key ↔
      Taken definition credentials [] container key ∨
        ∃ other ∈ earlier, other.container = container ∧ other.name = key := by
  constructor
  · intro taken
    cases taken with
    | identity seeded => exact Or.inl (.identity seeded)
    | declared counted member => exact Or.inl (.declared counted member)
    | repeated member => exact Or.inr member
  · rintro (taken | member)
    · exact taken.of_nil
    · exact .repeated member

variable (credentials) in
/-- What an override sets stands there when secrets are registered. -/
theorem get?_withoutSecrets_of_targeted (known : container ∈ definition.names)
    (targeted : ∃ item ∈ overrides, item.sets container key) :
    ∃ value, (withoutSecrets definition credentials overrides).get? container key =
      some ⟨value, .operator⟩ := by
  have some : (overrides.reverse.find? fun item => item.sets container key).isSome := by
    rw [List.find?_isSome]
    rcases targeted with ⟨item, member, sets⟩
    exact ⟨item, List.mem_reverse.mpr member, sets⟩
  rcases Option.isSome_iff_exists.mp some with ⟨item, found⟩
  refine ⟨item.value, ?_⟩
  rw [get?_withoutSecrets _ _ known, found]
  rfl

/-- After the secrets before it were registered, the next one fails just if it collides. -/
theorem register_fails_iff
    (known : ∀ other ∈ before ++ secret :: after, other.container ∈ definition.names)
    (registered : registerAll (withoutSecrets definition credentials overrides) before =
      .ok (middle, references)) :
    register middle secret = .error fault ↔
      Collides definition credentials overrides before secret ∧
        fault = .duplicateSecret secret.container secret.name := by
  have inNames : ∀ {name : String}, name ∈ definition.names →
      name ∈ (withoutSecrets definition credentials overrides).names := by
    intro name member
    rw [names_withoutSecrets]
    exact mem_names_seed.mpr member
  have here : secret.container ∈ definition.names :=
    known secret (List.mem_append_right _ (List.mem_cons_self ..))
  have result := registered_of_registerAll
    (fun other member => inNames (known other (List.mem_append_left _ member))) registered
  rw [register_eq_error_iff, result.found _ _ (inNames here)]
  apply and_congr_left
  intro _
  constructor
  · rintro ⟨entry, standing, notOverridden⟩
    have untargeted : ∀ item ∈ overrides,
        item.sets secret.container secret.name = false := by
      intro item member
      by_contra sets
      rcases get?_withoutSecrets_of_targeted credentials here
        ⟨item, member, by simpa using sets⟩ with ⟨value, placed⟩
      rw [placed, Option.some_or] at standing
      cases standing
      exact notOverridden rfl
    refine ⟨untargeted, taken_iff.mpr ?_⟩
    rw [Option.or_eq_some_iff] at standing
    rcases standing with placed | ⟨_, registeredEarlier⟩
    · exact Or.inl ((exists_get?_withoutSecrets_iff here untargeted).mp ⟨entry, placed⟩)
    · rw [Option.map_eq_some_iff] at registeredEarlier
      rcases registeredEarlier with ⟨other, found, _⟩
      have same := List.find?_some found
      simp only [isSecretOf, Bool.and_eq_true, decide_eq_true_eq] at same
      exact Or.inr ⟨other, List.mem_of_find?_eq_some found, same⟩
  · rintro ⟨untargeted, taken⟩
    cases placed : (withoutSecrets definition credentials overrides).get? secret.container
        secret.name with
    | some entry =>
        have plain := origin_of_get?_withoutSecrets (find?_reverse_eq_none untargeted) placed
        exact ⟨entry, rfl, by simp [plain]⟩
    | none =>
        rcases taken_iff.mp taken with taken | ⟨other, member, same⟩
        · have standing := (exists_get?_withoutSecrets_iff here untargeted).mpr taken
          simp [placed] at standing
        · have found : (before.find? (isSecretOf secret.container secret.name)).isSome := by
            rw [List.find?_isSome]
            exact ⟨other, member, by simpa [isSecretOf] using same⟩
          rcases Option.isSome_iff_exists.mp found with ⟨first, found⟩
          exact ⟨⟨first.value, .secret⟩, by simp [found], by simp⟩

end Collision

/-! ## How preparing fails -/

section Preparation

variable {definition : Task.Definition} {credentials : Credentials} {overrides : List Override}
  {fault : InputError}

theorem unknownContainer?_eq_none_iff :
    unknownContainer? definition overrides = none ↔
      ∀ item ∈ overrides, ¬ item.IsStray definition := by
  rw [unknownContainer?, List.findSome?_eq_none_iff]
  apply forall₂_congr
  intro item _
  cases target : item.container with
  | none => simp [Override.IsStray, target]
  | some container => simp [Override.IsStray, target]

theorem unknownContainer?_eq_some_iff :
    unknownContainer? definition overrides = some fault ↔
      ∃ before item after container, overrides = before ++ item :: after ∧
        item.container = some container ∧ container ∉ definition.names ∧
          (∀ earlier ∈ before, ¬ earlier.IsStray definition) ∧
            fault = .unknownContainer item.target container := by
  rw [unknownContainer?, List.findSome?_eq_some_iff]
  constructor
  · rintro ⟨before, item, after, split, fails, first⟩
    cases target : item.container with
    | none => simp [target] at fails
    | some container =>
        simp only [target, Option.ite_none_left_eq_some, Option.some.injEq] at fails
        rcases fails with ⟨unknown, same⟩
        refine ⟨before, item, after, container, split, target, unknown, ?_, same.symm⟩
        rw [← unknownContainer?_eq_none_iff, unknownContainer?, List.findSome?_eq_none_iff]
        exact first
  · rintro ⟨before, item, after, container, split, target, unknown, first, rfl⟩
    refine ⟨before, item, after, split, by simp [target, unknown], ?_⟩
    rw [← unknownContainer?_eq_none_iff, unknownContainer?, List.findSome?_eq_none_iff] at first
    exact first

/-- Once every override has its containers, it is the registration of secrets that may fail. -/
theorem prepare_eq_error_iff_of_placed (placed : ∀ item ∈ overrides, ¬ item.IsStray definition) :
    prepare definition credentials overrides = .error fault ↔
      registerAll (withoutSecrets definition credentials overrides) definition.secrets =
        .error fault := by
  rw [prepare, unknownContainer?_eq_none_iff.mpr placed]
  simp only [bind, Except.bind]
  cases registerAll (withoutSecrets definition credentials overrides) definition.secrets with
  | error other => simp
  | ok registered => simp [pure, Except.pure]

theorem known_of_split {before after : List Task.Declared} {secret : Task.Declared}
    (split : definition.secrets = before ++ secret :: after) :
    ∀ other ∈ before ++ secret :: after, other.container ∈ definition.names := by
  intro other member
  apply known_of_mem_secrets
  rw [split]
  exact member

/-- If no secret collides then all are registered. -/
theorem exists_registered {before after : List Task.Declared}
    (split : definition.secrets = before ++ after)
    (first : ∀ earlier other later, before = earlier ++ other :: later →
      ¬ Collides definition credentials overrides earlier other) :
    ∃ middle references,
      registerAll (withoutSecrets definition credentials overrides) before =
        .ok (middle, references) := by
  cases registered : registerAll (withoutSecrets definition credentials overrides) before with
  | ok result => exact ⟨result.1, result.2, rfl⟩
  | error fault =>
      rcases registerAll_eq_error_iff.mp registered with
        ⟨earlier, secret, later, middle, references, rfl, earlierRegistered, fails⟩
      rw [List.append_assoc, List.cons_append] at split
      have collides := (register_fails_iff (known_of_split split) earlierRegistered).mp fails
      exact absurd collides.1 (first earlier secret later rfl)

/-- A secret that collides is not registered, whether it is the first or not. -/
theorem registerAll_fails_of_collides {before after rest : List Task.Declared}
    {secret : Task.Declared} (split : definition.secrets = before ++ secret :: after ++ rest)
    (collides : Collides definition credentials overrides before secret) :
    ∃ fault, registerAll (withoutSecrets definition credentials overrides)
      (before ++ secret :: after) = .error fault := by
  cases registered : registerAll (withoutSecrets definition credentials overrides) before with
  | ok result =>
      rw [List.append_assoc, List.cons_append] at split
      refine ⟨.duplicateSecret secret.container secret.name, registerAll_eq_error_iff.mpr ?_⟩
      exact ⟨before, secret, after, result.1, result.2, rfl, registered,
        (register_fails_iff (known_of_split split) registered).mpr ⟨collides, rfl⟩⟩
  | error fault =>
      rcases registerAll_eq_error_iff.mp registered with
        ⟨earlier, other, later, middle, references, rfl, earlierRegistered, fails⟩
      refine ⟨fault, registerAll_eq_error_iff.mpr ?_⟩
      refine ⟨earlier, other, later ++ secret :: after, middle, references, ?_,
        earlierRegistered, fails⟩
      rw [List.append_assoc, List.cons_append]

theorem prepare_eq_error_iff :
    prepare definition credentials overrides = .error fault ↔
      Failure definition credentials overrides fault := by
  cases unknown : unknownContainer? definition overrides with
  | some other =>
      rw [prepare, unknown, Except.error.injEq]
      constructor
      · rintro rfl
        rcases unknownContainer?_eq_some_iff.mp unknown with
          ⟨before, item, after, container, split, target, absent, first, rfl⟩
        exact .stray split target absent first
      · intro failure
        cases failure with
        | stray split target absent first =>
            have found := unknownContainer?_eq_some_iff.mpr
              ⟨_, _, _, _, split, target, absent, first, rfl⟩
            rw [unknown, Option.some.injEq] at found
            exact found
        | collision placed split collides first =>
            rw [unknownContainer?_eq_none_iff.mpr placed] at unknown
            cases unknown
  | none =>
      have placed := unknownContainer?_eq_none_iff.mp unknown
      rw [prepare_eq_error_iff_of_placed placed, registerAll_eq_error_iff]
      constructor
      · rintro ⟨before, secret, after, middle, references, split, registered, fails⟩
        rcases (register_fails_iff (known_of_split split) registered).mp fails with
          ⟨collides, rfl⟩
        refine .collision placed split collides ?_
        rintro earlier other later rfl earlierCollides
        rcases registerAll_fails_of_collides split earlierCollides with ⟨fault, failed⟩
        rw [registered] at failed
        cases failed
      · intro failure
        cases failure with
        | stray split target absent first =>
            have found := unknownContainer?_eq_some_iff.mpr
              ⟨_, _, _, _, split, target, absent, first, rfl⟩
            rw [unknown] at found
            cases found
        | collision _ split collides first =>
            rcases exists_registered split first with ⟨middle, references, registered⟩
            exact ⟨_, _, _, middle, references, split, registered,
              (register_fails_iff (known_of_split split) registered).mpr ⟨collides, rfl⟩⟩

variable (credentials) in
/-- An environment fails to be prepared for an override if there is a stray one. -/
theorem exists_failure_of_stray {item : Override} (member : item ∈ overrides)
    (stray : item.IsStray definition) :
    ∃ target container,
      Failure definition credentials overrides (.unknownContainer target container) := by
  cases unknown : unknownContainer? definition overrides with
  | none => exact absurd stray (unknownContainer?_eq_none_iff.mp unknown item member)
  | some fault =>
      rcases unknownContainer?_eq_some_iff.mp unknown with
        ⟨before, first, after, container, split, target, absent, earlier, _⟩
      exact ⟨first.target, container, .stray split target absent earlier⟩

theorem exists_failure_of_collides {before after : List Task.Declared} {secret : Task.Declared}
    (placed : ∀ item ∈ overrides, ¬ item.IsStray definition)
    (split : definition.secrets = before ++ secret :: after)
    (collides : Collides definition credentials overrides before secret) :
    ∃ container name,
      Failure definition credentials overrides (.duplicateSecret container name) := by
  have whole : definition.secrets = before ++ secret :: after ++ [] := by
    rw [split, List.append_nil]
  rcases registerAll_fails_of_collides whole collides with ⟨fault, failed⟩
  rw [← split] at failed
  have failure := prepare_eq_error_iff.mp ((prepare_eq_error_iff_of_placed placed).mpr failed)
  cases failure with
  | stray strays target absent first =>
      refine absurd ⟨_, target, absent⟩ (placed _ ?_)
      simp [strays]
  | collision placed split collides first =>
      exact ⟨_, _, .collision placed split collides first⟩

end Preparation

/--
An environment that cannot be prepared has an override of an unknown container, of which the first
is named, or else a secret that collides, of which the first is named. So an unknown container is
named whatever the secrets are, and without either the environment is prepared.
-/
theorem preparation_fails_exactly (definition : Task.Definition) (credentials : Credentials)
    (overrides : List Override) :
    (∀ fault, prepare definition credentials overrides = .error fault ↔
      Failure definition credentials overrides fault) ∧
    ((∃ target container, prepare definition credentials overrides =
        .error (.unknownContainer target container)) ↔
      ∃ item ∈ overrides, item.IsStray definition) ∧
    ((∃ container name, prepare definition credentials overrides =
        .error (.duplicateSecret container name)) ↔
      (∀ item ∈ overrides, ¬ item.IsStray definition) ∧
        ∃ before secret after, definition.secrets = before ++ secret :: after ∧
          Collides definition credentials overrides before secret) ∧
    ((∃ environment references, prepare definition credentials overrides =
        .ok (environment, references)) ↔
      (∀ item ∈ overrides, ¬ item.IsStray definition) ∧
        ∀ before secret after, definition.secrets = before ++ secret :: after →
          ¬ Collides definition credentials overrides before secret) := by
  refine ⟨fun fault => prepare_eq_error_iff, ?_, ?_, ?_⟩
  · constructor
    · rintro ⟨target, container, failed⟩
      cases prepare_eq_error_iff.mp failed with
      | stray split target absent first => exact ⟨_, by simp [split], _, target, absent⟩
    · rintro ⟨item, member, stray⟩
      rcases exists_failure_of_stray credentials member stray with
        ⟨target, container, failure⟩
      exact ⟨target, container, prepare_eq_error_iff.mpr failure⟩
  · constructor
    · rintro ⟨container, name, failed⟩
      cases prepare_eq_error_iff.mp failed with
      | collision placed split collides first => exact ⟨placed, _, _, _, split, collides⟩
    · rintro ⟨placed, before, secret, after, split, collides⟩
      rcases exists_failure_of_collides placed split collides with ⟨container, name, failure⟩
      exact ⟨container, name, prepare_eq_error_iff.mpr failure⟩
  · constructor
    · rintro ⟨environment, references, prepared⟩
      have placed : ∀ item ∈ overrides, ¬ item.IsStray definition := by
        intro item member stray
        rcases exists_failure_of_stray credentials member stray with ⟨_, _, failure⟩
        rw [prepare_eq_error_iff.mpr failure] at prepared
        cases prepared
      refine ⟨placed, ?_⟩
      intro before secret after split collides
      rcases exists_failure_of_collides placed split collides with ⟨_, _, failure⟩
      rw [prepare_eq_error_iff.mpr failure] at prepared
      cases prepared
    · rintro ⟨placed, distinct⟩
      cases prepared : prepare definition credentials overrides with
      | ok result => exact ⟨result.1, result.2, rfl⟩
      | error fault =>
          cases prepare_eq_error_iff.mp prepared with
          | stray split target absent first =>
              exact absurd ⟨_, target, absent⟩ (placed _ (by simp [split]))
          | collision _ split collides first => exact absurd collides (distinct _ _ _ split)

end Workload.Environment
