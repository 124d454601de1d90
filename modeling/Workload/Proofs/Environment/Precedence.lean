import Workload.Proofs.Environment.Variables

/-!
# Which value of a variable takes precedence

The environment is prepared in four passes over a table that they share. Whatever is declared how
often and wherever, a variable ends up with the value of the last override that concerns it, else
with its secret, else with the identity of the session, else with the last value declared. What
makes this one order is that secrets are registered last and give way to nothing but overrides: any
other variable in their place is refused.
-/

namespace Workload.Environment

/-- The variable of a container that takes precedence over all others of its name. -/
def precedent? (credentials : Credentials) (overrides : List Override)
    (container : Task.Container) (key : String) : Option Entry :=
  match overrides.reverse.find? fun item => item.sets container.name key with
  | some item => some ⟨item.value, .operator⟩
  | none =>
      match container.secrets.find? fun secret => secret.name = key with
      | some secret => some ⟨secret.reference, .secret⟩
      | none =>
          match Table.find? key credentials.identityVariables with
          | some value => some ⟨value, .plain⟩
          | none =>
              if Credentials.isIdentityName key then none
              else
                (container.environment.reverse.find? fun declared => declared.name = key).map
                  fun declared => ⟨declared.value, .plain⟩

/-- The secret of the given container and name. -/
def isSecretOf (container key : String) (secret : Task.Declared) : Bool :=
  secret.container = container && secret.name = key

/-- A declaration that counts for the given variable. -/
def declares (container key : String) (declared : Task.Declared) : Bool :=
  declared.container = container && declared.name = key &&
    !Credentials.isIdentityName declared.name

/-! ## Registering secrets -/

/-- What registering secrets makes of an environment, and the references it collects. -/
structure Registered (before : Environment) (secrets : List Task.Declared) (after : Environment)
    (references : List String) : Prop where
  names : after.names = before.names
  tidy : before.Tidy → after.Tidy
  found : ∀ container key, container ∈ before.names → after.get? container key =
    (before.get? container key).or
      ((secrets.find? (isSecretOf container key)).map fun secret => ⟨secret.value, .secret⟩)
  unopposed : ∀ secret ∈ secrets, ∀ entry,
    before.get? secret.container secret.name = some entry → entry.origin = .operator
  placed : ∀ secret ∈ secrets, before.get? secret.container secret.name = none →
    after.get? secret.container secret.name = some ⟨secret.value, .secret⟩
  pending : ∀ reference, reference ∈ references ↔
    ∃ secret ∈ secrets, secret.value = reference ∧
      before.get? secret.container secret.name = none

variable {environment after : Environment} {secret : Task.Declared} {secrets : List Task.Declared}
  {references : List String}

theorem register_eq_ok {reference : Option String}
    (success : register environment secret = .ok (after, reference)) :
    (∃ entry, environment.get? secret.container secret.name = some entry ∧
      entry.origin = .operator ∧ after = environment ∧ reference = none) ∨
    (environment.get? secret.container secret.name = none ∧
      after = environment.put secret.container secret.name ⟨secret.value, .secret⟩ ∧
      reference = some secret.value) := by
  rw [register] at success
  split at success
  · rename_i entry found
    split at success
    · rename_i overridden
      cases success
      exact Or.inl ⟨entry, found, overridden, rfl, rfl⟩
    · cases success
  · rename_i free
    cases success
    exact Or.inr ⟨free, rfl, rfl⟩

theorem registerAll_cons_eq_ok
    (success : registerAll environment (secret :: secrets) = .ok (after, references)) :
    ∃ middle reference further, register environment secret = .ok (middle, reference) ∧
      registerAll middle secrets = .ok (after, further) ∧
      references = reference.toList ++ further := by
  simp only [registerAll, bind, Except.bind] at success
  cases first : register environment secret with
  | error fault => simp [first] at success
  | ok registered =>
      rcases registered with ⟨middle, reference⟩
      simp only [first] at success
      cases others : registerAll middle secrets with
      | error fault => simp [others] at success
      | ok finished =>
          rcases finished with ⟨final, further⟩
          simp only [others, pure, Except.pure, Except.ok.injEq, Prod.mk.injEq] at success
          rcases success with ⟨rfl, rfl⟩
          exact ⟨middle, reference, further, rfl, others, rfl⟩

theorem get?_put {container key : String} (known : container ∈ environment.names)
    (secret : Task.Declared) (entry : Entry) :
    (environment.put secret.container secret.name entry).get? container key =
      if isSecretOf container key secret then some entry else environment.get? container key := by
  rw [put, get?_putWhere _ _ _ known, isSecretOf]
  by_cases here : secret.container = container
  · simp [here]
  · simp [here, Ne.symm here]

namespace Registered

/-- A secret that is overridden changes nothing. -/
theorem skip {entry : Entry} (registered : Registered environment secrets after references)
    (found : environment.get? secret.container secret.name = some entry)
    (overridden : entry.origin = .operator) :
    Registered environment (secret :: secrets) after references := by
  refine ⟨registered.names, registered.tidy, ?_, ?_, ?_, ?_⟩
  · intro container key known
    rw [registered.found container key known, List.find?_cons]
    split
    · rename_i concerned
      simp only [isSecretOf, Bool.and_eq_true, decide_eq_true_eq] at concerned
      rcases concerned with ⟨rfl, rfl⟩
      simp [found]
    · rfl
  · intro other member present foundOther
    rcases List.mem_cons.mp member with rfl | further
    · rw [found] at foundOther
      cases foundOther
      exact overridden
    · exact registered.unopposed other further present foundOther
  · intro other member free
    rcases List.mem_cons.mp member with rfl | further
    · simp [found] at free
    · exact registered.placed other further free
  · intro reference
    rw [registered.pending]
    simp [found]

/-- A secret in whose place there is nothing leaves a placeholder, which no later one displaces. -/
theorem place (known : ∀ other ∈ secret :: secrets, other.container ∈ environment.names)
    (free : environment.get? secret.container secret.name = none)
    (registered : Registered
      (environment.put secret.container secret.name ⟨secret.value, .secret⟩)
      secrets after references) :
    Registered environment (secret :: secrets) after (secret.value :: references) := by
  have sameNames : (environment.put secret.container secret.name ⟨secret.value, .secret⟩).names =
      environment.names := names_putWhere ..
  have here := known secret (List.mem_cons_self ..)
  -- A second secret in the same place would have met the placeholder of the first.
  have apart : ∀ other ∈ secrets, isSecretOf other.container other.name secret = false := by
    intro other member
    by_contra same
    have placeholder : (environment.put secret.container secret.name
        ⟨secret.value, .secret⟩).get? other.container other.name =
          some ⟨secret.value, .secret⟩ := by
      rw [get?_put (known other (List.mem_cons_of_mem _ member)), if_pos (by simpa using same)]
    have overridden := registered.unopposed other member _ placeholder
    cases overridden
  have untouched : ∀ other ∈ secrets,
      (environment.put secret.container secret.name ⟨secret.value, .secret⟩).get?
        other.container other.name = environment.get? other.container other.name := by
    intro other member
    rw [get?_put (known other (List.mem_cons_of_mem _ member)), apart other member]
    rfl
  refine ⟨registered.names.trans sameNames, fun tidy => registered.tidy (tidy.putWhere _ _ _),
    ?_, ?_, ?_, ?_⟩
  · intro container key concerned
    rw [registered.found container key (sameNames ▸ concerned), get?_put concerned,
      List.find?_cons]
    cases same : isSecretOf container key secret with
    | false => simp
    | true =>
        simp only [isSecretOf, Bool.and_eq_true, decide_eq_true_eq] at same
        rcases same with ⟨rfl, rfl⟩
        simp [free]
  · intro other member entry found
    rcases List.mem_cons.mp member with rfl | further
    · simp [free] at found
    · exact registered.unopposed other further entry ((untouched other further).trans found)
  · intro other member absent
    rcases List.mem_cons.mp member with rfl | further
    · rw [registered.found _ _ (sameNames ▸ here), get?_put here, if_pos (by simp [isSecretOf])]
      rfl
    · exact registered.placed other further ((untouched other further).trans absent)
  · intro reference
    rw [List.mem_cons, registered.pending]
    constructor
    · rintro (rfl | ⟨other, member, rfl, absent⟩)
      · exact ⟨secret, List.mem_cons_self .., rfl, free⟩
      · exact ⟨other, List.mem_cons_of_mem _ member, rfl,
          (untouched other member).symm.trans absent⟩
    · rintro ⟨other, member, rfl, absent⟩
      rcases List.mem_cons.mp member with rfl | further
      · exact Or.inl rfl
      · exact Or.inr ⟨other, further, rfl, (untouched other further).trans absent⟩

end Registered

theorem registered_of_registerAll
    (known : ∀ secret ∈ secrets, secret.container ∈ environment.names)
    (success : registerAll environment secrets = .ok (after, references)) :
    Registered environment secrets after references := by
  induction secrets generalizing environment references with
  | nil =>
      cases success
      constructor <;> simp
  | cons secret rest hypothesis =>
      rcases registerAll_cons_eq_ok success with ⟨middle, reference, further, first, others, rfl⟩
      have knownRest : ∀ other ∈ rest, other.container ∈ environment.names := by
        intro other member
        exact known other (List.mem_cons_of_mem _ member)
      rcases register_eq_ok first with ⟨entry, found, overridden, rfl, rfl⟩ | ⟨free, rfl, rfl⟩
      · exact (hypothesis knownRest others).skip found overridden
      · have knownLater : ∀ other ∈ rest, other.container ∈
            (environment.put secret.container secret.name ⟨secret.value, .secret⟩).names := by
          intro other member
          rw [put, names_putWhere]
          exact knownRest other member
        exact Registered.place known free (hypothesis knownLater others)

/-! ## The environment before secrets are registered -/

variable {definition : Task.Definition} {credentials : Credentials} {overrides : List Override}
  {container key : String}

theorem names_withoutSecrets (definition : Task.Definition) (credentials : Credentials)
    (overrides : List Override) :
    (withoutSecrets definition credentials overrides).names =
      (seed definition credentials).names := by
  rw [withoutSecrets, names_foldl names_override, names_foldl names_declare]

theorem tidy_withoutSecrets (definition : Task.Definition) (credentials : Credentials)
    (overrides : List Override) : (withoutSecrets definition credentials overrides).Tidy := by
  apply Tidy.foldl fun _ item tidy => tidy.override item
  apply Tidy.foldl fun _ item tidy => tidy.declare item
  exact tidy_seed definition credentials

theorem get?_withoutSecrets (credentials : Credentials) (overrides : List Override)
    (known : container ∈ definition.names) (key : String) :
    (withoutSecrets definition credentials overrides).get? container key =
      ((overrides.reverse.find? fun item => item.sets container key).map
        fun item => ⟨item.value, .operator⟩).or
      (((definition.plainVariables.reverse.find? (declares container key)).map
        fun declared => ⟨declared.value, .plain⟩).or
      ((Table.find? key credentials.identityVariables).map fun value => ⟨value, .plain⟩)) := by
  have seeded : container ∈ (seed definition credentials).names := mem_names_seed.mpr known
  have declaredKnown : container ∈
      (definition.plainVariables.foldl declare (seed definition credentials)).names := by
    rw [names_foldl names_declare]
    exact seeded
  rw [withoutSecrets, get?_foldl names_override (fun _ item known => get?_override known item)
    declaredKnown, get?_foldl names_declare (fun _ item known => get?_declare known item) seeded,
    get?_seed known]
  rfl

/-- A variable that no override sets is plain before secrets are registered. -/
theorem origin_of_get?_withoutSecrets {entry : Entry}
    (free : overrides.reverse.find? (fun item => item.sets container key) = none)
    (found : (withoutSecrets definition credentials overrides).get? container key = some entry) :
    entry.origin = .plain := by
  have known : container ∈ definition.names := by
    have named := mem_names_of_get? found
    rw [names_withoutSecrets] at named
    exact mem_names_seed.mp named
  rw [get?_withoutSecrets _ _ known, free, Option.map_none, Option.none_or, Option.or_eq_some_iff]
    at found
  rcases found with declared | ⟨_, identity⟩
  · rw [Option.map_eq_some_iff] at declared
    rcases declared with ⟨_, _, rfl⟩
    rfl
  · rw [Option.map_eq_some_iff] at identity
    rcases identity with ⟨_, _, rfl⟩
    rfl

/-! ## The prepared environment -/

theorem known_of_mem_secrets (member : secret ∈ definition.secrets) :
    secret.container ∈ definition.names := by
  simp only [Task.Definition.secrets, List.mem_flatMap, List.mem_map] at member
  rcases member with ⟨container, declared, _, _, rfl⟩
  exact List.mem_map_of_mem declared

theorem registered_of_prepare
    (prepared : prepare definition credentials overrides = .ok (environment, references)) :
    ∃ collected, references = collected.eraseDups ∧
      Registered (withoutSecrets definition credentials overrides) definition.secrets environment
        collected := by
  rw [prepare] at prepared
  split at prepared
  · cases prepared
  · simp only [bind, Except.bind] at prepared
    cases success : registerAll (withoutSecrets definition credentials overrides)
        definition.secrets with
    | error fault => simp [success] at prepared
    | ok registered =>
        rcases registered with ⟨after, collected⟩
        simp only [success, pure, Except.pure, Except.ok.injEq, Prod.mk.injEq] at prepared
        rcases prepared with ⟨rfl, rfl⟩
        refine ⟨collected, rfl, registered_of_registerAll ?_ success⟩
        intro secret member
        rw [names_withoutSecrets]
        exact mem_names_seed.mpr (known_of_mem_secrets member)

/-- A secret that no override targets finds its place free. -/
theorem free_iff {collected : List String}
    (registered : Registered (withoutSecrets definition credentials overrides) definition.secrets
      environment collected) (member : secret ∈ definition.secrets) :
    (withoutSecrets definition credentials overrides).get? secret.container secret.name = none ↔
      ∀ item ∈ overrides, item.sets secret.container secret.name = false := by
  constructor
  · intro free item given
    rw [get?_withoutSecrets _ _ (known_of_mem_secrets member), Option.or_eq_none_iff,
      Option.map_eq_none_iff, List.find?_eq_none] at free
    simpa using free.1 item (List.mem_reverse.mpr given)
  · intro untargeted
    have free : overrides.reverse.find?
        (fun item => item.sets secret.container secret.name) = none := by
      rw [List.find?_eq_none]
      intro item given
      simp [untargeted item (List.mem_reverse.mp given)]
    cases found : (withoutSecrets definition credentials overrides).get?
        secret.container secret.name with
    | none => rfl
    | some entry =>
        have plain := origin_of_get?_withoutSecrets free found
        have overridden := registered.unopposed secret member entry found
        rw [plain] at overridden
        cases overridden

/-- Only the container's own declarations can be wanted. -/
theorem find?_flatMap_own {containers : List Task.Container} {container : Task.Container}
    (distinct : (containers.map Task.Container.name).Nodup) (member : container ∈ containers)
    {declared : Task.Container → List Task.Declared}
    (own : ∀ other, ∀ item ∈ declared other, item.container = other.name)
    {wanted : Task.Declared → Bool} (only : ∀ item, wanted item → item.container = container.name) :
    (containers.flatMap declared).find? wanted = (declared container).find? wanted := by
  rcases List.append_of_mem member with ⟨before, after, rfl⟩
  have unwanted : ∀ others : List Task.Container, container.name ∉ others.map Task.Container.name →
      (others.flatMap declared).find? wanted = none := by
    intro others apart
    rw [List.find?_eq_none]
    intro item among matching
    rcases List.mem_flatMap.mp among with ⟨other, otherMember, itemMember⟩
    apply apart
    rw [← only item matching, own other item itemMember]
    exact List.mem_map_of_mem otherMember
  simp only [List.map_append, List.map_cons, List.nodup_append, List.nodup_cons] at distinct
  have apartBefore : container.name ∉ before.map Task.Container.name := by
    intro among
    exact distinct.2.2 _ among _ (List.mem_cons_self ..) rfl
  rw [List.flatMap_append, List.find?_append, unwanted before apartBefore, Option.none_or,
    List.flatMap_cons, List.find?_append, unwanted after distinct.2.1.1, Option.or_none]

section Own

variable {container : Task.Container} (distinct : definition.names.Nodup)
  (member : container ∈ definition.containers)

include distinct member

theorem find?_secrets (key : String) :
    (definition.secrets.find? (isSecretOf container.name key)).map Task.Declared.value =
      (container.secrets.find? fun secret => secret.name = key).map Task.Secret.reference := by
  rw [Task.Definition.secrets, find?_flatMap_own distinct member]
  · simp [List.find?_map, Function.comp_def, isSecretOf]
  · simp only [List.mem_map]
    rintro other _ ⟨secret, _, rfl⟩
    rfl
  · intro item wanted
    simp only [isSecretOf, Bool.and_eq_true, decide_eq_true_eq] at wanted
    exact wanted.1

theorem find?_plainVariables (key : String) :
    (definition.plainVariables.reverse.find? (declares container.name key)).map
        Task.Declared.value =
      if Credentials.isIdentityName key then none
      else (container.environment.reverse.find? fun declared => declared.name = key).map
        Task.Variable.value := by
  have reversed : (definition.containers.reverse.map Task.Container.name).Nodup := by
    rw [List.map_reverse, List.nodup_reverse]
    exact distinct
  rw [Task.Definition.plainVariables, List.reverse_flatMap,
    find?_flatMap_own reversed (List.mem_reverse.mpr member)]
  · simp only [Function.comp_apply, ← List.map_reverse, List.find?_map, Option.map_map]
    have counts : ∀ declared : Task.Variable,
        declares container.name key ⟨container.name, declared.name, declared.value⟩ =
          (decide (declared.name = key) && !Credentials.isIdentityName key) := by
      intro declared
      by_cases same : declared.name = key <;> simp [declares, same]
    simp only [Function.comp_def, counts]
    cases Credentials.isIdentityName key <;> simp
  · simp only [Function.comp_apply, List.mem_reverse, List.mem_map]
    rintro other _ ⟨secret, _, rfl⟩
    rfl
  · intro item wanted
    simp only [declares, Bool.and_eq_true, decide_eq_true_eq] at wanted
    exact wanted.1.1

theorem get?_of_registered {collected : List String}
    (registered : Registered (withoutSecrets definition credentials overrides) definition.secrets
      environment collected) (key : String) :
    environment.get? container.name key = precedent? credentials overrides container key := by
  have known : container.name ∈ definition.names := List.mem_map_of_mem member
  have knownBefore : container.name ∈ (withoutSecrets definition credentials overrides).names := by
    rw [names_withoutSecrets]
    exact mem_names_seed.mpr known
  have secretOf := find?_secrets distinct member key
  have declaredOf := find?_plainVariables distinct member key
  have before := get?_withoutSecrets credentials overrides known key
  rw [registered.found _ _ knownBefore, precedent?]
  cases overriding : overrides.reverse.find? fun item => item.sets container.name key with
  | some item => simp [before, overriding]
  | none =>
      cases own : container.secrets.find? fun secret => secret.name = key with
      | some secret =>
          rw [own, Option.map_some, Option.map_eq_some_iff] at secretOf
          rcases secretOf with ⟨declared, found, reference⟩
          have place := List.find?_some found
          simp only [isSecretOf, Bool.and_eq_true, decide_eq_true_eq] at place
          rcases place with ⟨inContainer, named⟩
          have free := (free_iff registered (List.mem_of_find?_eq_some found)).mpr
          rw [inContainer, named] at free
          simp [free (by simpa using overriding), found, reference]
      | none =>
          rw [own, Option.map_none, Option.map_eq_none_iff] at secretOf
          rw [before, overriding, secretOf]
          simp only [Option.map_none, Option.none_or, Option.or_none]
          cases identity : Table.find? key credentials.identityVariables with
          | some value =>
              rw [if_pos (isIdentityName_of_find? identity), Option.map_eq_none_iff] at declaredOf
              simp [declaredOf]
          | none =>
              have entryOf := congrArg (Option.map fun value => Entry.mk value .plain) declaredOf
              rw [apply_ite (Option.map fun value => Entry.mk value .plain)] at entryOf
              simpa [Option.map_map, Function.comp_def] using entryOf

end Own

theorem pending_iff {collected : List String} {reference : String}
    (registered : Registered (withoutSecrets definition credentials overrides) definition.secrets
      environment collected) :
    reference ∈ collected ↔
      ∃ container key, environment.get? container key = some ⟨reference, .secret⟩ := by
  rw [registered.pending]
  constructor
  · rintro ⟨secret, member, rfl, free⟩
    exact ⟨secret.container, secret.name, registered.placed secret member free⟩
  · rintro ⟨container, key, placeholder⟩
    have known : container ∈ (withoutSecrets definition credentials overrides).names := by
      rw [← registered.names]
      exact mem_names_of_get? placeholder
    have defined : container ∈ definition.names := by
      rw [names_withoutSecrets] at known
      exact mem_names_seed.mp known
    rw [registered.found container key known, Option.or_eq_some_iff] at placeholder
    rcases placeholder with earlier | ⟨free, own⟩
    · -- No variable is secret before secrets are registered.
      rw [get?_withoutSecrets _ _ defined] at earlier
      simp [Option.or_eq_some_iff] at earlier
    · rw [Option.map_eq_some_iff] at own
      rcases own with ⟨secret, found, same⟩
      have place := List.find?_some found
      simp only [isSecretOf, Bool.and_eq_true, decide_eq_true_eq] at place
      rcases place with ⟨rfl, rfl⟩
      cases same
      exact ⟨secret, List.mem_of_find?_eq_some found, rfl, free⟩

/--
When the environment can be prepared, it has the containers of the task definition, each with a
table of variables, and every variable of a container is the one that takes precedence. The
references still to fetch are those of the placeholders, each once.
-/
theorem prepared_by_precedence (distinct : definition.names.Nodup)
    (prepared : prepare definition credentials overrides = .ok (environment, references)) :
    environment.names = definition.names ∧
    (∀ container ∈ definition.containers, ∀ key,
      environment.get? container.name key = precedent? credentials overrides container key) ∧
    (∀ container entries, environment.entries? container = some entries →
      (Table.keys entries).Nodup) ∧
    references.Nodup ∧
    ∀ reference, reference ∈ references ↔
      ∃ container key, environment.get? container key = some ⟨reference, .secret⟩ := by
  rcases registered_of_prepare prepared with ⟨collected, rfl, registered⟩
  refine ⟨?_, ?_, ?_, nodup_eraseDups collected, ?_⟩
  · rw [registered.names, names_withoutSecrets, names_seed, eraseDups_of_nodup distinct]
  · intro container member key
    exact get?_of_registered distinct member registered key
  · intro container entries found
    have tidy := registered.tidy (tidy_withoutSecrets definition credentials overrides)
    exact (tidy container entries found).nodup_keys
  · intro reference
    rw [List.mem_eraseDups]
    exact pending_iff registered

/-- A container that declares some variables twice, one in vain, and shares a secret. -/
def contestedWeb : Task.Container where
  name := "web"
  environment := [⟨"LOG", "debug"⟩, ⟨"LOG", "info"⟩, ⟨"AWS_REGION", "nowhere"⟩]
  secrets := [⟨"TOKEN", "/shop/token"⟩, ⟨"DB", "/shop/db"⟩]

/-- Two containers with variables for which there are several values. -/
def contested : Task.Definition where
  containers := [contestedWeb, { name := "worker", secrets := [⟨"DB", "/shop/db"⟩] }]

/-- A session with a region. -/
def regionalSession : Credentials where
  accessKeyId := "AK"
  secretAccessKey := "SK"
  region := some "eu-west-1"

/-- Overrides that set a variable everywhere and then once more in one container. -/
def tokenOverrides : List Override :=
  [⟨none, "TOKEN", "anywhere"⟩, ⟨some "web", "TOKEN", "here"⟩]

theorem contested_variables_settled :
    ∃ environment references,
      prepare contested regionalSession tokenOverrides = .ok (environment, references) ∧
        environment.get? "web" "TOKEN" = some ⟨"here", .operator⟩ ∧
        environment.get? "web" "DB" = some ⟨"/shop/db", .secret⟩ ∧
        environment.get? "web" "AWS_REGION" = some ⟨"eu-west-1", .plain⟩ ∧
        environment.get? "web" "LOG" = some ⟨"info", .plain⟩ := by
  have distinct : contested.names.Nodup := by decide
  have prepared : prepare contested regionalSession tokenOverrides = .ok (_, _) := rfl
  have settled := (prepared_by_precedence distinct prepared).2.1 contestedWeb
    (List.mem_cons_self ..)
  exact ⟨_, _, prepared, settled "TOKEN", settled "DB", settled "AWS_REGION", settled "LOG"⟩

end Workload.Environment
