import Workload.Proofs.Environment.Precedence

/-!
# What becomes of a declared variable

A variable that a container declares is found in its environment under the same name. It has the
value declared last, unless the session identity or an override supplies one for that name.

Which names give way to the identity is decided by the name alone, and which values the identity
supplies depends on the session. The two part company in one place: a session without a region
supplies nothing for the names of the region, and yet a declaration under one of them is passed
over. Unless an override sets it, such a variable is forfeited, and what is found under its name is
a secret if there is one, and nothing otherwise.
-/

namespace Workload.Environment

/-- No override sets the given variable of the given container. -/
def Untargeted (overrides : List Override) (container key : String) : Prop :=
  ∀ item ∈ overrides, item.sets container key = false

/-- The entries that keep a declared variable: with the value declared last, or one supplied. -/
inductive Keeps (credentials : Credentials) (overrides : List Override)
    (container : Task.Container) (key : String) : Entry → Prop where
  | overridden {before after : List Override} {item : Override}
      (split : overrides = before ++ item :: after) (sets : item.sets container.name key)
      (last : Untargeted after container.name key) :
      Keeps credentials overrides container key ⟨item.value, .operator⟩
  | identity {value : String} (untargeted : Untargeted overrides container.name key)
      (supplied : Table.find? key credentials.identityVariables = some value) :
      Keeps credentials overrides container key ⟨value, .plain⟩
  | declared {before after : List Task.Variable} {declared : Task.Variable}
      (untargeted : Untargeted overrides container.name key)
      (unsupplied : Table.find? key credentials.identityVariables = none)
      (split : container.environment = before ++ declared :: after) (named : declared.name = key)
      (last : ∀ later ∈ after, later.name ≠ key) :
      Keeps credentials overrides container key ⟨declared.value, .plain⟩

/-- A variable named like the region of a session that has none, and which no override sets. -/
structure Forfeited (credentials : Credentials) (overrides : List Override)
    (container key : String) : Prop where
  regional : key = Credentials.regionName ∨ key = Credentials.defaultRegionName
  regionless : credentials.region = none
  untargeted : Untargeted overrides container key

/-- What is found last stands before items that are not wanted. -/
theorem exists_split_of_find?_reverse {Item : Type} {items : List Item} {wanted : Item → Bool}
    {item : Item} (found : items.reverse.find? wanted = some item) :
    ∃ before after, items = before ++ item :: after ∧ wanted item ∧
      ∀ later ∈ after, wanted later = false := by
  rw [List.find?_eq_some_iff_append] at found
  rcases found with ⟨this, after, before, split, unwanted⟩
  refine ⟨before.reverse, after.reverse, ?_, this, ?_⟩
  · rw [← List.reverse_reverse items, split]
    simp
  · intro later member
    simpa using unwanted later (List.mem_reverse.mp member)

section Identity

variable (credentials : Credentials) {key : String}

/-- A session supplies the region's names if it has a region, and the other names always. -/
theorem keys_identityVariables :
    Table.keys credentials.identityVariables =
      if credentials.region.isSome then Credentials.identityNames
      else [Credentials.accessKeyIdName, Credentials.secretAccessKeyName,
        Credentials.sessionTokenName] := by
  rw [Credentials.identityVariables]
  cases credentials.region <;> rfl

theorem unsupplied_iff :
    Credentials.isIdentityName key ∧ Table.find? key credentials.identityVariables = none ↔
      (key = Credentials.regionName ∨ key = Credentials.defaultRegionName) ∧
        credentials.region = none := by
  rw [Table.find?_eq_none_iff, keys_identityVariables, Credentials.isIdentityName,
    decide_eq_true_eq]
  cases credentials.region with
  | some region => simp
  | none =>
      simp only [Option.isSome_none, Bool.false_eq_true, if_false, and_true]
      constructor
      · rintro ⟨identityName, unsupplied⟩
        simp only [List.mem_cons, List.not_mem_nil, or_false, not_or] at unsupplied
        simpa [Credentials.identityNames, unsupplied, or_comm] using identityName
      · rintro (rfl | rfl)
        · decide
        · decide

end Identity

section Precedence

variable {credentials : Credentials} {overrides : List Override} {container : Task.Container}
  {key : String}

theorem untargeted_iff {name : String} :
    overrides.reverse.find? (fun item => item.sets name key) = none ↔
      Untargeted overrides name key := by
  simp [Untargeted]

theorem Forfeited.precedent?_eq
    (forfeited : Forfeited credentials overrides container.name key) :
    precedent? credentials overrides container key =
      (container.secrets.find? fun secret => secret.name = key).map
        fun secret => ⟨secret.reference, .secret⟩ := by
  rcases (unsupplied_iff credentials).mpr ⟨forfeited.regional, forfeited.regionless⟩ with
    ⟨identityName, unsupplied⟩
  rw [precedent?, untargeted_iff.mpr forfeited.untargeted, unsupplied, if_pos identityName]
  cases container.secrets.find? fun secret => secret.name = key <;> rfl

theorem Forfeited.not_keeps {entry : Entry}
    (forfeited : Forfeited credentials overrides container.name key)
    (found : precedent? credentials overrides container key = some entry) :
    ¬ Keeps credentials overrides container key entry := by
  intro keeps
  cases keeps with
  | @overridden before after item split sets last =>
      have untargeted := forfeited.untargeted item (by simp [split])
      rw [sets] at untargeted
      cases untargeted
  | identity untargeted supplied =>
      have unsupplied := ((unsupplied_iff credentials).mpr
        ⟨forfeited.regional, forfeited.regionless⟩).2
      rw [supplied] at unsupplied
      cases unsupplied
  | declared =>
      -- Only a secret is found under a forfeited name.
      rw [forfeited.precedent?_eq, Option.map_eq_some_iff] at found
      rcases found with ⟨secret, _, same⟩
      simp only [Entry.mk.injEq, reduceCtorEq, and_false] at same

/-- Where no secret stands in the way, a variable that is not forfeited is kept. -/
theorem exists_keeps (declares : ∃ declared ∈ container.environment, declared.name = key)
    (unhindered : Untargeted overrides container.name key →
      container.secrets.find? (fun secret => secret.name = key) = none)
    (unforfeited : ¬ Forfeited credentials overrides container.name key) :
    ∃ entry, precedent? credentials overrides container key = some entry ∧
      Keeps credentials overrides container key entry := by
  rw [precedent?]
  cases overriding : overrides.reverse.find? fun item => item.sets container.name key with
  | some item =>
      rcases exists_split_of_find?_reverse overriding with ⟨before, after, split, sets, last⟩
      exact ⟨_, rfl, .overridden split sets last⟩
  | none =>
      have untargeted := untargeted_iff.mp overriding
      rw [unhindered untargeted]
      cases supplied : Table.find? key credentials.identityVariables with
      | some value => exact ⟨_, rfl, .identity untargeted supplied⟩
      | none =>
          have counts : ¬ Credentials.isIdentityName key := by
            intro identityName
            rcases (unsupplied_iff credentials).mp ⟨identityName, supplied⟩ with
              ⟨regional, regionless⟩
            exact unforfeited ⟨regional, regionless, untargeted⟩
          cases found : container.environment.reverse.find? fun declared => declared.name = key with
          | none =>
              rcases declares with ⟨declared, member, named⟩
              simp only [List.find?_eq_none, List.mem_reverse, decide_eq_true_eq] at found
              exact absurd named (found declared member)
          | some declared =>
              rcases exists_split_of_find?_reverse found with ⟨before, after, split, named, last⟩
              refine ⟨_, if_neg counts, .declared untargeted supplied split ?_ ?_⟩
              · simpa using named
              · simpa using last

end Precedence

section Preparation

variable {definition : Task.Definition} {credentials : Credentials} {overrides : List Override}
  {environment : Environment} {references : List String} {container : Task.Container}
  {key : String}

/-- A secret beside a declaration that counts is refused, unless an override settles the matter. -/
theorem forfeited_of_secret (distinct : definition.names.Nodup)
    (member : container ∈ definition.containers) {collected : List String}
    (registered : Registered (withoutSecrets definition credentials overrides) definition.secrets
      environment collected)
    (declares : ∃ declared ∈ container.environment, declared.name = key)
    (untargeted : Untargeted overrides container.name key) {secret : Task.Secret}
    (found : container.secrets.find? (fun secret => secret.name = key) = some secret) :
    Forfeited credentials overrides container.name key := by
  have registers : (definition.secrets.find? (isSecretOf container.name key)).map
      Task.Declared.value = some secret.reference := by
    rw [find?_secrets distinct member, found]
    rfl
  rw [Option.map_eq_some_iff] at registers
  rcases registers with ⟨own, ownFound, _⟩
  have place := List.find?_some ownFound
  simp only [isSecretOf, Bool.and_eq_true, decide_eq_true_eq] at place
  rcases place with ⟨inContainer, named⟩
  have free := (free_iff registered (List.mem_of_find?_eq_some ownFound)).mpr (by
    rw [inContainer, named]
    exact untargeted)
  rw [inContainer, named, get?_withoutSecrets _ _ (List.mem_map_of_mem member),
    Option.or_eq_none_iff, Option.or_eq_none_iff, Option.map_eq_none_iff, Option.map_eq_none_iff,
    Option.map_eq_none_iff] at free
  rcases free with ⟨_, uncounted, unsupplied⟩
  have identityName : Credentials.isIdentityName key := by
    by_contra counts
    have declaredOf := find?_plainVariables distinct member key
    rw [uncounted, if_neg counts, Option.map_none, eq_comm, Option.map_eq_none_iff,
      List.find?_eq_none] at declaredOf
    rcases declares with ⟨declared, declaredMember, sameName⟩
    exact declaredOf declared (List.mem_reverse.mpr declaredMember) (by simpa using sameName)
  rcases (unsupplied_iff credentials).mp ⟨identityName, unsupplied⟩ with ⟨regional, regionless⟩
  exact ⟨regional, regionless, untargeted⟩

/--
When the environment can be prepared, a variable that a container declares is kept in its
environment, with the value declared last or one that the session identity or an override supplies,
except exactly when it is forfeited. Then its name is left to a secret, if the container has one.
-/
theorem declared_variable_kept_unless_forfeited (distinct : definition.names.Nodup)
    (prepared : prepare definition credentials overrides = .ok (environment, references)) :
    ∀ container ∈ definition.containers, ∀ declared ∈ container.environment,
      ((∃ entry, environment.get? container.name declared.name = some entry ∧
          Keeps credentials overrides container declared.name entry) ↔
        ¬ Forfeited credentials overrides container.name declared.name) ∧
      (Forfeited credentials overrides container.name declared.name →
        environment.get? container.name declared.name =
          (container.secrets.find? fun secret => secret.name = declared.name).map
            fun secret => ⟨secret.reference, .secret⟩) := by
  intro container member declared declares
  rcases registered_of_prepare prepared with ⟨collected, _, registered⟩
  rw [get?_of_registered distinct member registered]
  refine ⟨⟨?_, ?_⟩, Forfeited.precedent?_eq⟩
  · rintro ⟨entry, found, keeps⟩ forfeited
    exact forfeited.not_keeps found keeps
  · intro unforfeited
    have declaresName : ∃ other ∈ container.environment, other.name = declared.name :=
      ⟨declared, declares, rfl⟩
    refine exists_keeps declaresName ?_ unforfeited
    intro untargeted
    rw [Option.eq_none_iff_forall_ne_some]
    intro secret found
    exact unforfeited
      (forfeited_of_secret distinct member registered declaresName untargeted found)

/-- A session without a region. -/
def regionlessSession : Credentials where
  accessKeyId := "AK"
  secretAccessKey := "SK"

theorem contested_declarations_kept_but_region :
    ∃ environment references,
      prepare contested regionlessSession [] = .ok (environment, references) ∧
        (∃ entry, environment.get? "web" "LOG" = some entry ∧
          Keeps regionlessSession [] contestedWeb "LOG" entry) ∧
        environment.get? "web" "AWS_REGION" = none := by
  have distinct : contested.names.Nodup := by decide
  have prepared : prepare contested regionlessSession [] = .ok (_, _) := rfl
  have settled := declared_variable_kept_unless_forfeited distinct prepared contestedWeb
    (List.mem_cons_self ..)
  have unforfeited : ¬ Forfeited regionlessSession [] "web" "LOG" := by
    intro forfeited
    exact absurd forfeited.regional (by decide)
  have forfeited : Forfeited regionlessSession [] "web" "AWS_REGION" :=
    ⟨Or.inl rfl, rfl, List.forall_mem_nil _⟩
  exact ⟨_, _, prepared, (settled ⟨"LOG", "info"⟩ (by decide)).1.mpr unforfeited,
    (settled ⟨"AWS_REGION", "nowhere"⟩ (by decide)).2 forfeited⟩

/-- A container that declares its own region. -/
def regionDeclaring : Task.Container where
  name := "web"
  environment := [⟨"AWS_REGION", "eu-central-1"⟩]

theorem declared_region_vanishes :
    (Task.Definition.mk [regionDeclaring]).names.Nodup ∧
      (∃ declared ∈ regionDeclaring.environment, declared.name = "AWS_REGION") ∧
        ∃ environment references,
          prepare ⟨[regionDeclaring]⟩ regionlessSession [] = .ok (environment, references) ∧
            environment.get? "web" "AWS_REGION" = none :=
  ⟨by decide, by decide, _, _, rfl, rfl⟩

end Preparation

end Workload.Environment
