import Workload.Environment.Build
import Workload.Proofs.Table

/-!
# What is found in an environment

An environment is built in passes over lists of declarations and overrides, each of which sets a
variable in some containers. No pass adds or drops a container, and of the items of a pass that set
a variable of a container the last one counts.
-/

namespace Workload.Environment

/-- The containers that an environment has variables for. -/
def names (environment : Environment) : List String :=
  Table.keys environment.containers

/-- The variables of every container are a table, in which each stands once. -/
def Tidy (environment : Environment) : Prop :=
  ∀ container entries, environment.entries? container = some entries → Table.Sorted entries

variable {environment : Environment} {container key : String}

theorem mem_names_iff :
    container ∈ environment.names ↔ ∃ entries, environment.entries? container = some entries :=
  Table.mem_keys_iff

theorem mem_names_of_get? {entry : Entry} (found : environment.get? container key = some entry) :
    container ∈ environment.names := by
  rw [get?, Option.bind_eq_some_iff] at found
  rcases found with ⟨entries, known, _⟩
  exact mem_names_iff.mpr ⟨entries, known⟩

theorem putWhere_containers (concerns : String → Bool) (key : String) (entry : Entry)
    (environment : Environment) :
    (environment.putWhere concerns key entry).containers =
      Table.mapItems
        (fun name entries => if concerns name then Table.insert key entry entries else entries)
        environment.containers := by
  simp only [putWhere, Table.mapItems]
  apply List.map_congr_left
  rintro ⟨name, entries⟩ _
  dsimp only
  split <;> rfl

theorem entries?_putWhere (concerns : String → Bool) (key : String) (entry : Entry)
    (environment : Environment) (container : String) :
    (environment.putWhere concerns key entry).entries? container =
      (environment.entries? container).map fun entries =>
        if concerns container then Table.insert key entry entries else entries := by
  rw [entries?, putWhere_containers, Table.find?_mapItems]
  rfl

@[simp]
theorem names_putWhere (concerns : String → Bool) (key : String) (entry : Entry)
    (environment : Environment) :
    (environment.putWhere concerns key entry).names = environment.names := by
  simp [names, putWhere_containers]

theorem get?_putWhere (concerns : String → Bool) (entry : Entry) (other : String)
    (known : container ∈ environment.names) :
    (environment.putWhere concerns other entry).get? container key =
      if concerns container && other = key then some entry
      else environment.get? container key := by
  rcases mem_names_iff.mp known with ⟨entries, found⟩
  simp only [get?, entries?_putWhere, found, Option.map_some, Option.bind_some]
  by_cases concerned : concerns container
  · simp [concerned, Table.find?_insert, eq_comm]
  · simp [concerned]

theorem Tidy.putWhere (tidy : environment.Tidy) (concerns : String → Bool) (key : String)
    (entry : Entry) : (environment.putWhere concerns key entry).Tidy := by
  intro container entries found
  rw [entries?_putWhere, Option.map_eq_some_iff] at found
  rcases found with ⟨before, found, rfl⟩
  have sorted := tidy container before found
  split
  · exact sorted.insert key entry
  · exact sorted

section Passes

variable {Item : Type} {change : Environment → Item → Environment}

theorem names_foldl
    (names : ∀ environment item, (change environment item).names = environment.names)
    (items : List Item) (environment : Environment) :
    (items.foldl change environment).names = environment.names := by
  induction items generalizing environment with
  | nil => rfl
  | cons item rest hypothesis => rw [List.foldl_cons, hypothesis, names]

theorem Tidy.foldl (kept : ∀ environment item, Tidy environment → Tidy (change environment item))
    (tidy : environment.Tidy) (items : List Item) : (items.foldl change environment).Tidy := by
  induction items generalizing environment with
  | nil => exact tidy
  | cons item rest hypothesis => exact hypothesis (kept environment item tidy)

/-- Of the items of a pass that set a variable the last one counts. -/
theorem get?_foldl {sets : Item → Bool} {entryOf : Item → Entry}
    (names : ∀ environment item, (change environment item).names = environment.names)
    (effect : ∀ environment item, container ∈ environment.names →
      (change environment item).get? container key =
        if sets item then some (entryOf item) else environment.get? container key)
    (known : container ∈ environment.names) (items : List Item) :
    (items.foldl change environment).get? container key =
      ((items.reverse.find? sets).map entryOf).or (environment.get? container key) := by
  rw [← List.reverse_reverse items, List.reverse_reverse items.reverse]
  induction items.reverse with
  | nil => rfl
  | cons item earlier hypothesis =>
      have still : container ∈ (earlier.reverse.foldl change environment).names := by
        rw [names_foldl names]
        exact known
      rw [List.reverse_cons, List.foldl_concat, effect _ _ still, hypothesis, List.find?_cons]
      cases sets item <;> rfl

end Passes

@[simp]
theorem names_declare (environment : Environment) (declared : Task.Declared) :
    (declare environment declared).names = environment.names := by
  rw [declare]
  split
  · rfl
  · exact names_putWhere ..

theorem get?_declare (known : container ∈ environment.names) (declared : Task.Declared) :
    (declare environment declared).get? container key =
      if declared.container = container && declared.name = key &&
          !Credentials.isIdentityName declared.name then
        some ⟨declared.value, .plain⟩
      else environment.get? container key := by
  rw [declare]
  split
  · rename_i ignored
    simp [ignored]
  · rename_i counted
    rw [put, get?_putWhere _ _ _ known]
    by_cases here : declared.container = container
    · simp [counted, here]
    · simp [here, Ne.symm here]

theorem Tidy.declare (tidy : environment.Tidy) (declared : Task.Declared) :
    (declare environment declared).Tidy := by
  rw [Environment.declare]
  split
  · exact tidy
  · exact tidy.putWhere _ _ _

@[simp]
theorem names_override (environment : Environment) (item : Override) :
    (override environment item).names = environment.names :=
  names_putWhere ..

theorem get?_override (known : container ∈ environment.names) (item : Override) :
    (override environment item).get? container key =
      if item.sets container key then some ⟨item.value, .operator⟩
      else environment.get? container key := by
  rw [override, get?_putWhere _ _ _ known, Bool.and_comm]
  rfl

theorem Tidy.override (tidy : environment.Tidy) (item : Override) :
    (override environment item).Tidy :=
  tidy.putWhere _ _ _

section Seed

variable {definition : Task.Definition} {credentials : Credentials}

theorem entries?_seed (definition : Task.Definition) (credentials : Credentials)
    (container : String) :
    (seed definition credentials).entries? container =
      if container ∈ definition.names then some (identityEntries credentials) else none := by
  have found : ∀ names : List String,
      Table.find? container (names.map fun name => (name, identityEntries credentials)) =
        if container ∈ names then some (identityEntries credentials) else none := by
    intro names
    induction names with
    | nil => rfl
    | cons name rest hypothesis =>
        simp only [List.map_cons, Table.find?, hypothesis, List.mem_cons]
        by_cases same : container = name <;> simp [same]
  rw [entries?, seed, found]
  simp only [List.mem_eraseDups]

theorem names_seed (definition : Task.Definition) (credentials : Credentials) :
    (seed definition credentials).names = definition.names.eraseDups := by
  simp [names, seed, Table.keys, Function.comp_def]

theorem mem_names_seed :
    container ∈ (seed definition credentials).names ↔ container ∈ definition.names := by
  rw [names_seed, List.mem_eraseDups]

theorem identityNames_nodup (credentials : Credentials) :
    (Table.keys credentials.identityVariables).Nodup := by
  rw [Credentials.identityVariables]
  cases credentials.region <;> simp [Table.keys, Credentials.accessKeyIdName,
    Credentials.secretAccessKeyName, Credentials.sessionTokenName, Credentials.defaultRegionName,
    Credentials.regionName]

theorem isIdentityName_of_find? {value : String}
    (found : Table.find? key credentials.identityVariables = some value) :
    Credentials.isIdentityName key := by
  have known : key ∈ Table.keys credentials.identityVariables :=
    Table.mem_keys_iff.mpr ⟨value, found⟩
  rw [Credentials.identityVariables] at known
  cases region : credentials.region <;>
    simp [region, Table.keys, Credentials.isIdentityName, Credentials.identityNames] at known ⊢ <;>
    tauto

theorem get?_seed (known : container ∈ definition.names) :
    (seed definition credentials).get? container key =
      (Table.find? key credentials.identityVariables).map fun value => ⟨value, .plain⟩ := by
  rw [get?, entries?_seed, if_pos known, Option.bind_some, identityEntries]
  change Table.find? key (Table.ofList
    (Table.mapItems (fun _ value => Entry.mk value .plain) credentials.identityVariables)) = _
  rw [Table.find?_ofList_of_nodup, Table.find?_mapItems]
  rw [Table.keys_mapItems]
  exact identityNames_nodup credentials

theorem tidy_seed (definition : Task.Definition) (credentials : Credentials) :
    (seed definition credentials).Tidy := by
  intro container entries found
  rw [entries?_seed] at found
  split at found
  · cases found
    exact Table.sorted_ofList _
  · cases found

end Seed

end Workload.Environment
