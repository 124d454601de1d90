import Mathlib.Data.List.Nodup
import Workload.Table

/-!
# Looking up entries in tables

What `find?` sees of a table is one item for each key. `insert` changes what it sees of one key, so
in a table made of a list of entries the last one of a key is found. That `insert` finds the place
of a key, and each key stands in a table once, is due to the order of the keys.

Where order does not matter, a list without repetitions does the same service; `eraseDups` makes
one of any list.
-/

namespace Workload

/-! ## Lists without repetitions -/

theorem nodup_eraseDups {Item : Type} [DecidableEq Item] : (items : List Item) →
    items.eraseDups.Nodup
  | [] => by simp
  | item :: rest => by
      rw [List.eraseDups_cons, List.nodup_cons, List.mem_eraseDups]
      exact ⟨by simp, nodup_eraseDups _⟩
termination_by items => items.length
decreasing_by
  have shorter := List.length_filter_le (fun other => !other == item) rest
  simp only [List.length_cons]
  omega

theorem eraseDups_of_nodup {Item : Type} [DecidableEq Item] {items : List Item}
    (distinct : items.Nodup) : items.eraseDups = items := by
  induction items with
  | nil => rfl
  | cons item rest hypothesis =>
      rw [List.nodup_cons] at distinct
      have others : rest.filter (fun other => !other == item) = rest := by
        rw [List.filter_eq_self]
        intro other member
        have apart : other ≠ item := ne_of_mem_of_not_mem member distinct.1
        simpa using apart
      rw [List.eraseDups_cons, others, hypothesis distinct.2]

end Workload

/-! ## Tables -/

namespace Workload.Table

variable {Key Item Other : Type} [LT Key] [DecidableLT Key] [DecidableEq Key]

/-- Changes the items of a table and leaves its keys as they are. -/
def mapItems {Key Item Other : Type} (change : Key → Item → Other) (table : List (Key × Item)) :
    List (Key × Other) :=
  table.map fun entry => (entry.1, change entry.1 entry.2)

/-- The keys of a table ascend, so that each stands in it once. -/
def Sorted (table : List (Key × Item)) : Prop :=
  (keys table).Pairwise (· < ·)

omit [LT Key] [DecidableLT Key] in
theorem find?_eq (key : Key) (table : List (Key × Item)) :
    find? key table = (table.find? fun entry => entry.1 = key).map Prod.snd := by
  induction table with
  | nil => rfl
  | cons entry rest hypothesis =>
      simp only [find?, List.find?_cons, hypothesis]
      by_cases same : key = entry.1
      · simp [same]
      · simp [same, Ne.symm same]

theorem find?_insert (key other : Key) (item : Item) (table : List (Key × Item)) :
    find? other (insert key item table) = if other = key then some item else find? other table := by
  induction table with
  | nil => rfl
  | cons entry rest hypothesis =>
      simp only [insert]
      split
      · rfl
      · split
        · rename_i same
          subst same
          simp only [find?]
          split <;> rfl
        · rename_i apart
          simp only [find?, hypothesis]
          split
          · rename_i here
            simp [here, Ne.symm apart]
          · rfl

/-- Of several entries with one key the last one is found. -/
theorem find?_ofList (key : Key) (entries : List (Key × Item)) :
    find? key (ofList entries) = find? key entries.reverse := by
  rw [ofList, ← List.reverse_reverse entries, List.foldl_reverse, List.reverse_reverse]
  induction entries.reverse with
  | nil => rfl
  | cons entry earlier hypothesis => rw [List.foldr_cons, find?_insert, hypothesis, find?]

omit [LT Key] [DecidableLT Key] in
theorem find?_mapItems (change : Key → Item → Other) (key : Key) (table : List (Key × Item)) :
    find? key (mapItems change table) = (find? key table).map (change key) := by
  induction table with
  | nil => rfl
  | cons entry rest hypothesis =>
      simp only [mapItems, List.map_cons, find?] at hypothesis ⊢
      split
      · rename_i same
        subst same
        rfl
      · exact hypothesis

omit [LT Key] [DecidableLT Key] [DecidableEq Key] in
@[simp]
theorem keys_mapItems (change : Key → Item → Other) (table : List (Key × Item)) :
    keys (mapItems change table) = keys table := by
  simp [keys, mapItems, Function.comp_def]

omit [LT Key] [DecidableLT Key] in
theorem mem_of_find? {key : Key} {item : Item} {table : List (Key × Item)}
    (found : find? key table = some item) : (key, item) ∈ table := by
  rw [find?_eq, Option.map_eq_some_iff] at found
  rcases found with ⟨entry, first, rfl⟩
  have same : entry.1 = key := by simpa using List.find?_some first
  subst same
  exact List.mem_of_find?_eq_some first

omit [LT Key] [DecidableLT Key] in
theorem mem_keys_iff {key : Key} {table : List (Key × Item)} :
    key ∈ keys table ↔ ∃ item, find? key table = some item := by
  rw [← Option.isSome_iff_exists, find?_eq, Option.isSome_map, List.find?_isSome]
  simp [keys]

omit [LT Key] [DecidableLT Key] in
theorem find?_eq_none_iff {key : Key} {table : List (Key × Item)} :
    find? key table = none ↔ key ∉ keys table := by
  rw [mem_keys_iff, ← Option.isSome_iff_exists, Option.not_isSome_iff_eq_none]

omit [LT Key] [DecidableLT Key] in
theorem find?_eq_some_iff {key : Key} {item : Item} {table : List (Key × Item)}
    (distinct : (keys table).Nodup) : find? key table = some item ↔ (key, item) ∈ table := by
  constructor
  · exact mem_of_find?
  · intro member
    have known : key ∈ keys table := List.mem_map_of_mem member
    rcases mem_keys_iff.mp known with ⟨other, found⟩
    have same : (key, other) = (key, item) :=
      List.inj_on_of_nodup_map distinct (mem_of_find? found) member rfl
    simp only [Prod.mk.injEq, true_and] at same
    rw [found, same]

theorem find?_ofList_of_last {before after : List (Key × Item)} {key : Key} (item : Item)
    (last : key ∉ keys after) :
    find? key (ofList (before ++ (key, item) :: after)) = some item := by
  have later : find? key after.reverse = none := by
    rw [find?_eq_none_iff, keys, List.map_reverse, List.mem_reverse]
    exact last
  rw [find?_eq, Option.map_eq_none_iff] at later
  rw [find?_ofList, find?_eq]
  simp [later]

theorem find?_ofList_of_nodup {entries : List (Key × Item)} (distinct : (keys entries).Nodup)
    (key : Key) : find? key (ofList entries) = find? key entries := by
  have reversed : (keys entries.reverse).Nodup := by
    rw [keys, List.map_reverse, List.nodup_reverse]
    exact distinct
  apply Option.ext
  intro item
  rw [find?_ofList, find?_eq_some_iff reversed, find?_eq_some_iff distinct, List.mem_reverse]

theorem mem_keys_insert {key other : Key} {item : Item} {table : List (Key × Item)} :
    other ∈ keys (insert key item table) ↔ other = key ∨ other ∈ keys table := by
  simp only [mem_keys_iff, find?_insert]
  by_cases same : other = key <;> simp [same]

/-- A new key is added to those of the table. -/
theorem keys_insert_perm {key : Key} {table : List (Key × Item)} (fresh : key ∉ keys table)
    (item : Item) : (keys (insert key item table)).Perm (key :: keys table) := by
  induction table with
  | nil => exact List.Perm.refl _
  | cons entry rest hypothesis =>
      simp only [keys, List.map_cons, List.mem_cons, not_or] at fresh
      simp only [insert, if_neg fresh.1]
      split
      · exact List.Perm.refl _
      · exact ((hypothesis fresh.2).cons entry.1).trans (List.Perm.swap ..)

section Order

variable [LE Key] [Std.IsLinearOrder Key] [Std.LawfulOrderLT Key]

omit [DecidableLT Key] [DecidableEq Key] [Std.IsLinearOrder Key] in
theorem Sorted.nodup_keys {table : List (Key × Item)} (sorted : Sorted table) :
    (keys table).Nodup := by
  apply List.Pairwise.imp ?_ sorted
  rintro first second less rfl
  exact Std.lt_irrefl less

theorem Sorted.insert {table : List (Key × Item)} (sorted : Sorted table) (key : Key)
    (item : Item) : Sorted (insert key item table) := by
  induction table with
  | nil => exact List.pairwise_singleton ..
  | cons entry rest hypothesis =>
      have tail : Sorted rest := List.Pairwise.of_cons sorted
      have above : ∀ other ∈ keys rest, entry.1 < other := (List.pairwise_cons.mp sorted).1
      simp only [Table.insert]
      split
      · rename_i before
        refine List.pairwise_cons.mpr ⟨?_, sorted⟩
        intro other member
        rcases List.mem_cons.mp member with rfl | later
        · exact before
        · exact Std.lt_trans before (above other later)
      · split
        · rename_i same
          subst same
          exact sorted
        · rename_i notBefore apart
          have after : entry.1 < key :=
            Std.lt_of_le_of_ne (Std.not_lt.mp notBefore) (Ne.symm apart)
          refine List.pairwise_cons.mpr ⟨?_, hypothesis tail⟩
          intro other member
          rcases mem_keys_insert.mp member with rfl | later
          · exact after
          · exact above other later

theorem sorted_ofList (entries : List (Key × Item)) : Sorted (ofList entries) := by
  rw [ofList, ← List.reverse_reverse entries, List.foldl_reverse]
  induction entries.reverse with
  | nil => exact List.Pairwise.nil
  | cons entry earlier hypothesis => exact hypothesis.insert entry.1 entry.2

omit [DecidableLT Key] in
/-- What is found in a table determines it. -/
theorem Sorted.ext {first second : List (Key × Item)} (firstSorted : Sorted first)
    (secondSorted : Sorted second) (same : ∀ key, find? key first = find? key second) :
    first = second := by
  have members : ∀ entry, entry ∈ first ↔ entry ∈ second := by
    rintro ⟨key, item⟩
    rw [← find?_eq_some_iff firstSorted.nodup_keys, same,
      find?_eq_some_iff secondSorted.nodup_keys]
  have entries : first.Perm second :=
    (List.perm_ext_iff_of_nodup firstSorted.nodup_keys.of_map
      secondSorted.nodup_keys.of_map).mpr members
  apply entries.eq_of_pairwise ?_ (List.pairwise_map.mp firstSorted)
    (List.pairwise_map.mp secondSorted)
  intro entry other _ _ before after
  exact absurd (Std.lt_trans before after) Std.lt_irrefl

end Order

end Workload.Table
