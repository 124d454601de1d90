/-!
# Tables sorted by key

A table is a list of entries in ascending order of their keys, each key once. `insert` replaces the
entry of an equal key, so of several entries with one key the last one inserted stays.
-/

namespace Workload.Table

variable {Key Item : Type} [LT Key] [DecidableLT Key] [DecidableEq Key]

/-- Puts an entry into a table; the entry of an equal key is replaced. -/
def insert (key : Key) (item : Item) : List (Key × Item) → List (Key × Item)
  | [] => [(key, item)]
  | (other, old) :: rest =>
      if key < other then (key, item) :: (other, old) :: rest
      else if key = other then (key, item) :: rest
      else (other, old) :: insert key item rest

/-- The table of a list of entries; of several with one key the last one stays. -/
def ofList (entries : List (Key × Item)) : List (Key × Item) :=
  entries.foldl (fun table entry => insert entry.1 entry.2 table) []

omit [LT Key] [DecidableLT Key] in
/-- The item of a key. -/
def find? (key : Key) : List (Key × Item) → Option Item
  | [] => none
  | (other, item) :: rest => if key = other then some item else find? key rest

/-- The keys of a table. -/
def keys {Key Item : Type} (table : List (Key × Item)) : List Key :=
  table.map Prod.fst

end Workload.Table
