import Workload.Decimal.Shortest
import Workload.Table
import Workload.Text.Numeral

/-!
# JSON values

An object keeps its members sorted by key, each key once: a later member replaces an earlier one of
the same name. Numbers are 64-bit naturals, negative 64-bit integers, or doubles held by their bits.
-/

namespace Workload.Json

/-- A JSON number. -/
inductive Number where
  | natural (value : Nat)
  | negative (magnitude : Nat)
  | float (bits : UInt64)
deriving Repr, DecidableEq

/-- A JSON value. -/
inductive Value where
  | null
  | bool (value : Bool)
  | number (value : Number)
  | string (value : String)
  | array (elements : List Value)
  | object (members : List (String × Value))
deriving Repr, Inhabited

/-- An object with the given members. -/
def Value.ofMembers (members : List (String × Value)) : Value :=
  .object (Table.ofList members)

/-- The member of an object with the given key. -/
def Value.member? (value : Value) (key : String) : Option Value :=
  match value with
  | .object members => Table.find? key members
  | _ => none

/-- The text of a number as messages show it. -/
def Number.text : Number → String
  | .natural value => Text.decimal value
  | .negative magnitude => "-" ++ Text.decimal magnitude
  | .float bits => Decimal.floatText bits

end Workload.Json
