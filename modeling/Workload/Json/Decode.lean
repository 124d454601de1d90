import Workload.Json.Value
import Workload.Text.Quoted

/-!
# Decoding JSON values

A record is written as an object, whose members are visited in the order of their keys, or as an
array with the fields in their declared order, of which trailing optional ones may be absent.
Unknown members are ignored. A data error says what was found and what was expected.
-/

namespace Workload.Json

/-- The kind of value that was found where another one was expected. -/
inductive Found where
  | null
  | bool (value : Bool)
  | integer (number : Number)
  | float (bits : UInt64)
  | string (text : String)
  | sequence
  | map
deriving Repr, DecidableEq

/-- The kind of a value. -/
def Found.ofValue : Value → Found
  | .null => .null
  | .bool value => .bool value
  | .number (.float bits) => .float bits
  | .number number => .integer number
  | .string text => .string text
  | .array _ => .sequence
  | .object _ => .map

/-- How a message names what was found. -/
def Found.text : Found → String
  | .null => "null"
  | .bool true => "boolean `true`"
  | .bool false => "boolean `false`"
  | .integer number => "integer `" ++ number.text ++ "`"
  | .float bits => "floating point `" ++ Decimal.floatText bits ++ "`"
  | .string text => "string " ++ Text.quoted text
  | .sequence => "sequence"
  | .map => "map"

/-- Why a JSON value does not stand for what was expected. -/
inductive DataError where
  | wrongType (found : Found) (expected : String)
  | outOfRange (found : Found) (expected : String)
  | missingField (name : String)
  | duplicateField (name : String)
  | tooShort (length : Nat) (expected : String)
  | tooLong (length : Nat)
  | extraElements (length expected : Nat)
  | unknownVariant (name : String) (known : List String)
deriving Repr, DecidableEq

/-- The wording of a data error. -/
def DataError.message : DataError → String
  | .wrongType found expected => "invalid type: " ++ found.text ++ ", expected " ++ expected
  | .outOfRange found expected => "invalid value: " ++ found.text ++ ", expected " ++ expected
  | .missingField name => "missing field `" ++ name ++ "`"
  | .duplicateField name => "duplicate field `" ++ name ++ "`"
  | .tooShort length expected =>
      "invalid length " ++ Text.decimal length ++ ", expected " ++ expected
  | .tooLong length =>
      "invalid length " ++ Text.decimal length ++ ", expected fewer elements in array"
  | .extraElements length expected =>
      "invalid length " ++ Text.decimal length ++ ", expected " ++ Text.decimal expected ++
        (if expected = 1 then " element in sequence" else " elements in sequence")
  | .unknownVariant name known =>
      "unknown variant `" ++ name ++ "`, expected one of " ++
        ", ".intercalate (known.map fun kind => "`" ++ kind ++ "`")

/-- The error for a value of the wrong kind. -/
def wrongType {α : Type} (expected : String) (value : Value) : Except DataError α :=
  .error (.wrongType (.ofValue value) expected)

/-- A string. -/
def Value.asString : Value → Except DataError String
  | .string text => .ok text
  | other => wrongType "a string" other

/-- A truth value. -/
def Value.asBool : Value → Except DataError Bool
  | .bool value => .ok value
  | other => wrongType "a boolean" other

/-- A port number: an integer from 0 to 65535. -/
def Value.asPort : Value → Except DataError UInt16
  | .number (.natural value) =>
      if value < UInt16.size then .ok value.toUInt16
      else .error (.outOfRange (.integer (.natural value)) "u16")
  | .number (.negative magnitude) =>
      .error (.outOfRange (.integer (.negative magnitude)) "u16")
  | other => wrongType "u16" other

/-- A value that may be `null`. -/
def Value.asOptional {α : Type} (decode : Value → Except DataError α) :
    Value → Except DataError (Option α)
  | .null => .ok none
  | other => do return some (← decode other)

/-- A sequence of values of one kind. -/
def Value.asList {α : Type} (decode : Value → Except DataError α) :
    Value → Except DataError (List α)
  | .array elements => elements.mapM decode
  | other => wrongType "a sequence" other

/-- The decoded member of an object, if it is there. -/
def memberAs? {α : Type} (members : List (String × Value)) (key : String)
    (decode : Value → Except DataError α) : Except DataError (Option α) :=
  match Table.find? key members with
  | some value => do return some (← decode value)
  | none => .ok none

/-- A field that has to be there. -/
def required {α : Type} (key : String) : Option α → Except DataError α
  | some value => .ok value
  | none => .error (.missingField key)

/-- The decoded element of an array, if it is there. -/
def elementAs? {α : Type} (elements : List Value) (index : Nat)
    (decode : Value → Except DataError α) : Except DataError (Option α) :=
  match elements[index]? with
  | some value => do return some (← decode value)
  | none => .ok none

/-- An element that has to be there. -/
def requiredElement {α : Type} (index : Nat) (expected : String) :
    Option α → Except DataError α
  | some value => .ok value
  | none => .error (.tooShort index expected)

/-- Refuses an array with more elements than its record has fields. -/
def noMoreThan (limit : Nat) (elements : List Value) : Except DataError Unit :=
  if limit < elements.length then .error (.tooLong elements.length) else .ok ()

end Workload.Json
