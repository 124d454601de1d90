import Workload.Json.Value
import Workload.Text.Quoted

/-!
# Writing JSON text

The compact form: no blanks, members in the order of their keys, and in strings only the quote, the
backslash and the control characters below the space are escaped.
-/

namespace Workload.Json

/-- The lower-case hexadecimal digit of a number below sixteen. -/
def hexDigit (number : Nat) : Char :=
  Nat.digitChar number

/-- How one character is written inside a JSON string. -/
def writtenChar (char : Char) : List Char :=
  match char with
  | '"' => ['\\', '"']
  | '\\' => ['\\', '\\']
  | '\x08' => ['\\', 'b']
  | '\x0c' => ['\\', 'f']
  | '\n' => ['\\', 'n']
  | '\r' => ['\\', 'r']
  | '\t' => ['\\', 't']
  | other =>
      if other.toNat < 0x20 then
        ['\\', 'u', '0', '0', hexDigit (other.toNat / 16), hexDigit (other.toNat % 16)]
      else [other]

/-- The characters of a JSON string with its quotes. -/
def writtenString (text : String) : List Char :=
  '"' :: text.toList.flatMap writtenChar ++ ['"']

mutual

/-- The characters of a value in compact form. -/
def Value.chars : Value → List Char
  | .null => ['n', 'u', 'l', 'l']
  | .bool true => ['t', 'r', 'u', 'e']
  | .bool false => ['f', 'a', 'l', 's', 'e']
  | .number number => number.text.toList
  | .string text => writtenString text
  | .array elements => '[' :: elementsChars elements ++ [']']
  | .object members => '\x7b' :: membersChars members ++ ['\x7d']

/-- The characters of the elements of an array, with the commas between them. -/
def elementsChars : List Value → List Char
  | [] => []
  | [value] => value.chars
  | value :: next :: rest => value.chars ++ ',' :: elementsChars (next :: rest)

/-- The characters of the members of an object, with the commas between them. -/
def membersChars : List (String × Value) → List Char
  | [] => []
  | [(key, value)] => writtenString key ++ ':' :: value.chars
  | (key, value) :: next :: rest =>
      writtenString key ++ ':' :: value.chars ++ ',' :: membersChars (next :: rest)

end

/-- The text of a value in compact form. -/
def Value.text (value : Value) : String :=
  String.ofList value.chars

end Workload.Json
