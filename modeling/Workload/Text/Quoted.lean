import Workload.Text.Visible

/-!
# Quoted text

Messages show names and values between double quotes. A quote and a backslash inside are escaped,
line breaks, tabs and the zero character have short escapes, any other character that is not visible
by itself is written `\u{…}` with its code point in lower-case hexadecimal, and the rest stands as
is.
-/

namespace Workload.Text

/-- The lower-case hexadecimal digits of a number, without leading zeros. -/
def hexDigits (number : Nat) : List Char :=
  (Nat.toDigits 16 number)

/-- How one character is written between double quotes. -/
def quotedChar (char : Char) : List Char :=
  match char with
  | '"' => ['\\', '"']
  | '\\' => ['\\', '\\']
  | '\n' => ['\\', 'n']
  | '\r' => ['\\', 'r']
  | '\t' => ['\\', 't']
  | '\x00' => ['\\', '0']
  | other =>
      if isVisible other then [other]
      else ['\\', 'u', '\x7b'] ++ hexDigits other.toNat ++ ['\x7d']

/-- The characters of a text as written between double quotes. -/
def quotedChars (text : List Char) : List Char :=
  text.flatMap quotedChar

/-- A text between double quotes. -/
def quoted (text : String) : String :=
  String.ofList ('"' :: quotedChars text.toList ++ ['"'])

end Workload.Text
