/-!
# Numerals

A numeral is one or more ASCII digits, with at most one plus sign before them. Leading zeros are
allowed. It is accepted when its value does not exceed a limit.
-/

namespace Workload.Text

/-- The value of an ASCII digit. -/
def digitValue (char : Char) : Nat :=
  char.toNat - '0'.toNat

/-- The value of a sequence of ASCII digits. -/
def digitsValue (digits : List Char) : Nat :=
  digits.foldl (fun value digit => value * 10 + digitValue digit) 0

/-- A text without the plus sign it may begin with. -/
def withoutPlus : List Char → List Char
  | '+' :: rest => rest
  | text => text

/-- The value of a numeral that does not exceed `limit`. -/
def readNumeral? (limit : Nat) (text : List Char) : Option Nat :=
  let digits := withoutPlus text
  if !digits.isEmpty && digits.all Char.isDigit && digitsValue digits ≤ limit then
    some (digitsValue digits)
  else none

/-- Whether a text is the exponent of a number, or empty. -/
def isExponent : List Char → Bool
  | [] => true
  | mark :: rest =>
      let digits := match rest with
        | '+' :: digits => digits
        | '-' :: digits => digits
        | digits => digits
      (mark = 'e' || mark = 'E') && !digits.isEmpty && digits.all Char.isDigit

/--
Whether a text is a number with a sign, a fraction and an exponent if need be, or one of the words
for what is no finite number.
-/
def isNumber (text : List Char) : Bool :=
  let unsigned := match text with
    | '+' :: rest => rest
    | '-' :: rest => rest
    | rest => rest
  let after := unsigned.dropWhile Char.isDigit
  let (fraction, exponent) := match after with
    | '.' :: rest => (rest.takeWhile Char.isDigit, rest.dropWhile Char.isDigit)
    | rest => ([], rest)
  String.ofList (unsigned.map Char.toLower) ∈ ["inf", "infinity", "nan"] ||
    (!(unsigned.takeWhile Char.isDigit ++ fraction).isEmpty && isExponent exponent)

/-- The decimal digits of a number, without leading zeros. -/
def decimalDigits (number : Nat) : List Char :=
  Nat.toDigits 10 number

/-- The decimal text of a number, without leading zeros. -/
def decimal (number : Nat) : String :=
  String.ofList (decimalDigits number)

end Workload.Text
