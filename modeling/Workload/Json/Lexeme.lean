import Workload.Json.SyntaxError
import Workload.Json.Value

/-!
# The lexical parts of JSON text

Blanks, the three words, strings and numbers. Each reader takes the characters that are left and
gives what it read together with the characters after it.

An integer that fits 64 bits is kept exactly. Any other number is a double: its first digits, as
many as fit 64 bits, are taken as a natural and scaled by a power of ten, each step rounding once. A
number whose double would be infinite is out of range.
-/

namespace Workload.Json

/-- An error at the first byte of the given text, or at the end of an empty one. -/
def failAt {α : Type} (reason : SyntaxReason) (text : List Char) : Except SyntaxError α :=
  .error ⟨reason, byteCount text - 1⟩

/-- An error just before the given text. -/
def failBefore {α : Type} (reason : SyntaxReason) (text : List Char) : Except SyntaxError α :=
  .error ⟨reason, byteCount text⟩

/-- Whether a character may stand between the parts of JSON text. -/
def isJsonBlank (char : Char) : Bool :=
  char = ' ' || char = '\n' || char = '\t' || char = '\r'

/-- The text after the blanks it begins with. -/
def skipBlanks (text : List Char) : List Char :=
  text.dropWhile isJsonBlank

/-- Reads the rest of a word. -/
def readWord : List Char → List Char → Except SyntaxError (List Char)
  | [], text => .ok text
  | expected :: word, text =>
      match text with
      | [] => failAt .endInValue []
      | char :: rest => if char = expected then readWord word rest else failAt .wordExpected text

/-! ## Strings -/

/-- The value of a hexadecimal digit. -/
def hexValue? (char : Char) : Option Nat :=
  if '0' ≤ char ∧ char ≤ '9' then some (char.toNat - '0'.toNat)
  else if 'a' ≤ char ∧ char ≤ 'f' then some (char.toNat - 'a'.toNat + 10)
  else if 'A' ≤ char ∧ char ≤ 'F' then some (char.toNat - 'A'.toNat + 10)
  else none

/-- The value of four hexadecimal digits. -/
def hexValue4? (a b c d : Char) : Option Nat := do
  let first ← hexValue? a
  let second ← hexValue? b
  let third ← hexValue? c
  let fourth ← hexValue? d
  return ((first * 16 + second) * 16 + third) * 16 + fourth

/--
Reads the four hexadecimal digits of an escape. Four bytes are taken even if they are no digits.
-/
def readHex4 (text : List Char) : Except SyntaxError (Nat × List Char) :=
  let refuse : Except SyntaxError (Nat × List Char) :=
    if byteCount text < 4 then .error ⟨.endInString, 0⟩
    else .error ⟨.escapeInvalid, byteCount text - 4⟩
  match text with
  | a :: b :: c :: d :: rest =>
      match hexValue4? a b c d with
      | some value => .ok (value, rest)
      | none => refuse
  | _ => refuse

/-- Reads the second half of a surrogate pair whose first half is `high`. -/
def readLowSurrogate (high : Nat) (text : List Char) : Except SyntaxError (Char × List Char) :=
  match text with
  | [] => failAt .endInString []
  | '\\' :: 'u' :: rest => do
      let (low, after) ← readHex4 rest
      if low < 0xDC00 ∨ 0xDFFF < low then failBefore .loneSurrogate after
      else return (Char.ofNat ((high - 0xD800) * 1024 + (low - 0xDC00) + 0x10000), after)
  | ['\\'] => failAt .endInString []
  | '\\' :: rest => failAt .escapeUnfinished rest
  | _ => failAt .escapeUnfinished text

/-- Reads what follows `\u`. -/
def readUnicodeEscape (text : List Char) : Except SyntaxError (Char × List Char) := do
  let (value, rest) ← readHex4 text
  if 0xDC00 ≤ value ∧ value ≤ 0xDFFF then failBefore .loneSurrogate rest
  else if 0xD800 ≤ value ∧ value ≤ 0xDBFF then readLowSurrogate value rest
  else return (Char.ofNat value, rest)

/-- Reads what follows a backslash. -/
def readEscape (text : List Char) : Except SyntaxError (Char × List Char) :=
  match text with
  | [] => failAt .endInString []
  | char :: rest =>
      match char with
      | '"' => .ok ('"', rest)
      | '\\' => .ok ('\\', rest)
      | '/' => .ok ('/', rest)
      | 'b' => .ok ('\x08', rest)
      | 'f' => .ok ('\x0c', rest)
      | 'n' => .ok ('\n', rest)
      | 'r' => .ok ('\r', rest)
      | 't' => .ok ('\t', rest)
      | 'u' => readUnicodeEscape rest
      | _ => failAt .escapeInvalid text

/-- Reads the rest of a string, up to and with its closing quote. The bound is the text's length. -/
def readStringBody : Nat → List Char → Except SyntaxError (List Char × List Char)
  | 0, _ => failAt .endInString []
  | bound + 1, text =>
      match text with
      | [] => failAt .endInString []
      | '"' :: rest => .ok ([], rest)
      | '\\' :: rest => do
          let (char, after) ← readEscape rest
          let (chars, final) ← readStringBody bound after
          return (char :: chars, final)
      | char :: rest =>
          if char.toNat < 0x20 then failAt .controlCharacter text
          else do
            let (chars, final) ← readStringBody bound rest
            return (char :: chars, final)

/-- Reads the rest of a string whose opening quote was read. -/
def readString (text : List Char) : Except SyntaxError (String × List Char) := do
  let (chars, rest) ← readStringBody (text.length + 1) text
  return (String.ofList chars, rest)

/-! ## Numbers -/

/-- The greatest 64-bit natural. -/
def maxNatural : Nat := UInt64.size - 1

/-- The double with the given sign and magnitude. -/
def signedFloat (positive : Bool) (magnitude : Float) : Number :=
  .float (if positive then magnitude else -magnitude).toBits

/-- Scales a magnitude by a power of ten; `none` if the result is infinite. -/
def scaleMagnitude : Nat → Float → Int → Option Float
  | 0, magnitude, _ => some magnitude
  | bound + 1, magnitude, exponent =>
      if exponent.natAbs ≤ 308 then
        let power := Float.ofScientific 1 false exponent.natAbs
        if 0 ≤ exponent then
          if (magnitude * power).isInf then none else some (magnitude * power)
        else some (magnitude / power)
      else if magnitude == 0.0 then some magnitude
      else if 0 ≤ exponent then none
      else scaleMagnitude bound (magnitude / Float.ofScientific 1 false 308) (exponent + 308)

/-- The number `significand · 10^exponent` as a double, or an error just before the rest. -/
def floatNumber (positive : Bool) (significand : Nat) (exponent : Int) (rest : List Char) :
    Except SyntaxError (Number × List Char) :=
  match scaleMagnitude 4 significand.toUInt64.toFloat exponent with
  | some magnitude => .ok (signedFloat positive magnitude, rest)
  | none => failBefore .numberOutOfRange rest

/-- The text after the digits it begins with. -/
def skipDigits (text : List Char) : List Char :=
  text.dropWhile Char.isDigit

/-- The largest exponent that is told apart from a larger one. -/
def maxExponent : Nat := 0x7FFFFFFF

/--
Reads the further digits of an exponent. An exponent too large to hold makes the number zero or out
of range.
-/
def readExponentDigits (positive : Bool) (significand : Nat) (start : Int) (raise : Bool) :
    Nat → List Char → Except SyntaxError (Number × List Char)
  | exponent, [] => floatNumber positive significand
      (if raise then start + exponent else start - exponent) []
  | exponent, char :: rest =>
      if char.isDigit then
        let next := exponent * 10 + Text.digitValue char
        if maxExponent < next then
          if significand ≠ 0 ∧ raise then failBefore .numberOutOfRange rest
          else .ok (signedFloat positive 0.0, skipDigits rest)
        else readExponentDigits positive significand start raise next rest
      else floatNumber positive significand
        (if raise then start + exponent else start - exponent) (char :: rest)

/-- Reads what follows the letter of an exponent. -/
def readExponent (positive : Bool) (significand : Nat) (start : Int) (text : List Char) :
    Except SyntaxError (Number × List Char) :=
  let (raise, digits) :=
    match text with
    | '+' :: rest => (true, rest)
    | '-' :: rest => (false, rest)
    | _ => (true, text)
  match digits with
  | [] => failAt .endInValue []
  | char :: rest =>
      if char.isDigit then
        readExponentDigits positive significand start raise (Text.digitValue char) rest
      else failAt .numberInvalid digits

/-- Reads an exponent if one follows the digits of a number. -/
def readOptionalExponent (positive : Bool) (significand : Nat) (exponent : Int)
    (text : List Char) : Except SyntaxError (Number × List Char) :=
  match text with
  | 'e' :: rest => readExponent positive significand exponent rest
  | 'E' :: rest => readExponent positive significand exponent rest
  | _ => floatNumber positive significand exponent text

/-- Reads the digits after a decimal point. Digits that no longer fit 64 bits are dropped. -/
def readFraction (positive : Bool) :
    Nat → Int → Bool → List Char → Except SyntaxError (Number × List Char)
  | significand, exponent, any, [] =>
      if any then floatNumber positive significand exponent []
      else failAt .endInValue []
  | significand, exponent, any, char :: rest =>
      if char.isDigit then
        let next := significand * 10 + Text.digitValue char
        if maxNatural < next then
          readOptionalExponent positive significand exponent (skipDigits rest)
        else readFraction positive next (exponent - 1) true rest
      else if any then readOptionalExponent positive significand exponent (char :: rest)
      else failAt .numberInvalid (char :: rest)

/-- Reads the digits of an integer part that no longer fit 64 bits, and what follows them. -/
def readLongInteger (positive : Bool) (significand : Nat) :
    Int → List Char → Except SyntaxError (Number × List Char)
  | exponent, [] => floatNumber positive significand exponent []
  | exponent, char :: rest =>
      if char.isDigit then readLongInteger positive significand (exponent + 1) rest
      else if char = '.' then readFraction positive significand exponent false rest
      else readOptionalExponent positive significand exponent (char :: rest)

/-- An integer; a negative one that does not fit 64 bits, and `-0`, is a double. -/
def integerNumber (positive : Bool) (significand : Nat) : Number :=
  if positive then .natural significand
  else if significand = 0 ∨ 0x8000000000000000 < significand then
    signedFloat false significand.toUInt64.toFloat
  else .negative significand

/-- Reads what may follow an integer part: a fraction or an exponent. -/
def readAfterInteger (positive : Bool) (significand : Nat) (text : List Char) :
    Except SyntaxError (Number × List Char) :=
  match text with
  | '.' :: rest => readFraction positive significand 0 false rest
  | 'e' :: rest => readExponent positive significand 0 rest
  | 'E' :: rest => readExponent positive significand 0 rest
  | _ => .ok (integerNumber positive significand, text)

/-- Reads the further digits of an integer part. -/
def readInteger (positive : Bool) : Nat → List Char → Except SyntaxError (Number × List Char)
  | significand, [] => readAfterInteger positive significand []
  | significand, char :: rest =>
      if char.isDigit then
        let next := significand * 10 + Text.digitValue char
        if maxNatural < next then readLongInteger positive significand 0 (char :: rest)
        else readInteger positive next rest
      else readAfterInteger positive significand (char :: rest)

/-- Reads a number whose sign was read. -/
def readNumber (positive : Bool) (text : List Char) : Except SyntaxError (Number × List Char) :=
  match text with
  | [] => failAt .endInValue []
  | char :: rest =>
      if char = '0' then
        match rest with
        | next :: _ =>
            if next.isDigit then failAt .numberInvalid rest
            else readAfterInteger positive 0 rest
        | [] => readAfterInteger positive 0 []
      else if char.isDigit then readInteger positive (Text.digitValue char) rest
      else failAt .numberInvalid text

end Workload.Json
