import Workload.Json.Reader

/-!
# Passing over JSON values

A member that nobody asks for is passed over: its value has to be well-formed, but strings need not
denote characters, numbers may be of any size, and nesting is not limited.
-/

namespace Workload.Json

/-- Passes over what follows a backslash. -/
def skipEscape (text : List Char) : Except SyntaxError (List Char) :=
  match text with
  | [] => failAt .endInString []
  | char :: rest =>
      if char ∈ ['"', '\\', '/', 'b', 'f', 'n', 'r', 't'] then .ok rest
      else if char = 'u' then (readHex4 rest).map Prod.snd
      else failAt .escapeInvalid text

/-- Passes over the rest of a string, up to and with its closing quote. The bound is its length. -/
def skipStringBody : Nat → List Char → Except SyntaxError (List Char)
  | 0, _ => failAt .endInString []
  | bound + 1, text =>
      match text with
      | [] => failAt .endInString []
      | '"' :: rest => .ok rest
      | '\\' :: rest => do
          let after ← skipEscape rest
          skipStringBody bound after
      | char :: rest =>
          if char.toNat < 0x20 then failBefore .controlCharacter text
          else skipStringBody bound rest

/-- Passes over the rest of a string whose opening quote was read. -/
def skipString (text : List Char) : Except SyntaxError (List Char) :=
  skipStringBody (text.length + 1) text

/-- The text without the sign that an exponent may begin with. -/
def withoutSign : List Char → List Char
  | '+' :: rest => rest
  | '-' :: rest => rest
  | text => text

/-- Passes over what follows the letter of an exponent. -/
def skipExponent (text : List Char) : Except SyntaxError (List Char) :=
  match withoutSign text with
  | [] => failAt .numberInvalid []
  | char :: rest =>
      if char.isDigit then .ok (skipDigits rest) else failAt .numberInvalid (char :: rest)

/-- Passes over an exponent, if there is one. -/
def skipExponentPart (text : List Char) : Except SyntaxError (List Char) :=
  match text with
  | 'e' :: rest => skipExponent rest
  | 'E' :: rest => skipExponent rest
  | _ => .ok text

/-- Passes over what follows the integer part of a number. -/
def skipFraction (text : List Char) : Except SyntaxError (List Char) :=
  match text with
  | '.' :: rest =>
      match rest with
      | [] => failAt .numberInvalid []
      | char :: after =>
          if char.isDigit then skipExponentPart (skipDigits after)
          else failAt .numberInvalid rest
  | _ => skipExponentPart text

/-- Passes over a number whose sign was read. -/
def skipNumber (text : List Char) : Except SyntaxError (List Char) :=
  match text with
  | [] => failAt .numberInvalid []
  | '0' :: rest =>
      match rest with
      | [] => .ok []
      | next :: _ => if next.isDigit then failAt .numberInvalid rest else skipFraction rest
  | char :: rest =>
      if char.isDigit then skipFraction (skipDigits rest) else failAt .numberInvalid text

/-- Passes over a word, a string or a number. -/
def skipScalar (text : List Char) : Except SyntaxError (List Char) :=
  match text with
  | [] => failAt .endInValue []
  | char :: rest =>
      match char with
      | 'n' => readWord ['u', 'l', 'l'] rest
      | 't' => readWord ['r', 'u', 'e'] rest
      | 'f' => readWord ['a', 'l', 's', 'e'] rest
      | '"' => skipString rest
      | '-' => skipNumber rest
      | _ => if char.isDigit then skipNumber text else failAt .valueExpected text

/-- Passes over the elements of an array up to its end. The bound is the text's length. -/
def skipElements (skipValue : List Char → Except SyntaxError (List Char)) :
    Nat → List Char → Except SyntaxError (List Char)
  | 0, text => failAt .endInList text
  | bound + 1, text => do
      let after ← skipValue text
      match skipBlanks after with
      | [] => failAt .endInList []
      | ']' :: rest => .ok rest
      | ',' :: rest => skipElements skipValue bound rest
      | other => failAt .commaOrBracketExpected other

/-- Passes over the members of an object up to its end. The bound is the text's length. -/
def skipMembers (skipValue : List Char → Except SyntaxError (List Char)) :
    Nat → List Char → Except SyntaxError (List Char)
  | 0, text => failAt .endInObject text
  | bound + 1, text =>
      match skipBlanks text with
      | [] => failAt .endInObject []
      | '"' :: rest => do
          let afterKey ← skipString rest
          let afterColon ← readColon afterKey
          let after ← skipValue afterColon
          match skipBlanks after with
          | [] => failAt .endInObject []
          | '\x7d' :: final => .ok final
          | ',' :: more => skipMembers skipValue bound more
          | other => failAt .commaOrBraceExpected other
      | other => failAt .keyNotString other

/-- Passes over a value. The bound is the text's length, which no nesting exceeds. -/
def skipNested : Nat → List Char → Except SyntaxError (List Char)
  | 0, text => failAt .endInValue text
  | depth + 1, text =>
      match skipBlanks text with
      | '[' :: rest =>
          match skipBlanks rest with
          | [] => failAt .endInList []
          | ']' :: after => .ok after
          | more => skipElements (skipNested depth) (more.length + 1) more
      | '\x7b' :: rest =>
          match skipBlanks rest with
          | [] => failAt .endInObject []
          | '\x7d' :: after => .ok after
          | more => skipMembers (skipNested depth) (more.length + 1) more
      | other => skipScalar other

/-- Passes over a value. -/
def skipValue (text : List Char) : Except SyntaxError (List Char) :=
  skipNested (text.length + 1) text

end Workload.Json
