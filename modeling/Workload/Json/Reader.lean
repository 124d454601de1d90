import Workload.Json.Lexeme

/-!
# Reading JSON text

`Value.parse` reads a whole text. Arrays and objects may be nested up to `maxDepth` deep; one
bracket more is refused before it is read.
-/

namespace Workload.Json

/-- How many arrays and objects may be open at once. -/
def maxDepth : Nat := 127

/--
Reads the elements of an array whose opening bracket, and any comma before the element, was read.
The bound is the text's length.
-/
def readElements (readValue : List Char → Except SyntaxError (Value × List Char)) :
    Nat → List Char → Except SyntaxError (List Value × List Char)
  | 0, text => failAt .endInList text
  | bound + 1, text => do
      let (value, after) ← readValue text
      match skipBlanks after with
      | [] => failAt .endInList []
      | ']' :: rest => return ([value], rest)
      | ',' :: rest =>
          match skipBlanks rest with
          | [] => failAt .endInValue []
          | ']' :: more => failAt .trailingComma (']' :: more)
          | more => do
              let (values, final) ← readElements readValue bound more
              return (value :: values, final)
      | other => failAt .commaOrBracketExpected other

/-- Reads an array whose opening bracket was read. -/
def readArray (readValue : List Char → Except SyntaxError (Value × List Char)) (text : List Char) :
    Except SyntaxError (List Value × List Char) :=
  match skipBlanks text with
  | [] => failAt .endInList []
  | ']' :: rest => .ok ([], rest)
  | more => readElements readValue (more.length + 1) more

/-- Reads the colon between a key and its value. -/
def readColon (text : List Char) : Except SyntaxError (List Char) :=
  match skipBlanks text with
  | [] => failAt .endInObject []
  | ':' :: rest => .ok rest
  | other => failAt .colonExpected other

/--
Reads the members of an object from the opening quote of a key on. The bound is the text's length.
-/
def readMembers (readValue : List Char → Except SyntaxError (Value × List Char)) :
    Nat → List Char → Except SyntaxError (List (String × Value) × List Char)
  | 0, text => failAt .endInObject text
  | bound + 1, text =>
      match text with
      | '"' :: rest => do
          let (key, afterKey) ← readString rest
          let afterColon ← readColon afterKey
          let (value, after) ← readValue afterColon
          match skipBlanks after with
          | [] => failAt .endInObject []
          | '\x7d' :: final => return ([(key, value)], final)
          | ',' :: more =>
              match skipBlanks more with
              | [] => failAt .endInValue []
              | '\x7d' :: final => failAt .trailingComma ('\x7d' :: final)
              | next => do
                  let (members, final) ← readMembers readValue bound next
                  return ((key, value) :: members, final)
          | other => failAt .commaOrBraceExpected other
      | other => failAt .keyNotString other

/-- Reads an object whose opening brace was read. -/
def readObject (readValue : List Char → Except SyntaxError (Value × List Char)) (text : List Char) :
    Except SyntaxError (List (String × Value) × List Char) :=
  match skipBlanks text with
  | [] => failAt .endInObject []
  | '\x7d' :: rest => .ok ([], rest)
  | more => readMembers readValue (more.length + 1) more

/-- Reads a word, a string or a number; brackets are left to the caller. -/
def readScalar (text : List Char) : Except SyntaxError (Value × List Char) :=
  match text with
  | [] => failAt .endInValue []
  | char :: rest =>
      match char with
      | 'n' => do return (.null, ← readWord ['u', 'l', 'l'] rest)
      | 't' => do return (.bool true, ← readWord ['r', 'u', 'e'] rest)
      | 'f' => do return (.bool false, ← readWord ['a', 'l', 's', 'e'] rest)
      | '"' => do
          let (chars, after) ← readString rest
          return (.string chars, after)
      | '-' => do
          let (number, after) ← readNumber false rest
          return (.number number, after)
      | _ =>
          if char.isDigit then do
            let (number, after) ← readNumber true text
            return (.number number, after)
          else failAt .valueExpected text

/-- Reads a value in which at most `depth` arrays and objects are open at once. -/
def readValue : Nat → List Char → Except SyntaxError (Value × List Char)
  | 0, text =>
      match skipBlanks text with
      | '[' :: rest => failAt .tooDeep ('[' :: rest)
      | '\x7b' :: rest => failAt .tooDeep ('\x7b' :: rest)
      | other => readScalar other
  | depth + 1, text =>
      match skipBlanks text with
      | '[' :: rest => do
          let (values, after) ← readArray (readValue depth) rest
          return (.array values, after)
      | '\x7b' :: rest => do
          let (members, after) ← readObject (readValue depth) rest
          return (Value.ofMembers members, after)
      | other => readScalar other

/-- Reads a whole text as one value. -/
def Value.parse (text : List Char) : Except SyntaxError Value := do
  let (value, rest) ← readValue maxDepth text
  match skipBlanks rest with
  | [] => return value
  | other => failAt .trailingCharacters other

end Workload.Json
