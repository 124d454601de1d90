import Workload.Text.Numeral

/-!
# Syntax errors of JSON text

A syntax error names its reason and how many bytes of the text were left when it arose. The position
shown to a reader is a line, counted from one, and the number of bytes of that line that were read.
-/

namespace Workload.Json

/-- Why a text is not JSON. -/
inductive SyntaxReason where
  | endInList
  | endInObject
  | endInString
  | endInValue
  | colonExpected
  | commaOrBracketExpected
  | commaOrBraceExpected
  | wordExpected
  | valueExpected
  | escapeInvalid
  | numberInvalid
  | numberOutOfRange
  | controlCharacter
  | keyNotString
  | loneSurrogate
  | escapeUnfinished
  | trailingComma
  | trailingCharacters
  | tooDeep
deriving Repr, DecidableEq

/-- The wording of a syntax error, without its position. -/
def SyntaxReason.message : SyntaxReason → String
  | .endInList => "EOF while parsing a list"
  | .endInObject => "EOF while parsing an object"
  | .endInString => "EOF while parsing a string"
  | .endInValue => "EOF while parsing a value"
  | .colonExpected => "expected `:`"
  | .commaOrBracketExpected => "expected `,` or `]`"
  | .commaOrBraceExpected => "expected `,` or `\x7d`"
  | .wordExpected => "expected ident"
  | .valueExpected => "expected value"
  | .escapeInvalid => "invalid escape"
  | .numberInvalid => "invalid number"
  | .numberOutOfRange => "number out of range"
  | .controlCharacter => "control character (\\u0000-\\u001F) found while parsing a string"
  | .keyNotString => "key must be a string"
  | .loneSurrogate => "lone leading surrogate in hex escape"
  | .escapeUnfinished => "unexpected end of hex escape"
  | .trailingComma => "trailing comma"
  | .trailingCharacters => "trailing characters"
  | .tooDeep => "recursion limit exceeded"

/-- A syntax error and the number of bytes that were left when it arose. -/
structure SyntaxError where
  reason : SyntaxReason
  left : Nat
deriving Repr, DecidableEq

/-- The number of UTF-8 bytes of a text. -/
def byteCount (text : List Char) : Nat :=
  text.foldr (fun char count => char.utf8Size + count) 0

/-- A place in a text: its line, counted from one, and the bytes of the line before it. -/
structure Position where
  line : Nat
  column : Nat
deriving Repr, DecidableEq

/-- The place reached after `count` bytes, starting from `position`. -/
def Position.advance (position : Position) : Nat → List Char → Position
  | _, [] => position
  | count, char :: rest =>
      if count = 0 then position
      else if char = '\n' then Position.advance ⟨position.line + 1, 0⟩ (count - 1) rest
      else if count < char.utf8Size then ⟨position.line, position.column + count⟩
      else
        Position.advance ⟨position.line, position.column + char.utf8Size⟩
          (count - char.utf8Size) rest

/-- The place in a text where `left` bytes are left. -/
def Position.before (text : List Char) (left : Nat) : Position :=
  Position.advance ⟨1, 0⟩ (byteCount text - left) text

/-- How a position follows a message. -/
def Position.suffix (position : Position) : String :=
  " at line " ++ Text.decimal position.line ++ " column " ++ Text.decimal position.column

/-- The message of a syntax error in the given text. -/
def SyntaxError.message (error : SyntaxError) (text : List Char) : String :=
  error.reason.message ++ (Position.before text error.left).suffix

end Workload.Json
