import Workload.Credentials
import Workload.Json.Decode
import Workload.Json.Skip

/-!
# Exported credentials

The AWS tool exports the credentials of a session as one JSON object. It is read in a single pass,
so an error about its data has a position as well: the place that was reached when the error was
found. An array of the two keys and the token is read like the object.
-/

namespace Workload.Credentials

open Json

/-- The session credentials that the AWS tool exports. -/
structure Exported where
  accessKeyId : String
  secretAccessKey : String
  sessionToken : Option String := none
deriving Repr, DecidableEq

namespace Exported

/-- Why exported credentials cannot be read. -/
inductive Fault where
  | malformed (error : SyntaxError)
  /-- The data are not as expected; `left` is how many bytes were left at the place of the error. -/
  | unexpected (error : DataError) (left : Nat)
deriving Repr, DecidableEq

/-- The wording of an error in the given text. -/
def Fault.message (text : List Char) : Fault → String
  | .malformed error => error.message text
  | .unexpected error left => error.message ++ (Position.before text left).suffix

/-- What an object or an array of credentials is called in errors. -/
def expectation : String := "struct ProcessCredentials"

/-- Takes a step that can only go wrong because of the text's form. -/
def lift {Item : Type} (step : Except SyntaxError Item) : Except Fault Item :=
  step.mapError .malformed

/-- An error of form at the first byte of the given text. -/
def refuse {Item : Type} (reason : SyntaxReason) (text : List Char) : Except Fault Item :=
  lift (failAt reason text)

/--
The error about a value of the wrong kind. The value is read unless it is an array or an object, so
the error stands after it or else before its bracket.
-/
def wrongKind {Item : Type} (expected : String) (text : List Char) : Except Fault Item :=
  match text with
  | '[' :: _ => .error (.unexpected (.wrongType .sequence expected) (byteCount text))
  | '\x7b' :: _ => .error (.unexpected (.wrongType .map expected) (byteCount text))
  | _ => do
      let (value, rest) ← lift (readScalar text)
      .error (.unexpected (.wrongType (.ofValue value) expected) (byteCount rest))

/-- Reads a string. -/
def readText (text : List Char) : Except Fault (String × List Char) :=
  match skipBlanks text with
  | [] => refuse .endInValue []
  | '"' :: rest => lift (readString rest)
  | other => wrongKind "a string" other

/-- Reads a string or `null`. -/
def readOptionalText (text : List Char) : Except Fault (Option String × List Char) :=
  match skipBlanks text with
  | 'n' :: rest => do
      let after ← lift (readWord ['u', 'l', 'l'] rest)
      return (none, after)
  | other => do
      let (value, after) ← readText other
      return (some value, after)

/-- The fields that were read so far. -/
structure Draft where
  accessKeyId : Option String := none
  secretAccessKey : Option String := none
  sessionToken : Option (Option String) := none

/-- The member of the access key id. -/
def accessKeyIdKey : String := "AccessKeyId"

/-- The member of the secret access key. -/
def secretAccessKeyKey : String := "SecretAccessKey"

/-- The member of the session token. -/
def sessionTokenKey : String := "SessionToken"

namespace Draft

/-- Whether the field of a member was read before. -/
def has (draft : Draft) (key : String) : Bool :=
  if key = accessKeyIdKey then draft.accessKeyId.isSome
  else if key = secretAccessKeyKey then draft.secretAccessKey.isSome
  else if key = sessionTokenKey then draft.sessionToken.isSome
  else false

/-- Reads the value of a member; a member that is no field is passed over. -/
def readMember (draft : Draft) (key : String) (text : List Char) :
    Except Fault (Draft × List Char) :=
  if key = accessKeyIdKey then do
    let (value, rest) ← readText text
    return ({ draft with accessKeyId := some value }, rest)
  else if key = secretAccessKeyKey then do
    let (value, rest) ← readText text
    return ({ draft with secretAccessKey := some value }, rest)
  else if key = sessionTokenKey then do
    let (value, rest) ← readOptionalText text
    return ({ draft with sessionToken := some value }, rest)
  else do
    let rest ← lift (skipValue text)
    return (draft, rest)

/-- The credentials of a complete draft; only the token may be absent. -/
def finish (draft : Draft) : Except DataError Exported := do
  let accessKeyId ← required accessKeyIdKey draft.accessKeyId
  let secretAccessKey ← required secretAccessKeyKey draft.secretAccessKey
  return { accessKeyId, secretAccessKey, sessionToken := draft.sessionToken.getD none }

end Draft

/-- The text after the end of an object, if it ends here. -/
def afterBrace (text : List Char) : List Char :=
  match skipBlanks text with
  | '\x7d' :: rest => rest
  | other => other

/--
Reads the members of an object from the opening quote of a key on. The bound is the text's length.
-/
def readMembers : Nat → Draft → List Char → Except Fault (Draft × List Char)
  | 0, _, text => refuse .endInObject text
  | bound + 1, draft, text =>
      match text with
      | '"' :: rest => do
          let (key, afterKey) ← lift (readString rest)
          if draft.has key then
            .error (.unexpected (.duplicateField key) (byteCount (afterBrace afterKey)))
          else do
            let afterColon ← lift (readColon afterKey)
            let (longer, after) ← draft.readMember key afterColon
            match skipBlanks after with
            | [] => refuse .endInObject []
            | '\x7d' :: final => return (longer, final)
            | ',' :: more =>
                match skipBlanks more with
                | [] => refuse .endInValue []
                | '\x7d' :: final => refuse .trailingComma ('\x7d' :: final)
                | next => readMembers bound longer next
            | other => refuse .commaOrBraceExpected other
      | other => refuse .keyNotString other

/-- Reads an object whose opening brace was read. -/
def readObject (text : List Char) : Except Fault (Exported × List Char) := do
  let (draft, rest) ←
    (match skipBlanks text with
    | [] => refuse .endInObject []
    | '\x7d' :: rest => .ok ({}, rest)
    | more => readMembers (more.length + 1) {} more : Except Fault (Draft × List Char))
  match draft.finish with
  | .ok exported => return (exported, rest)
  | .error error => .error (.unexpected error (byteCount rest))

/-- Passes over what stands before an element of an array; gives nothing if the array ends here. -/
def nextElement (isFirst : Bool) (text : List Char) : Except Fault (Option (List Char)) :=
  match skipBlanks text with
  | [] => refuse .endInList []
  | ']' :: _ => .ok none
  | ',' :: rest =>
      if isFirst then .ok (some (',' :: rest))
      else
        match skipBlanks rest with
        | [] => refuse .endInValue []
        | ']' :: after => refuse .trailingComma (']' :: after)
        | other => .ok (some other)
  | other => if isFirst then .ok (some other) else refuse .commaOrBracketExpected other

/-- The text after the end of an array that ends here. -/
def afterBracket (text : List Char) : List Char :=
  (skipBlanks text).drop 1

/-- Reads the element of an array that stands for a field. -/
def readElement {Item : Type} (index : Nat) (read : List Char → Except Fault (Item × List Char))
    (text : List Char) : Except Fault (Item × List Char) := do
  match ← nextElement (index = 0) text with
  | some element => read element
  | none =>
      .error (.unexpected (.tooShort index (expectation ++ " with 3 elements"))
        (byteCount (afterBracket text)))

/-- Reads the end of an array. -/
def readEnd (text : List Char) : Except Fault (List Char) :=
  match skipBlanks text with
  | [] => refuse .endInList []
  | ']' :: rest => .ok rest
  | ',' :: rest =>
      match skipBlanks rest with
      | ']' :: after => refuse .trailingComma (']' :: after)
      | other => refuse .trailingCharacters other
  | other => refuse .trailingCharacters other

/-- Reads an array whose opening bracket was read. -/
def readArray (text : List Char) : Except Fault (Exported × List Char) := do
  let (accessKeyId, afterFirst) ← readElement 0 readText text
  let (secretAccessKey, afterSecond) ← readElement 1 readText afterFirst
  let (sessionToken, afterThird) ←
    (do
      match ← nextElement false afterSecond with
      | some element => readOptionalText element
      | none => return (none, afterSecond) : Except Fault (Option String × List Char))
  let rest ← readEnd afterThird
  return ({ accessKeyId, secretAccessKey, sessionToken }, rest)

/-- Reads exported credentials at the beginning of a text. -/
def readBeginning (text : List Char) : Except Fault (Exported × List Char) :=
  match skipBlanks text with
  | [] => refuse .endInValue []
  | '[' :: rest => readArray rest
  | '\x7b' :: rest => readObject rest
  | other => wrongKind expectation other

/-- Reads exported credentials. -/
def read (text : List Char) : Except Fault Exported := do
  let (exported, rest) ← readBeginning text
  match skipBlanks rest with
  | [] => return exported
  | other => refuse .trailingCharacters other

end Exported

end Workload.Credentials
