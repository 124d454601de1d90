import Workload.Log.Record
import Workload.Text.Numeral
import Workload.Text.Pattern.Reader
import Workload.Text.Split

/-!
# Directives of log filters

A directive says up to which level something is logged, and what it is about: targets that begin
with a text, and spans of a name or with a field. It is written as a target, a name of a span with a
field in braces behind it, both in brackets, and the level after an equals sign. Every part may be
left out, though not all of them; a directive without a level means everything.
-/

namespace Workload.Log

open Text

/-- How much is logged: nothing, or everything up to a level. -/
abbrev Verbosity := Option Level

/-- How much is logged, as a number. -/
def Verbosity.rank (verbosity : Verbosity) : Nat :=
  (verbosity.map Level.rank).getD 0

/-- A level of a directive by its number. -/
def verbosityOfNumber : Nat → Option Verbosity
  | 0 => some none
  | number + 1 => (Level.all[number]?).map some

/-- The lower-case form of the ASCII letters of a text. -/
def lowerAscii (text : List Char) : String :=
  String.ofList (text.map Char.toLower)

/-- A level of a directive by its word. -/
def verbosityOfWord (word : String) : Option Verbosity :=
  if word = "off" then some none
  else (Level.all.find? fun level => level.word = word).map some

/-- The greatest number that is read as a natural one. -/
def maxNumber : Nat := UInt64.size - 1

/-- Reads the level of a directive: a number or a word in any case. -/
def readVerbosity (text : List Char) : Option Verbosity :=
  ((readNumeral? maxNumber text).bind verbosityOfNumber).or (verbosityOfWord (lowerAscii text))

/-! ## Fields -/

/-- What the value of a field has to be. -/
inductive ValueTest where
  | number (value : Nat)
  /-- A truth value or a number that is not natural, which no field has. -/
  | foreign (text : List Char)
  | text (pattern : Pattern)
deriving Repr, DecidableEq

namespace ValueTest

/-- Reads what the value of a field has to be. -/
def read (text : List Char) : Option ValueTest :=
  match readNumeral? maxNumber text with
  | some value => some (.number value)
  | none =>
      if isNumber text || String.ofList text ∈ ["true", "false"] then some (.foreign text)
      else (Pattern.read text).map ValueTest.text

/-- Whether a value is as it has to be. -/
def accepts : ValueTest → FieldValue → Bool
  | .number expected, .number value => value = expected
  | .text pattern, .shown content => pattern.describes content
  | .text pattern, .quoted content => pattern.describes content
  | _, _ => false

end ValueTest

/-- A field that something has to have, perhaps with a certain value. -/
structure FieldTest where
  name : String
  value : Option ValueTest
deriving Repr, DecidableEq

namespace FieldTest

/-- Reads a field; what follows a second equals sign does not count. -/
def read (text : List Char) : Option FieldTest :=
  match splitFirstChars '=' text with
  | none => some ⟨String.ofList text, none⟩
  | some (name, following) =>
      let value := ((splitFirstChars '=' following).map Prod.fst).getD following
      (ValueTest.read value).map fun test => ⟨String.ofList name, some test⟩

/-- Whether there is a field of the name among others. -/
def isAmong (test : FieldTest) (names : List String) : Bool :=
  names.contains test.name

/-- Whether the value of the field is as it has to be. -/
def accepts (test : FieldTest) (fields : Fields) : Bool :=
  test.value.all fun expected =>
    fields.any fun (name, value) => name = test.name && expected.accepts value

end FieldTest

/-! ## Directives -/

/-- A directive of a filter. -/
structure Directive where
  /-- What a target has to begin with. -/
  target : Option (List Char) := none
  /-- The name that a span has to have. -/
  span : Option (List Char) := none
  field : Option FieldTest := none
  verbosity : Verbosity
deriving Repr, DecidableEq

namespace Directive

/-- A character that tells the parts of a directive apart, with the one that counts in its place. -/
structure Place where
  sign : Char
  char : Char
deriving Repr, DecidableEq

/-- The characters that count. -/
def chars (places : List Place) : List Char := places.map Place.char

/-- The places before the first of certain signs, that sign, and the places after it. -/
def cutAt (isEnd : Char → Bool) : List Place → Option (List Char × Char × List Place)
  | [] => none
  | place :: rest =>
      if isEnd place.sign then some ([], place.sign, rest)
      else (cutAt isEnd rest).map fun (before, sign, after) => (place.char :: before, sign, after)

/-- Whether a directive may begin with a character, apart from an opening bracket. -/
def mayBegin (char : Char) : Bool :=
  isAlphanumeric char || char = '-' || char = ':' || char = '_'

/-- Reads a directive that is a level, or else a target of which everything is logged. -/
def readSingle (text : List Char) : Directive :=
  match readVerbosity text with
  | some verbosity => { verbosity }
  | none => { target := some text, verbosity := some .trace }

/-- Gives a directive the level that was written for it; an empty one means everything. -/
def withLevel (directive : Directive) (level : List Char) : Option Directive :=
  if level.isEmpty then some { directive with verbosity := some .trace }
  else (readVerbosity level).map fun verbosity => { directive with verbosity }

/-- Reads what follows the closing bracket: nothing, or a level after an equals sign. -/
def readEnd (directive : Directive) (surplus : List Char) : List Place → Option Directive
  | [] => some directive
  | place :: rest => if place.sign = '=' then directive.withLevel (chars rest ++ surplus) else none

/-- Reads what follows the opening brace: a field, the closing brace and the closing bracket. -/
def readField (directive : Directive) (surplus : List Char) (places : List Place) :
    Option Directive := do
  let (field, _, rest) ← cutAt (fun sign => sign = '\x7d') places
  if field.isEmpty then none
  else
    let test ← FieldTest.read field
    match rest with
    | [] => none
    | place :: after =>
        if place.sign = ']' then
          readEnd { directive with field := some test } surplus after
        else none

/-- Reads what follows the opening bracket: the name of a span, a field, or both. -/
def readSpan (directive : Directive) (surplus : List Char) (places : List Place) :
    Option Directive := do
  let (name, sign, rest) ← cutAt (fun sign => sign = ']' || sign = '\x7b') places
  if sign = ']' then readEnd { directive with span := some name } surplus rest
  else
    readField { directive with span := if name.isEmpty then none else some name } surplus rest

/--
Reads a directive. Blanks around it are passed over to find its parts; but the parts are taken,
place by place, from the text with its blanks, so that blanks before a directive shift what is
taken.
-/
def read (text : List Char) : Option Directive :=
  let trimmed := trimChars text
  let places := (trimmed.zip text).map fun (sign, char) => (⟨sign, char⟩ : Place)
  let surplus := text.drop trimmed.length
  match places with
  | [] => none
  | first :: rest =>
      if first.sign = '[' then readSpan { verbosity := some .trace } surplus rest
      else if !mayBegin first.sign then none
      else
        match cutAt (fun sign => sign = '=' || sign = '[') places with
        | none => some (readSingle text)
        | some (target, sign, after) =>
            let directive : Directive := { target := some target, verbosity := some .trace }
            if sign = '[' then readSpan directive surplus after
            else directive.withLevel (chars after ++ surplus)

/-- Whether a directive is about spans: it names one, or a field that it has to have. -/
def isDynamic (directive : Directive) : Bool :=
  directive.span.isSome || directive.field.isSome

/-- Whether the value of a field matters for a directive. -/
def hasValue (directive : Directive) : Bool :=
  directive.field.any fun test => test.value.isSome

/-- Whether a directive decides alone, whatever spans are entered. -/
def isStatic (directive : Directive) : Bool :=
  directive.span.isNone && !directive.hasValue

/-- Whether a directive is about a target. -/
def coversTarget (directive : Directive) (target : String) : Bool :=
  directive.target.all fun start => start.isPrefixOf target.toList

/-- Whether what has fields of the given names has the field that a directive asks for. -/
def coversFields (directive : Directive) (names : List String) : Bool :=
  directive.field.all fun test => test.isAmong names

/-- Whether a directive is about a span, as far as values do not matter. -/
def coversSpan (directive : Directive) (span : Span) : Bool :=
  directive.coversTarget span.target &&
    directive.span.all (fun name => name = span.name.toList) &&
    directive.coversFields (span.fields.map Prod.fst)

/-- Whether a span has the value that a directive asks for. -/
def acceptsValue (directive : Directive) (span : Span) : Bool :=
  directive.field.all fun test => test.accepts span.fields

/-- Whether two directives are about the same. -/
def sameSubject (first second : Directive) : Bool :=
  first.target = second.target && first.span = second.span && first.field = second.field

/-- The length of the target of a directive; one without a target comes before all others. -/
def targetWeight (directive : Directive) : Nat :=
  (directive.target.map fun start => start.length + 1).getD 0

/-- The name of the field that a directive asks for. -/
def fieldName (directive : Directive) : Option String :=
  directive.field.map FieldTest.name

/--
Whether a directive is less specific than another: by its target, or for targets alike by its field,
where a name that comes later in order counts for more.
-/
def isLessSpecific (first second : Directive) : Bool :=
  first.targetWeight < second.targetWeight ||
    (first.targetWeight = second.targetWeight &&
      match first.fieldName, second.fieldName with
      | none, some _ => true
      | some earlier, some later => earlier < later
      | _, none => false)

end Directive

end Workload.Log
