import Workload.Json.Writer
import Workload.Log.Settings
import Workload.Text.Lines

/-!
# Log lines

A line of text shows the level, the spans around the record, its message and its fields. A JSON line
is an object with the level, the target and the fields; the innermost span of the record is its
member `span`, and the spans that are entered are the list `spans`. Times are left to whoever writes
the lines.
-/

namespace Workload.Log

open Json

/-- The part of a record that says what happened. -/
structure Report where
  level : Level
  target : String
  message : String
  fields : Fields := []

/-- What happened. -/
def Content.report : Content → Report
  | .event level target message fields => { level, target, message, fields }
  | .opened span => { level := .info, target := span.target, message := "new" }
  | .entered span => { level := .info, target := span.target, message := "enter" }
  | .exited span => { level := .info, target := span.target, message := "exit" }
  | .closed span => { level := .info, target := span.target, message := "close" }
  | .waited => { level := .trace, target := "", message := "" }

/-! ## Lines of text -/

/--
How a line of text shows a character of a message: characters that steer terminals are escaped.
-/
def shownChar (char : Char) : List Char :=
  match char with
  | '\x1b' => ['\\', 'x', '1', 'b']
  | '\x07' => ['\\', 'x', '0', '7']
  | '\x08' => ['\\', 'x', '0', '8']
  | '\x0c' => ['\\', 'x', '0', 'c']
  | '\x7f' => ['\\', 'x', '7', 'f']
  | other =>
      if 0x80 ≤ other.toNat && other.toNat ≤ 0x9F then
        ['\\', 'u', '\x7b'] ++ Nat.toDigits 16 other.toNat ++ ['\x7d']
      else [other]

/-- How a line of text shows a message. -/
def shownMessage (message : String) : String :=
  String.ofList (message.toList.flatMap shownChar)

/-- How a line of text shows the value of a field. -/
def FieldValue.text : FieldValue → String
  | .shown text => text
  | .quoted text => Text.quoted text
  | .number value => Text.decimal value

/-- How a line of text shows fields. -/
def fieldsText (fields : Fields) : String :=
  " ".intercalate (fields.map fun (name, value) => name ++ "=" ++ value.text)

/-- How a line of text shows a span. -/
def Span.text (span : Span) : String :=
  if span.fields.isEmpty then span.name
  else span.name ++ "\x7b" ++ fieldsText span.fields ++ "\x7d"

/-- How a line of text shows spans; nothing if there are none. -/
def pathText (spans : List Span) : String :=
  if spans.isEmpty then "" else ":".intercalate (spans.map Span.text) ++ ": "

/-- A record as a line of text. -/
def Record.textLine (record : Record) : String :=
  let report := record.content.report
  let fields := if report.fields.isEmpty then "" else " " ++ fieldsText report.fields
  report.level.label ++ " " ++ pathText record.path ++ shownMessage report.message ++ fields

/-! ## JSON lines -/

/-- The value of a field in JSON. -/
def FieldValue.value : FieldValue → Value
  | .shown text => .string text
  | .quoted text => .string text
  | .number value => .number (.natural value)

/-- Fields as members of an object. -/
def fieldMembers (fields : Fields) : List (String × Value) :=
  fields.map fun (name, value) => (name, value.value)

/-- A span as an object; its name takes the place of a field of that name. -/
def Span.value (span : Span) : Value :=
  .ofMembers (fieldMembers span.fields ++ [("name", .string span.name)])

/-- The members of a JSON line about spans. -/
def Record.spanMembers (record : Record) : List (String × Value) :=
  match record.path.getLast? with
  | none => []
  | some span =>
      [("span", span.value), ("spans", .array (record.scope.map Span.value))]

/-- A record as a JSON line. -/
def Record.jsonLine (record : Record) : Value :=
  let report := record.content.report
  .ofMembers ([("level", .string report.level.label), ("target", .string report.target),
    ("fields", .ofMembers (("message", .string report.message) :: fieldMembers report.fields))] ++
    record.spanMembers)

/-- A line of the log. -/
inductive Line where
  | text (line : String)
  | json (line : Value)
deriving Repr

/-- A record as a line of the log. -/
def Settings.line (settings : Settings) (record : Record) : Line :=
  match settings.form with
  | .text => .text record.textLine
  | .json => .json record.jsonLine

/-- The lines that are logged for the given records. -/
def Settings.lines (settings : Settings) (records : List Record) : List Line :=
  (settings.logged records).map settings.line

/--
What a line of the log takes up when it is printed: a newline in a line of text ends it, and what
follows stands on lines of its own.
-/
def Line.pieces : Line → List Line
  | .text line => (Text.printedLines line).map Line.text
  | .json line => [.json line]

/-- What follows the first newline in a line of the log. -/
def Line.remainder : Line → List String
  | .text line => (Text.printedLines line).drop 1
  | .json _ => []

/-- All lines that are printed for the given records. -/
def Settings.printed (settings : Settings) (records : List Record) : List Line :=
  (settings.lines records).flatMap Line.pieces

end Workload.Log
