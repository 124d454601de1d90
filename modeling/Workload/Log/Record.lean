/-!
# Log records

A record is an event or a stage in the life of a span. Spans surround what is logged while they are
entered; `Record.scope` lists them from the outermost to the innermost. What becomes of a record is
decided later, by the filter and the form of the log.
-/

namespace Workload.Log

/-- How important a record is. -/
inductive Level where
  | error
  | warn
  | info
  | debug
  | trace
deriving Repr, DecidableEq

namespace Level

/-- All levels, from the most to the least important. -/
def all : List Level := [.error, .warn, .info, .debug, .trace]

/-- How much has to be logged for a level to be part of it. -/
def rank : Level → Nat
  | .error => 1
  | .warn => 2
  | .info => 3
  | .debug => 4
  | .trace => 5

/-- The name of a level in a log line. -/
def label : Level → String
  | .error => "ERROR"
  | .warn => "WARN"
  | .info => "INFO"
  | .debug => "DEBUG"
  | .trace => "TRACE"

/-- The name of a level in settings. -/
def word : Level → String
  | .error => "error"
  | .warn => "warn"
  | .info => "info"
  | .debug => "debug"
  | .trace => "trace"

end Level

/-- The value of a field. -/
inductive FieldValue where
  /-- A text that is shown as it is. -/
  | shown (text : String)
  /-- A text that a line of text shows in quotes. -/
  | quoted (text : String)
  | number (value : Nat)
deriving Repr, DecidableEq

/-- Fields with their values. -/
abbrev Fields := List (String × FieldValue)

/-- A span: a piece of work that what is logged belongs to. -/
structure Span where
  target : String
  name : String
  fields : Fields := []
deriving Repr, DecidableEq

/-- What a record is about. -/
inductive Content where
  | event (level : Level) (target message : String) (fields : Fields)
  | opened (span : Span)
  | entered (span : Span)
  | exited (span : Span)
  | closed (span : Span)
  /-- The task that has entered the spans waits and goes on later. -/
  | waited
deriving Repr, DecidableEq

/-- The span whose life a record is about. -/
def Content.span? : Content → Option Span
  | .opened span => some span
  | .entered span => some span
  | .exited span => some span
  | .closed span => some span
  | _ => none

/-- Something that was logged, with the spans that were entered when it was. -/
structure Record where
  scope : List Span := []
  content : Content
  /-- It was logged by a task of its own, which has entered none of the spans around. -/
  detached : Bool := false
deriving Repr, DecidableEq

namespace Record

/-- An event without fields. -/
def message (level : Level) (target text : String) : Record :=
  { content := .event level target text [] }

/-- A record that was made while a span was entered. -/
def inside (span : Span) (record : Record) : Record :=
  if record.detached then record else { record with scope := span :: record.scope }

/-- A record that was made by a task of its own. -/
def apart (record : Record) : Record :=
  { record with detached := true }

/-- A stage in the life of a span. -/
def opening (span : Span) : Record := { content := .opened span }

/-- A span is entered. -/
def entry (span : Span) : Record := { scope := [span], content := .entered span }

/-- A span is left. -/
def exit (span : Span) : Record := { content := .exited span }

/-- A span is over. -/
def closing (span : Span) : Record := { content := .closed span }

/-- Work that is done in one go inside a span. -/
def within (span : Span) (records : List Record) : List Record :=
  opening span :: entry span :: records.map (inside span) ++ [exit span, closing span]

/-- Work of a task inside a span; the span is entered once more while the task is taken apart. -/
def task (span : Span) (records : List Record) : List Record :=
  opening span :: entry span :: records.map (inside span) ++
    [exit span, entry span, exit span, closing span]

/-- Work inside a span that never ends because the process does. -/
def unfinished (span : Span) (records : List Record) : List Record :=
  opening span :: entry span :: records.map (inside span)

/-- A task waits: it gives way, and goes on later. -/
def waiting : Record := { content := .waited }

/-- All spans are left, the innermost first. -/
def leaving : List Span → List Record
  | [] => []
  | span :: inner => (leaving inner).map (inside span) ++ [exit span]

/-- All spans are entered again, the outermost first. -/
def returning : List Span → List Record
  | [] => []
  | span :: inner => entry span :: (returning inner).map (inside span)

/-- What a record stands for: waiting leaves all spans and enters them again. -/
def expanded (record : Record) : List Record :=
  match record.content with
  | .waited => leaving record.scope ++ returning record.scope
  | _ => [record]

/-- The spans around what a record is about: a span that is entered is not around itself. -/
def around (record : Record) : List Span :=
  match record.content with
  | .entered _ => record.scope.dropLast
  | _ => record.scope

/-- The spans that a record belongs to; a span that is not entered belongs to its own records. -/
def path (record : Record) : List Span :=
  match record.content with
  | .opened span => record.scope ++ [span]
  | .exited span => record.scope ++ [span]
  | .closed span => record.scope ++ [span]
  | _ => record.scope

end Record

end Workload.Log
