import Workload.Log.Filter
import Workload.ProcessEnvironment
import Workload.Text.LowerCase

/-!
# Settings of the log

The log is written as lines of text or as JSON objects, one each. The process environment chooses
what is logged; the operator's choice of the form takes precedence over that of the environment.
-/

namespace Workload.Log

/-- The form of the log. -/
inductive Form where
  | text
  | json
deriving Repr, DecidableEq

/-- The name of the JSON form. -/
def jsonName : String := "json"

/-- The form with the given name; every other name stands for text. -/
def Form.ofName (name : String) : Form :=
  if name = jsonName then .json else .text

/-- Which stages in the life of spans are logged. -/
structure SpanStages where
  opened : Bool := false
  entered : Bool := false
  exited : Bool := false
  closed : Bool := false
deriving Repr, DecidableEq

namespace SpanStages

/-- The stages of two choices together. -/
def union (first second : SpanStages) : SpanStages where
  opened := first.opened || second.opened
  entered := first.entered || second.entered
  exited := first.exited || second.exited
  closed := first.closed || second.closed

/-- The stages that a word stands for; an unknown word stands for none. -/
def ofWord (word : String) : SpanStages :=
  match word with
  | "new" => { opened := true }
  | "close" => { closed := true }
  | "enter" => { entered := true }
  | "exit" => { exited := true }
  | "active" => { entered := true, exited := true }
  | "full" => { opened := true, entered := true, exited := true, closed := true }
  | _ => {}

/-- Reads words that are separated by commas or bars. -/
def read (text : String) : SpanStages :=
  (Text.splitAll (fun char => char = ',' || char = '|') text).foldl
    (fun stages word => stages.union (ofWord (Text.lowerCase (Text.trim word)))) {}

/-- The stages that are logged when nothing is said: none in text, the ends of spans in JSON. -/
def default : Form → SpanStages
  | .text => {}
  | .json => { opened := true, closed := true }

end SpanStages

/-- The settings of the log. -/
structure Settings where
  filter : Filter
  formName : String
  stages : SpanStages
deriving Repr, DecidableEq

namespace Settings

/-- The variable of the filter. -/
def filterName : String := "LOCALRUN_LOG"

/-- The variable of the filter that applies when the first is not set. -/
def commonFilterName : String := "RUST_LOG"

/-- The variable of the form. -/
def formVariable : String := "LOCALRUN_LOG_FORMAT"

/-- The variable of the stages of spans. -/
def stagesName : String := "LOCALRUN_LOG_SPAN_EVENTS"

/-- The filter when nothing else is said. -/
def defaultFilter : Filter := .upTo .info

/-- The filter from the process environment; one that cannot be read counts as unset. -/
def filterOf (environment : ProcessEnvironment) : Filter :=
  let text := (environment.text? filterName).or (environment.text? commonFilterName)
  (text.bind Filter.read).getD defaultFilter

/-- The form of the log. -/
def form (settings : Settings) : Form := .ofName settings.formName

/-- The settings from the process environment and the operator's choice of the form. -/
def read (environment : ProcessEnvironment) (chosen : Option String) : Settings :=
  let formName := (chosen.or (environment.text? formVariable)).getD "text"
  { filter := filterOf environment
    formName
    stages := ((environment.text? stagesName).map SpanStages.read).getD
      (.default (.ofName formName)) }

/-- The record of the beginning of the log. -/
def started (settings : Settings) : Record :=
  .message .debug "localrun_core::logging"
    ("Logging initialized with format: " ++ settings.formName)

/-- Whether a stage in the life of a span is asked for. -/
def asksFor (settings : Settings) : Content → Bool
  | .opened _ => settings.stages.opened
  | .entered _ => settings.stages.entered
  | .exited _ => settings.stages.exited
  | .closed _ => settings.stages.closed
  | _ => false

/-- Whether a record is logged. -/
def allows (settings : Settings) (record : Record) : Bool :=
  let scope := settings.filter.scopeOf record.around
  match record.content with
  | .event level target _ fields => settings.filter.allows scope level target fields
  | stage =>
      settings.asksFor stage && stage.span?.any fun span => settings.filter.allowsSpan scope span

/-- A record without the spans that are not part of the log. -/
def visible (settings : Settings) (record : Record) : Record :=
  { record with scope := (settings.filter.scopeOf record.scope).spans }

/-- What is logged of the given records. -/
def logged (settings : Settings) (records : List Record) : List Record :=
  ((records.flatMap Record.expanded).filter settings.allows).map settings.visible

end Settings

end Workload.Log
