import Workload.Engine.Client
import Workload.Run.Session

/-!
# What a run logs

Everything that an observer sees of a run is logged. Records of the run itself stand inside its
span; the tasks of the containers, the watcher and the forced exit log apart from it.
-/

namespace Workload.Run

open Log

/-- Under what name runs log. -/
def runTarget : String := "localrun_core::orchestrator"

/-- Under what name the client of the container engine logs. -/
def engineTarget : String := "localrun_core::docker"

/-- Under what name cancellation logs. -/
def cancelTarget : String := "localrun_core::cancel"

/-- The span of a run. -/
def Identity.span (identity : Identity) : Span where
  target := runTarget
  name := "run"
  fields := [("app", .shown identity.application), ("env", .shown identity.environment),
    ("workload", .shown identity.workload)]

/-- The span of a container's run. -/
def containerSpan (container : String) : Span where
  target := engineTarget
  name := "run"
  fields := [("container", .shown container)]

/-- The span of a short call about a container. -/
def callSpan (verb : Verb) (container : String) : Span where
  target := engineTarget
  name := verb.word
  fields := [("name", .quoted container)]

/-- The record of an event of the run itself. -/
def note (level : Level) (text : String) : Record := .message level runTarget text

/-- The records of a call that is made. -/
def callRecords (engine : Engine) (state : State) (verb : Verb) (container : String) :
    List Record :=
  let executing (arguments : List String) : List Record :=
    let span := callSpan verb container
    [.opening span, .entry span,
      (Record.message .debug engineTarget
        ("Executing runtime command: " ++ engine.name ++ " " ++ " ".intercalate arguments)).inside
        span]
  match verb with
  | .run =>
      let image := ((state.plan.pause :: state.plan.applications.map
        Application.specification).find? fun specification =>
          specification.container = container).map Container.Specification.image
      let span := containerSpan container
      [Record.opening span, .entry span,
        (Record.message .debug engineTarget
          ("Starting container with image " ++ image.getD "")).inside span].map Record.apart
  | .isRunning => executing (Engine.inspectArguments container)
  | .stop => executing (Engine.cleanupArguments .stop container)
  | .remove => executing (Engine.cleanupArguments .remove container)

/-- The records of a call that returns. -/
def answerRecords (verb : Verb) (container : String) (fault : Option EngineError) :
    List Record :=
  let span := match verb with
    | .run => containerSpan container
    | _ => callSpan verb container
  let ending := [Record.exit span, .entry span, .exit span, .closing span]
  match verb with
  | .run =>
      let killed := if fault = some .cancelled then
        [(Record.message .debug engineTarget "Run cancelled; terminating runtime client").inside
          span] else []
      (killed ++ ending).map Record.apart
  | .isRunning => ending
  | .stop => ending ++ fault.toList.map fun cause =>
      note .warn ("Failed to stop " ++ container ++ ": " ++ cause.message)
  | .remove => ending ++ fault.toList.map fun cause =>
      note .warn ("Failed to remove " ++ container ++ ": " ++ cause.message)

/-- The records of a phase that is published. -/
def phaseRecords (state : State) (phase : Phase) : List Record :=
  note .debug ("Run phase: " ++ phase.name) ::
    match phase with
    | .pauseStarting =>
        [note .info ("Starting pause container " ++ state.plan.identity.pauseName)]
    | .pauseConfirmed =>
        [note .debug ("Pause container " ++ state.plan.identity.pauseName ++ " is running")]
    | .cleaningUp =>
        [note .info ("Cleaning up " ++ Text.decimal (state.launched.length + 1) ++
          " containers")]
    | _ => []

/-- The record of an error that is noticed and does not become the error of the run. -/
def dismissalRecords (state : State) (fault : RunError) : List Record :=
  if state.firstError.isSome then
    [note .debug ("Ignoring error after first failure: " ++ fault.message)]
  else if fault.isCancellation then
    [note .debug ("Ignoring cancelled run: " ++ fault.message)]
  else if state.interrupted then
    [note .debug ("Suppressing error after operator interrupt: " ++ fault.message)]
  else []

/-- The records of what an observer sees of a run in the given state. -/
def occurrenceRecords (engine : Engine) (state : State) : Occurrence → List Record
  | .published phase => phaseRecords state phase
  | .called verb container => callRecords engine state verb container
  | .answered verb container fault => answerRecords verb container fault
  | .confirmed => []
  | .launched container => [note .info ("Starting container " ++ container)]
  | .ended name => [note .info ("Container " ++ name ++ " exited")]
  | .noticed fault => dismissalRecords state fault
  | .announced event =>
      [{ content := .event .debug "localrun_core::progress" "cleanup progress"
          [("event", .shown event.describe)] }]
  | .interrupted => [(Record.message .info cancelTarget "Operator interrupt received").apart]

/-- The records of the end of the pause container that nobody waits for any more. -/
def drainRecords (state : State) : List Record :=
  match state.pause with
  | some (.returned (.error fault)) =>
      if fault = .cancelled then []
      else [note .debug ("Pause container run ended: " ++ fault.message)]
  | _ => []

/-- The records of a step of a session beside those of what an observer sees. -/
def stepRecords (before : Session) : Session.Event → List Record
  | .arm =>
      [(Record.message .debug cancelTarget
        "Listening for a second interrupt during shutdown").apart]
  | .force =>
      [(Record.message .warn cancelTarget
        "Second interrupt received; abandoning cleanup").apart]
  | .run .retire =>
      [(Record.message .debug cancelTarget
        "Run context finished without an operator interrupt").apart]
  | .run .drained => drainRecords before.run
  | _ => []

/-- All records of a step of a session. -/
def Session.records (engine : Engine) (before after : Session) (event : Session.Event) :
    List Record :=
  (after.run.history.drop before.run.history.length).flatMap
    (occurrenceRecords engine before.run) ++ stepRecords before event

end Workload.Run
