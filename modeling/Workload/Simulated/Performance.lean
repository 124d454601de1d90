import Workload.Execution
import Workload.Simulated.EngineTool
import Workload.Simulated.Processes

/-!
# Commands performed with stand-ins

A performance executes a command whose tools are played by stand-ins. It fixes one interleaving:
first all steps that need nothing from outside, then the notes of the processes, then the signals
that follow upon them, then the end of the process that was started first. The time between two
polls is over when nothing else can happen.
-/

namespace Workload.Simulated

/-- A signal that is sent once a call with certain words was noted. -/
structure SignalCue where
  after : List String := []
  /-- What the log calls the signal. -/
  name : String := "SIGINT"
  /-- The signal is sent again and again. -/
  repeats : Bool := false
deriving Repr, DecidableEq

/-- What a process of the engine was started for. -/
inductive EnginePurpose where
  | run (target : Run.Target)
  | poll
  | cleanup (step : CleanupStep) (target : Run.Target)
deriving Repr, DecidableEq

/-- A command that is being performed. -/
structure Performance where
  execution : Execution
  engine : Engine
  /-- How the tool is played for a process that is handed certain variables. -/
  cast : List (String × String) → Cast
  processes : Processes EnginePurpose := {}
  stdout : List String := []
  stderr : List String := []
  /-- What was logged inside the run. -/
  records : List Log.Record := []
  /-- The signals that are still to be sent. -/
  cues : List SignalCue := []

namespace Performance

/-- The containers of a run, the pause container first. -/
def targets (run : Run.State) : List Run.Target :=
  .pause :: (List.range run.launched.length).map .application

/-- The application containers of a run. -/
def applications (run : Run.State) : List Run.Target :=
  (List.range run.launched.length).map .application

/-- The steps that need nothing from outside, in the order in which they are tried. -/
def immediate (run : Run.State) : List Run.Session.Event :=
  let steps : List Run.Event :=
    [Run.Event.interrupt, .cancel, .begin, .launch] ++ (targets run).map .notice ++
    [Run.Event.noticeCancellation, .noticeAllEnded, .stopPolling, .poll, .drained, .close] ++
    (targets run).map .call ++ (applications run).map .stop ++ (applications run).map .remove ++
    [Run.Event.stop .pause, .remove .pause, .finish, .retire]
  [Run.Session.Event.force, .watch, .arm] ++ steps.map .run

/-- What the operator reads on account of a step. -/
def noticeLines : Run.Session.Event → List String
  | .run .interrupt => ["", Watcher.notice, ""]
  | .force => ["", ForcedExit.notice]
  | _ => []

/-- Takes a step of the session, if it is possible, and nothing else. -/
def take? (performance : Performance) (event : Run.Session.Event) : Option Performance := do
  let before ← performance.execution.session
  let execution ← performance.execution.step event
  let after ← execution.session
  return { performance with
    execution
    stderr := performance.stderr ++ noticeLines event
    records := performance.records ++ Run.Session.records performance.engine before after event }

/-- Takes a step of the session if it is possible. -/
def take (performance : Performance) (event : Run.Session.Event) : Performance :=
  (performance.take? event).getD performance

/-- The state of the run. -/
def run? (performance : Performance) : Option Run.State :=
  performance.execution.session.map Run.Session.run

/-- The event by which the run learns of a reply. -/
def answerEvent (run : Run.State) (reply : Tool.Reply) : EnginePurpose → Run.Event
  | .run target => .callReturns target (Engine.runResult reply)
  | .poll => .pollAnswers (Engine.runningResult reply)
  | .cleanup .stop target =>
      .stopAnswers target (Engine.cleanupResult .stop (run.containerOf target) reply)
  | .cleanup .remove target =>
      .removeAnswers target (Engine.cleanupResult .remove (run.containerOf target) reply)

/-- What a step asks the engine for. -/
def requestOf (run : Run.State) : Run.Session.Event → Option (EnginePurpose × EngineRequest)
  | .run (.call target) =>
      (run.specification? target).map fun specification =>
        (.run target, .run specification false)
  | .run .poll => some (.poll, .isRunning run.plan.identity.pauseName)
  | .run (.stop target) =>
      some (.cleanup .stop target, .cleanup .stop (run.containerOf target))
  | .run (.remove target) =>
      some (.cleanup .remove target, .cleanup .remove (run.containerOf target))
  | _ => none

/-- Starts the process of a request, or lets the run learn why none can be started. -/
def launch (performance : Performance) (run : Run.State) (purpose : EnginePurpose)
    (request : EngineRequest) : Performance :=
  match Tool.refusal? request.handedOver, performance.cast request.secrets with
  | some failure, _ =>
      performance.take (.run (answerEvent run (.error failure) purpose))
  | none, .error failure =>
      performance.take (.run (answerEvent run (.error failure) purpose))
  | none, .ok rules =>
      { performance with
        processes := performance.processes.start purpose
          (.ofRun performance.engine.name request.arguments request.secrets)
          (ruleFor rules request.arguments) }

/-- Whether a process runs a container. -/
def runsContainer : EnginePurpose → Bool
  | .run _ => true
  | _ => false

/-- Ends the runs of all containers once the run is cancelled. -/
def killCancelled (performance : Performance) (run : Run.State) : Performance :=
  if run.cancelled.isSome then
    let killed := { performance with processes := performance.processes.kill runsContainer }
    (targets run).foldl
      (fun current target => current.take (.run (.callReturns target (.error .cancelled)))) killed
  else performance

/-- Takes a step of the session, if it is possible, with everything that follows from it at once. -/
def perform? (performance : Performance) (event : Run.Session.Event) : Option Performance := do
  let taken ← performance.take? event
  let run ← taken.run?
  let started := match requestOf run event with
    | some (purpose, request) => taken.launch run purpose request
    | none => taken
  return (started.run?.map started.killCancelled).getD started

/-- Takes the steps that need nothing from outside; `bound` limits their number. -/
def settle : Nat → Performance → Performance
  | 0, performance => performance
  | bound + 1, performance =>
      match performance.run? with
      | none => performance
      | some run =>
          match (immediate run).findSome? performance.perform? with
          | some next => settle bound next
          | none => performance

/-- The output of a container is shown as soon as its process has written it. -/
def showOutput (performance : Performance) (process : Process EnginePurpose) : Performance :=
  match process.purpose, performance.run? with
  | .run target, some run =>
      match run.specification? target with
      | some specification =>
          let output := process.rule.output
          { performance with
            stdout := performance.stdout ++
              Engine.labelledLines specification output.stdout
            stderr := performance.stderr ++
              Engine.labelledLines specification output.stderr }
      | none => performance
  | _, _ => performance

/-- Lets a process note its call. -/
def note? (performance : Performance) : Option Performance :=
  performance.processes.note?.map fun (process, processes) =>
    { performance with processes }.showOutput process

/-- Whether a signal can be sent. -/
def isDue (performance : Performance) (cue : SignalCue) : Bool :=
  Processes.wasNoted performance.processes.notes cue.after

/-- Whether somebody listens for signals. -/
def isHeard (performance : Performance) : Bool :=
  performance.execution.session.any fun session =>
    (session.watching && session.run.watcher = .listening) || session.forcedExit = .listening

/-- Sends a signal. -/
def send (performance : Performance) (cue : SignalCue) : Performance :=
  let sent := performance.take .signal
  if performance.isHeard then
    { sent with records := sent.records ++
        [(Log.Record.message .debug Run.cancelTarget ("Received " ++ cue.name)).apart] }
  else sent

/-- Sends the first signal that is due; one that is repeated is sent only if somebody listens. -/
def signal? (performance : Performance) : Option Performance :=
  match performance.cues.find? fun cue =>
      performance.isDue cue && (!cue.repeats || performance.isHeard) with
  | some cue =>
      let sent := performance.send cue
      if cue.repeats then some sent else some { sent with cues := sent.cues.erase cue }
  | none => none

/-- Lets a process end. -/
def end? (performance : Performance) : Option Performance :=
  match performance.processes.end?, performance.run? with
  | some (process, processes), some run =>
      let ended := { performance with processes }
      some (ended.take (.run (answerEvent run (.ok process.rule.output) process.purpose)))
  | _, _ => none

/-- Lets the next thing happen that the run itself does not bring about. -/
def next? (performance : Performance) : Option Performance :=
  performance.note?.or (performance.signal?.or (performance.end?.or
    (performance.take? (.run .pollAgain))))

/-- A bound for the steps between two events from outside. -/
def settleBound (performance : Performance) : Nat :=
  match performance.run? with
  | some run => 60 + 20 * run.plan.containers.length
  | none => 0

/-- Performs a command to its end, or until nothing can happen; `bound` limits the events. -/
def follow : Nat → Performance → Performance
  | 0, performance => performance
  | bound + 1, performance =>
      let settled := settle performance.settleBound performance
      if settled.execution.wasForced || settled.execution.result?.isSome then settled
      else
        match settled.next? with
        | some next => follow bound next
        | none => settled

/-- How many events from outside a performance may have. -/
def eventBound : Nat := 20000

/-- Performs a command whose engines are played as `cast` says. -/
def start (execution : Execution) (cast : Engine → List (String × String) → Cast)
    (notes : List Invocation) (cues : List SignalCue) : Performance :=
  let engine := match execution.preparation.result with
    | .ok launch => launch.engine
    | .error _ => .docker
  follow eventBound
    { execution, engine, cast := cast engine, processes := { notes }, cues }

end Performance

end Workload.Simulated
