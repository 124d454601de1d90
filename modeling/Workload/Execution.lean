import Workload.Preparation
import Workload.Report
import Workload.Run.Log

/-!
# Executing a command

A command is prepared first; the run starts only if the preparation has succeeded, and then decides
how the command ends.
-/

namespace Workload

/-- A command on its way: its preparation, and the session of the run once that has started. -/
structure Execution where
  preparation : Attempt RunError Launch
  session : Option Run.Session := none

namespace Execution

/-- Prepares a command, and starts the run if the preparation succeeds. -/
def start (surroundings : Surroundings) (resolver : Secret.Resolver) (request : Request) :
    Execution :=
  let preparation := Preparation.prepare surroundings resolver request
  { preparation
    session := preparation.result.toOption.map fun launch =>
      { run := Run.State.initial launch.plan } }

/-- One step of the run of a command. -/
def step (execution : Execution) (event : Run.Session.Event) : Option Execution := do
  let session ← execution.session
  let next ← session.step event
  return { execution with session := some next }

/-- How a run that is over ends its command. -/
def resultOfRun : Option RunError → Except RunError Unit
  | none => .ok ()
  | some fault => .error fault

/-- How a command ended, once it has. -/
def result? (execution : Execution) : Option (Except RunError Unit) :=
  match execution.preparation.result with
  | .error fault => some (.error fault)
  | .ok _ => (execution.session.bind fun session => session.run.result?).map resultOfRun

/-- The span of a command that runs a workload. -/
def span (identity : Run.Identity) : Log.Span where
  target := Preparation.commandTarget
  name := "execute_run_local"
  fields := [("app", .shown identity.application), ("env", .shown identity.environment),
    ("workload", .shown identity.workload)]

/-- Whether a further interrupt has ended the process. -/
def wasForced (execution : Execution) : Bool :=
  execution.session.any fun session => session.forcedExit = .done

/-- Work inside a span, which ends with the process at the latest. -/
def around (execution : Execution) (span : Log.Span) (records : List Log.Record) :
    List Log.Record :=
  if execution.wasForced then Log.Record.unfinished span records
  else Log.Record.task span records

/-- The records of the run of a command; none if it was not started. -/
def runRecords (identity : Run.Identity) (execution : Execution) (run : List Log.Record) :
    List Log.Record :=
  if execution.session.isSome then execution.around identity.span run else []

/-- The records of a command, with those made in its run. -/
def records (identity : Run.Identity) (execution : Execution) (run : List Log.Record) :
    List Log.Record :=
  let conclusion := match execution.result? with
    | some (.ok ()) =>
        [Log.Record.message .info Preparation.commandTarget "Local run finished"]
    | _ => []
  execution.around (span identity)
    (execution.preparation.records ++ execution.runRecords identity run ++ conclusion)

/-- The exit status of a command that is over. -/
def exitCode (execution : Execution) : Nat :=
  if execution.wasForced then ForcedExit.exitCode
  else
    match execution.result? with
    | some (.ok ()) => 0
    | _ => Report.failureCode

/-- The report of the error that ended a command; nothing if there is none. -/
def errorReport (execution : Execution) : String :=
  if execution.wasForced then ""
  else
    match execution.result? with
    | some (.error fault) => Report.ofError fault
    | _ => ""

end Execution

end Workload
