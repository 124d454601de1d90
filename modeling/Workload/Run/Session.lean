import Workload.Run.Machine

/-!
# A run and the signals of the operator

A session is a run together with its forced exit. A signal reaches only those who listen when it
arrives: the watcher from its first step until it ends, and the forced exit from the moment it sees
that shutdown has begun. Once the forced exit has acted, the process is over.
-/

namespace Workload.Run

/-- A run, its forced exit, and the signals that were heard and not acted upon. -/
structure Session where
  run : State
  /-- The watcher listens for signals. -/
  watching : Bool := false
  /-- The watcher has heard a signal. -/
  watcherHeard : Bool := false
  forcedExit : ForcedExit := .waiting
  /-- The forced exit has heard a signal. -/
  forcedHeard : Bool := false

namespace Session

/-- What can happen next in a session. -/
inductive Event where
  | run (event : Run.Event)
  /-- The watcher begins to listen. -/
  | watch
  /-- A signal arrives. -/
  | signal
  /-- The forced exit sees that shutdown has begun, and listens. -/
  | arm
  /-- The forced exit ends the process. -/
  | force
  /-- The run is over and the forced exit is ended. -/
  | abort
deriving Repr

/-- The phase published last. -/
def phase (session : Session) : Phase :=
  session.run.phases.getLast?.getD .idle

/-- One step of a session; `none` if the event cannot happen in the state. -/
def step (session : Session) (event : Event) : Option Session :=
  if session.forcedExit = .done then none
  else
    match event with
    | .run .interrupt =>
        if session.watcherHeard then
          (Run.step session.run .interrupt).map fun run => { session with run }
        else none
    | .run event => (Run.step session.run event).map fun run => { session with run }
    | .watch =>
        if session.run.watcher = .listening && !session.watching then
          some { session with watching := true }
        else none
    | .signal =>
        some { session with
          watcherHeard := session.watcherHeard ||
            (session.watching && session.run.watcher = .listening)
          forcedHeard := session.forcedHeard || session.forcedExit = .listening }
    | .arm =>
        if session.forcedExit = .waiting && session.phase.isShutdown then
          some { session with forcedExit := .listening }
        else none
    | .force =>
        if session.forcedExit = .listening && session.forcedHeard then
          some { session with forcedExit := .done }
        else none
    | .abort =>
        if session.run.result?.isSome && session.forcedExit != .aborted then
          some { session with forcedExit := .aborted }
        else none

end Session

end Workload.Run
