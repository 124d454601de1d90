/-!
# Cancelling a run

A watcher turns the first interrupt of the operator into the cancellation of the run, and records
beforehand that the operator asked for it. A forced exit waits until shutdown has begun and only
then listens for a further interrupt, upon which its action runs once.
-/

namespace Workload

/-- The task that waits for the first interrupt. -/
inductive Watcher where
  | listening
  /-- The interrupt is recorded and the run is not cancelled yet. -/
  | interrupting
  | ended
deriving Repr, DecidableEq

/-- The task that ends the process on a further interrupt. -/
inductive ForcedExit where
  /-- Shutdown has not begun. -/
  | waiting
  | listening
  /-- The action has run. -/
  | done
  | aborted
deriving Repr, DecidableEq

namespace ForcedExit

/-- Whether the task is over. -/
def isOver (task : ForcedExit) : Bool :=
  task = .done || task = .aborted

/-- Ends the task from outside, unless it is over. -/
def abort (task : ForcedExit) : ForcedExit :=
  if task.isOver then task else .aborted

/-- The exit status of a process that was ended by a further interrupt. -/
def exitCode : Nat := 130

/-- What the operator reads when cleanup is abandoned. -/
def notice : String := "Interrupted again; exiting without finishing cleanup"

end ForcedExit

/-- What the operator reads when a run is interrupted. -/
def Watcher.notice : String := "Stopping containers..."

/-- A signal that is sent at most once and kept until it is awaited. -/
inductive Signal where
  /-- The first interrupt, for the watcher. -/
  | interrupt
  /-- Shutdown has begun, for the forced exit. -/
  | arm
  /-- A further interrupt, for the forced exit. -/
  | second
deriving Repr, DecidableEq

/-- A watcher and a forced exit around the cancellation of one run. -/
structure Shutdown where
  /-- The forced exit is armed by the cancellation of the run and not by a signal. -/
  armedByCancellation : Bool := false
  cancelled : Bool := false
  interrupted : Bool := false
  watcher : Watcher := .listening
  forcedExit : ForcedExit := .waiting
  sent : List Signal := []
  /-- The signals that were heard. -/
  heard : List Signal := []
  /-- How often the action of the forced exit has run. -/
  actions : Nat := 0
deriving Repr, DecidableEq

namespace Shutdown

/-- What is done to a shutdown from outside. -/
inductive Command where
  | send (signal : Signal)
  | cancel
  /-- The watcher is ended. -/
  | finishWatcher
  | abortForcedExit
  | pass
deriving Repr, DecidableEq

/-- Whether somebody still awaits a signal. -/
def listens (shutdown : Shutdown) : Signal → Bool
  | .interrupt => shutdown.watcher = .listening
  | .arm => shutdown.forcedExit = .waiting
  | .second => !shutdown.forcedExit.isOver

/-- Sends a signal, and says whether somebody still awaited it unless it was sent before. -/
def send (shutdown : Shutdown) (signal : Signal) : Shutdown × Option Bool :=
  if signal ∈ shutdown.sent then (shutdown, none)
  else
    let sent := { shutdown with sent := signal :: shutdown.sent }
    if shutdown.listens signal then
      ({ sent with heard := signal :: sent.heard }, some true)
    else (sent, some false)

/-- Does what a command says. -/
def command (shutdown : Shutdown) : Command → Shutdown × Option Bool
  | .send signal => shutdown.send signal
  | .cancel => ({ shutdown with cancelled := true }, none)
  | .finishWatcher => ({ shutdown with watcher := .ended }, none)
  | .abortForcedExit => ({ shutdown with forcedExit := shutdown.forcedExit.abort }, none)
  | .pass => (shutdown, none)

/-- The watcher does what it can: it records an interrupt, cancels the run, and ends. -/
def settleWatcher (shutdown : Shutdown) : Shutdown :=
  if shutdown.watcher = .listening then
    if shutdown.cancelled then { shutdown with watcher := .ended }
    else if .interrupt ∈ shutdown.heard then
      { shutdown with interrupted := true, cancelled := true, watcher := .ended }
    else shutdown
  else shutdown

/-- The forced exit begins to listen once it is armed. -/
def settleArming (shutdown : Shutdown) : Shutdown :=
  let armed := if shutdown.armedByCancellation then shutdown.cancelled
    else decide (.arm ∈ shutdown.heard)
  if shutdown.forcedExit = .waiting && armed then { shutdown with forcedExit := .listening }
  else shutdown

/-- The forced exit runs its action upon a further interrupt. -/
def settleAction (shutdown : Shutdown) : Shutdown :=
  if shutdown.forcedExit = .listening && decide (.second ∈ shutdown.heard) then
    { shutdown with forcedExit := .done, actions := shutdown.actions + 1 }
  else shutdown

/-- A command, and everything that follows from it. -/
def perform (shutdown : Shutdown) (request : Command) : Shutdown × Option Bool :=
  let (requested, heard) := shutdown.command request
  (requested.settleWatcher.settleArming.settleAction, heard)

end Shutdown

end Workload
