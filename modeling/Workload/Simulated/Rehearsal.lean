import Workload.Simulated.Host

/-!
# Runs on a simulated host

A rehearsal is a run whose engine is a simulated host: the answers of the engine are no longer free
but follow from the state of the host. A script may replace single answers.
-/

namespace Workload.Simulated

/-- Answers that replace those of the host. -/
structure Script where
  /-- Answers to the first checks whether the pause container runs. -/
  polls : List (Except EngineError Bool) := []
  /-- What the run of a container returns if the container ends by itself. -/
  onEnd : List (String × EngineError) := []
  /-- What the run of a container returns if it is cancelled. -/
  onCancel : List (String × EngineError) := []

/-- A run and the host it runs on. -/
structure Rehearsal where
  run : Run.State
  host : Host.State := {}
  /-- The scripted answers to checks that are left. -/
  polls : List (Except EngineError Bool) := []

namespace Rehearsal

/-- What can happen next in a rehearsal. -/
inductive Event where
  /-- Something that does not involve the host. -/
  | own (event : Run.Event)
  /-- The task of a container calls the engine. -/
  | call (target : Run.Target)
  /-- A container ends by itself. -/
  | ends (target : Run.Target)
  /-- The run of a container notices that it is cancelled. -/
  | killed (target : Run.Target)
  | pollAnswers
  | stopAnswers (target : Run.Target)
  | removeAnswers (target : Run.Target)

/-- Whether an event of a run is an act of the engine. -/
def involvesHost : Run.Event → Bool
  | .call _ => true
  | .callReturns _ _ => true
  | .pollAnswers _ => true
  | .stopAnswers _ _ => true
  | .removeAnswers _ _ => true
  | _ => false

/-- What a run that ended by itself returns. -/
def endResult (script : Script) (name : String) (result : Except EngineError Unit) :
    Except EngineError Unit :=
  match Table.find? name script.onEnd with
  | some fault => .error fault
  | none => result

/-- What a run that was cancelled returns. -/
def cancelResult (script : Script) (name : String) : Except EngineError Unit :=
  .error ((Table.find? name script.onCancel).getD .cancelled)

/-- One step of a rehearsal; `none` if the event cannot happen in the state. -/
def step (host : Host) (script : Script) (rehearsal : Rehearsal) (event : Event) :
    Option Rehearsal :=
  let onward (rehearsal : Rehearsal) (event : Run.Event) : Option Rehearsal :=
    (Run.step rehearsal.run event).map fun run => { rehearsal with run }
  match event with
  | .own event => if involvesHost event then none else onward rehearsal event
  | .call target => do
      let specification ← rehearsal.run.specification? target
      let called ← onward rehearsal (.call target)
      match rehearsal.host.begin host specification with
      | (after, none) => some { called with host := after }
      | (after, some fault) =>
          onward { called with host := after }
            (.callReturns target (endResult script specification.container (.error fault)))
  | .ends target => do
      let specification ← rehearsal.run.specification? target
      let (_, result) ← (host.behaviour specification.container).ending
      let returned ← onward rehearsal
        (.callReturns target (endResult script specification.container result))
      some { returned with host := rehearsal.host.ends specification.container }
  | .killed target => do
      let specification ← rehearsal.run.specification? target
      if rehearsal.run.cancelled.isSome then
        onward rehearsal
          (.callReturns target (cancelResult script specification.container))
      else none
  | .pollAnswers =>
      match rehearsal.polls with
      | answer :: rest => onward { rehearsal with polls := rest } (.pollAnswers answer)
      | [] =>
          let (after, answer) :=
            rehearsal.host.isRunning host rehearsal.run.plan.identity.pauseName
          onward { rehearsal with host := after } (.pollAnswers (.ok answer))
  | .stopAnswers target => do
      let cleaner ← rehearsal.run.cleaner? target
      let (after, result) := rehearsal.host.stop host cleaner.container
      onward { rehearsal with host := after } (.stopAnswers target result)
  | .removeAnswers target => do
      let cleaner ← rehearsal.run.cleaner? target
      let (after, result) := rehearsal.host.remove host cleaner.container
      onward { rehearsal with host := after } (.removeAnswers target result)

end Rehearsal

end Workload.Simulated
