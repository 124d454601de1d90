import Workload.Simulated.Rehearsal

/-!
# Rehearsals on a clock

The clock fixes one interleaving of a rehearsal. Answers of the host take a fixed time, and
containers end after the delay of their behaviour. At every instant all that can happen without
waiting happens first; then the clock moves to the next instant at which something is due.
-/

namespace Workload.Simulated

/-- How long the answers of the host take, in milliseconds. -/
structure Latency where
  isRunning : Nat := 1
  stop : Nat := 5
  remove : Nat := 2
  /-- From the cancellation of a container's run to its return. -/
  kill : Nat := 3
  /-- Containers for which checking, stopping and removing all take the same time. -/
  perContainer : List (String × Nat) := []
deriving Repr, DecidableEq

/-- An event that is due at an instant. -/
structure Due where
  time : Nat
  event : Rehearsal.Event

/-- A call of the host and the time at which it was made. -/
structure TimedCall where
  time : Nat
  verb : Run.Verb
  container : String
deriving Repr, DecidableEq

/-- What a clock needs to know beside the state of the rehearsal. -/
structure Clock where
  host : Host
  script : Script := {}
  latency : Latency := {}
  pollInterval : Nat := 1000

/-- A rehearsal at an instant, with the events to come in the order in which they are due. -/
structure Clock.State where
  rehearsal : Rehearsal
  now : Nat := 0
  due : List Due := []
  calls : List TimedCall := []

namespace Clock

/-- The time that an answer about a container takes. -/
def delay (clock : Clock) (usual : Latency → Nat) (container : String) : Nat :=
  (Table.find? container clock.latency.perContainer).getD (usual clock.latency)

/-- Puts an event after all that are due no later. -/
def schedule (item : Due) : List Due → List Due
  | [] => [item]
  | other :: rest =>
      if other.time ≤ item.time then other :: schedule item rest else item :: other :: rest

/-- The containers of a run, the pause container first. -/
def targets (run : Run.State) : List Run.Target :=
  .pause :: (List.range run.launched.length).map .application

/-- The application containers of a run. -/
def applications (run : Run.State) : List Run.Target :=
  (List.range run.launched.length).map .application

/-- The events that take no time, in the order in which the clock tries them. -/
def immediate (run : Run.State) : List Rehearsal.Event :=
  let own : List Run.Event :=
    [Run.Event.cancel, .begin, .launch] ++ (targets run).map .notice ++
    [Run.Event.noticeAllEnded, .noticeCancellation, .stopPolling, .poll, .drained, .close] ++
    (applications run).map .stop ++ (applications run).map .remove ++
    [Run.Event.stop .pause, .remove .pause, .finish]
  own.map .own ++ (targets run).map .call ++ [.own .retire]

/-- What an event makes due later. -/
def consequences (clock : Clock) (before after : Rehearsal) (now : Nat) :
    Rehearsal.Event → List Due
  | .own .poll =>
      [⟨now + clock.delay Latency.isRunning after.run.plan.identity.pauseName, .pollAnswers⟩]
  | .pollAnswers =>
      match after.run.stage with
      | .waiting => [⟨now + clock.pollInterval, .own .pollAgain⟩]
      | _ => []
  | .own (.stop target) =>
      match after.run.cleaner? target with
      | some cleaner => [⟨now + clock.delay Latency.stop cleaner.container, .stopAnswers target⟩]
      | none => []
  | .own (.remove target) =>
      match after.run.cleaner? target with
      | some cleaner =>
          [⟨now + clock.delay Latency.remove cleaner.container, .removeAnswers target⟩]
      | none => []
  | .call target =>
      match after.run.call? target with
      | some .running =>
          if after.run.cancelled.isSome then [⟨now + clock.latency.kill, .killed target⟩]
          else
            match (clock.host.behaviour (before.run.containerOf target)).ending with
            | some (delay, _) => [⟨now + delay, .ends target⟩]
            | none => []
      | _ => []
  | _ => []

/-- Whether an event is the end of a container by itself. -/
def isEnd : Rehearsal.Event → Bool
  | .ends _ => true
  | _ => false

/-- What a cancellation makes due: every container that runs is killed instead of ending. -/
def cancelled (clock : Clock) (before after : Rehearsal) (now : Nat) (due : List Due) :
    List Due :=
  if before.run.cancelled.isNone && after.run.cancelled.isSome then
    let killed := (targets after.run).filter fun target =>
      match after.run.call? target with
      | some .running => true
      | _ => false
    (killed.map fun target => (⟨now + clock.latency.kill, .killed target⟩ : Due)).foldl
      (fun due item => schedule item due) (due.filter fun item => !isEnd item.event)
  else due

/-- The calls that a step added to the history of a run. -/
def newCalls (before after : Run.State) (now : Nat) : List TimedCall :=
  (after.history.drop before.history.length).filterMap fun
    | .called verb container => some ⟨now, verb, container⟩
    | _ => none

/-- Whether an event is an answer of the host to the run. -/
def isAnswer : Rehearsal.Event → Bool
  | .pollAnswers => true
  | .stopAnswers _ => true
  | .removeAnswers _ => true
  | _ => false

/-- Lets an event happen now, if it is possible, and gives the answers to it that take no time. -/
def occur? (clock : Clock) (state : State) (event : Rehearsal.Event) :
    Option (State × List Due) :=
  (state.rehearsal.step clock.host clock.script event).map fun after =>
    let (instant, later) := (clock.consequences state.rehearsal after state.now event).partition
      fun item => isAnswer item.event && item.time ≤ state.now
    let due := later.foldl (fun due item => schedule item due) state.due
    ({ state with
        rehearsal := after
        due := clock.cancelled state.rehearsal after state.now due
        calls := state.calls ++ newCalls state.rehearsal.run after.run state.now },
      instant)

/-- Lets an event happen now, if it is possible; an answer that takes no time comes with it. -/
def take? (clock : Clock) (state : State) (event : Rehearsal.Event) : Option State :=
  (clock.occur? state event).map fun (next, instant) =>
    instant.foldl
      (fun current item => ((clock.occur? current item.event).map Prod.fst).getD current) next

/-- Lets everything happen that takes no time; `bound` limits the number of events. -/
def settle (clock : Clock) : Nat → State → State
  | 0, state => state
  | bound + 1, state =>
      match (immediate state.rehearsal.run).findSome? (clock.take? state) with
      | some next => settle clock bound next
      | none => state

/-- A bound for the events that can happen at one instant. -/
def instantBound (state : State) : Nat :=
  40 + 8 * state.rehearsal.run.plan.containers.length

/-- Moves the clock until the run is finished or nothing is due; `bound` limits the instants. -/
def advance (clock : Clock) : Nat → State → State
  | 0, state => state
  | bound + 1, state =>
      let settled := clock.settle (instantBound state) state
      match settled.rehearsal.run.stage, settled.due with
      | .finished _, _ => settled
      | _, [] => settled
      | _, next :: rest =>
          let arrived := { settled with now := max settled.now next.time, due := rest }
          advance clock bound ((clock.take? arrived next.event).getD arrived)

/-- A bound for the events of a run that are due later. -/
def runBound (clock : Clock) (plan : Run.Plan) : Nat :=
  4 * (clock.host.startupPolls + clock.script.polls.length + plan.containers.length + 8)

/--
Rehearses a plan from the given state of the host. The operator interrupts after the given time, if
at all.
-/
def rehearse (clock : Clock) (plan : Run.Plan) (host : Host.State)
    (polls : List (Except EngineError Bool)) (interrupt : Option Nat) : State :=
  let due : List Due := interrupt.toList.map fun time => ⟨time, .own .interrupt⟩
  clock.advance (clock.runBound plan)
    { rehearsal := { run := .initial plan, host, polls }, due }

/-- Rehearses a plan several times in a row on the same host. -/
def rehearseAll (clock : Clock) (plan : Run.Plan) :
    Host.State → List (Except EngineError Bool) → List (Option Nat) → List State
  | _, _, [] => []
  | host, polls, interrupt :: rest =>
      let final := clock.rehearse plan host polls interrupt
      final :: rehearseAll clock plan final.rehearsal.host final.rehearsal.polls rest

end Clock

/-- Whether a call stands before another one in a timeline: by time, then by container. -/
def TimedCall.notAfter (first second : TimedCall) : Bool :=
  first.time < second.time || (first.time = second.time && first.container ≤ second.container)

/-- The calls of a rehearsal by time, then by container, and otherwise in order. -/
def Clock.State.timeline (state : Clock.State) : List TimedCall :=
  state.calls.mergeSort TimedCall.notAfter

end Workload.Simulated
