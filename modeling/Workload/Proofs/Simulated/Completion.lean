import Workload.Proofs.Run.Attempted
import Workload.Proofs.Run.Termination
import Workload.Proofs.Simulated.Rehearsal

/-!
# Every rehearsal can end

A simulated host may never confirm the pause container, and its containers may run until they are
cancelled. Yet a rehearsal can be interrupted at any time. Once its run is cancelled, it can stop to
poll, and every call can be killed; the answers that the host gives are then enough to go on, and
each of them brings the run closer to its end.
-/

namespace Workload

namespace Run

/-- The run asks, or is about to ask, whether the pause container runs. -/
def Stage.isAsking : Stage → Bool
  | .ready => true
  | .pollDue => true
  | .polling => true
  | _ => false

/-- A bound for the events of a run that are still to come if it does not poll again. -/
def State.effort (state : State) : Nat :=
  state.work + if state.stage.isAsking then 3 else 0

variable {state next : State} {event : Event}

theorem Transition.isAsking_of_isAsking (transition : Transition state event next)
    (patient : event ≠ .pollAgain) (asking : next.stage.isAsking) : state.stage.isAsking := by
  cases transition with
  | confirmed polling =>
      rw [polling]
      rfl
  | inconclusive answer unclear polling =>
      rw [polling]
      rfl
  | launch application rest launching =>
      cases rest <;>
        simp [State.proceed, State.record, Stage.startingWith, Stage.isAsking] at asking
  | pollAgain waiting => exact absurd rfl patient
  | clean target result cleaner after event occurrences cleaning current allowed advance =>
      exact asking
  | _ =>
      simp_all [Stage.isAsking, State.record, State.abandon, State.fail, State.withCall,
        State.cancelBy]

/-- Every event but to poll again brings the end of the run closer. -/
theorem Transition.effort_lt (transition : Transition state event next) (started : state.Started)
    (patient : event ≠ .pollAgain) : next.effort < state.effort := by
  rw [State.effort, State.effort]
  cases inconclusive : event.isInconclusive with
  | false =>
      have less := transition.work_lt started.idle inconclusive
      by_cases asking : next.stage.isAsking
      · rw [if_pos asking, if_pos (transition.isAsking_of_isAsking patient asking)]
        omega
      · rw [if_neg asking]
        omega
  | true =>
      -- This is the answer that the weight of the stage allows for.
      have asked : state.stage.isAsking ∧ next.stage.isAsking = false := by
        cases transition with
        | inconclusive answer unclear polling => simp [polling, Stage.isAsking]
        | clean target result cleaner after event occurrences cleaning current allowed advance =>
            cases advance <;> simp [Event.isInconclusive] at inconclusive
        | _ => simp_all [Event.isInconclusive, Run.isInconclusive]
      have bound := transition.work_le started
      rw [if_pos inconclusive] at bound
      rw [if_pos asked.1, asked.2, if_neg Bool.false_ne_true]
      omega

/-- The watcher only ends when the run is cancelled. -/
theorem Reaches.cancelled_of_ended {plan : Plan} {events : List Event}
    (path : Reaches plan events state) : state.watcher = .ended → state.cancelled.isSome := by
  apply path.invariant fun state => state.watcher = .ended → state.cancelled.isSome
  · simp [State.initial]
  · intro events state event next _ holds transition
    cases transition with
    | confirmed polling => exact holds
    | launch application rest launching => exact holds
    | clean target result cleaner after event occurrences cleaning current allowed advance =>
        exact holds
    | _ => simp_all [State.record, State.abandon, State.fail, State.withCall, State.cancelBy]

namespace Transition

/-! ### The answers of the engine are free -/

theorem exists_callReturns {target : Target} {result : Except EngineError Unit}
    (transition : Transition state (.callReturns target result) next)
    (other : Except EngineError Unit) :
    ∃ after, Transition state (.callReturns target other) after :=
  ⟨_, .callReturns target other transition.running_of_callReturns⟩

theorem exists_pollAnswers {answer : Except EngineError Bool}
    (transition : Transition state (.pollAnswers answer) next) (running : Bool) :
    ∃ after, Transition state (.pollAnswers (.ok running)) after := by
  have polling : state.stage = .polling := by
    cases transition with
    | clean target result cleaner after event occurrences cleaning current allowed advance =>
        cases advance
    | _ => assumption
  cases running with
  | true => exact ⟨_, .confirmed polling⟩
  | false => exact ⟨_, .inconclusive _ rfl polling⟩

theorem exists_stopAnswers {target : Target} {result : Except EngineError Unit}
    (transition : Transition state (.stopAnswers target result) next) :
    ∃ cleaner, state.cleaner? target = some cleaner ∧
      ∀ other, ∃ after, Transition state (.stopAnswers target other) after := by
  cases transition with
  | clean target verdict cleaner after event occurrences cleaning current allowed advance =>
      cases advance with
      | stopAnswers result stopping =>
          exact ⟨cleaner, current, fun other => ⟨_, .clean target verdict cleaner _ _ _ cleaning
            current allowed (.stopAnswers other stopping)⟩⟩

theorem exists_removeAnswers {target : Target} {result : Except EngineError Unit}
    (transition : Transition state (.removeAnswers target result) next) :
    ∃ cleaner, state.cleaner? target = some cleaner ∧
      ∀ other, ∃ after, Transition state (.removeAnswers target other) after := by
  cases transition with
  | clean target verdict cleaner after event occurrences cleaning current allowed advance =>
      cases advance with
      | removeAnswers result removing =>
          exact ⟨cleaner, current, fun other => ⟨_, .clean target verdict cleaner _ _ _ cleaning
            current allowed (.removeAnswers other removing)⟩⟩

end Transition

end Run

namespace Simulated.Rehearsal

variable {host : Host} {rehearsal : Rehearsal} {run : Run.State} {target : Run.Target}

theorem exists_specification {call : Run.Call} (current : run.call? target = some call) :
    ∃ specification, run.specification? target = some specification := by
  cases target with
  | pause => exact ⟨_, rfl⟩
  | application index =>
      simp only [Run.State.call?, Option.map_eq_some_iff] at current
      rcases current with ⟨launched, found, _⟩
      exact ⟨launched.application.specification, by
        simp [Run.State.specification?, found]⟩

/-- What does not involve the host happens in a rehearsal as in any run. -/
theorem exists_step_own (started : rehearsal.run.Started) {event : Run.Event}
    (free : involvesHost event = false) (patient : event ≠ .pollAgain)
    (moved : Run.Transition rehearsal.run event run) :
    ∃ event next, step host {} rehearsal event = some next ∧
      next.run.effort < rehearsal.run.effort := by
  refine ⟨.own event, { rehearsal with run }, ?_, moved.effort_lt started patient⟩
  simp [step, free, Run.step_of_transition moved]

/-- A call that is due can be made, and fails at once if its container is never created. -/
theorem exists_step_call (started : rehearsal.run.Started)
    (due : rehearsal.run.call? target = some .due) :
    ∃ next, step host {} rehearsal (.call target) = some next ∧
      next.run.effort < rehearsal.run.effort := by
  rcases exists_specification due with ⟨specification, found⟩
  have made : ∃ called, Run.Transition rehearsal.run (.call target) called ∧
      called.call? target = some .running :=
    ⟨_, .call target due, (Run.State.call?_withCall due).trans (if_pos rfl)⟩
  rcases made with ⟨called, moved, running⟩
  have less := moved.effort_lt started (by simp)
  rcases begun : rehearsal.host.begin host specification with ⟨after, cause⟩
  cases cause with
  | none =>
      refine ⟨{ rehearsal with run := called, host := after }, ?_, less⟩
      simp [step, found, Run.step_of_transition moved, begun]
  | some cause =>
      have returned : ∃ returned, Run.Transition called
          (.callReturns target (endResult {} specification.container (.error cause))) returned :=
        ⟨_, .callReturns target _ running⟩
      rcases returned with ⟨returned, onward⟩
      refine ⟨{ rehearsal with run := returned, host := after }, ?_,
        Nat.lt_trans (onward.effort_lt (started.step moved) (by simp)) less⟩
      simp [step, found, Run.step_of_transition moved, begun, Run.step_of_transition onward]

/-- Whatever a cancelled run can do, its rehearsal can come closer to its end. -/
theorem exists_step_of_transition (unscripted : rehearsal.polls = [])
    (started : rehearsal.run.Started) (cancelled : rehearsal.run.cancelled.isSome)
    {event : Run.Event} (moved : Run.Transition rehearsal.run event run) :
    ∃ event next, step host {} rehearsal event = some next ∧
      next.run.effort < rehearsal.run.effort := by
  cases event with
  | call target => exact ⟨_, exists_step_call started moved.due_of_call⟩
  | callReturns target result =>
      rcases exists_specification moved.running_of_callReturns with ⟨specification, found⟩
      rcases moved.exists_callReturns (cancelResult {} specification.container) with
        ⟨returned, moved⟩
      refine ⟨.killed target, { rehearsal with run := returned }, ?_,
        moved.effort_lt started (by simp)⟩
      simp [step, found, cancelled, Run.step_of_transition moved]
  | pollAnswers answer =>
      rcases hostAnswers : rehearsal.host.isRunning host rehearsal.run.plan.identity.pauseName with
        ⟨after, running⟩
      rcases moved.exists_pollAnswers running with ⟨answered, moved⟩
      refine ⟨.pollAnswers, { rehearsal with run := answered, host := after }, ?_,
        moved.effort_lt started (by simp)⟩
      simp [step, unscripted, hostAnswers, Run.step_of_transition moved]
  | pollAgain =>
      have waiting : rehearsal.run.stage = .waiting := by
        cases moved with
        | clean target result cleaner after event occurrences cleaning current allowed advance =>
            cases advance
        | pollAgain waiting => exact waiting
      exact exists_step_own started rfl (by simp) (.stopPolling waiting cancelled)
  | stopAnswers target result =>
      rcases moved.exists_stopAnswers with ⟨cleaner, current, free⟩
      rcases hostAnswers : rehearsal.host.stop host cleaner.container with ⟨after, answer⟩
      rcases free answer with ⟨answered, moved⟩
      refine ⟨.stopAnswers target, { rehearsal with run := answered, host := after }, ?_,
        moved.effort_lt started (by simp)⟩
      simp [step, current, hostAnswers, Run.step_of_transition moved]
  | removeAnswers target result =>
      rcases moved.exists_removeAnswers with ⟨cleaner, current, free⟩
      rcases hostAnswers : rehearsal.host.remove host cleaner.container with ⟨after, answer⟩
      rcases free answer with ⟨answered, moved⟩
      refine ⟨.removeAnswers target, { rehearsal with run := answered, host := after }, ?_,
        moved.effort_lt started (by simp)⟩
      simp [step, current, hostAnswers, Run.step_of_transition moved]
  | _ => exact exists_step_own started rfl (by simp) moved

namespace Reaches

variable {plan : Run.Plan} {start : Host.State} {events : List Event}

theorem exists_step (path : Reaches host plan start events rehearsal)
    (unfinished : rehearsal.run.result? = none) :
    ∃ event next, step host {} rehearsal event = some next ∧
      next.run.effort < rehearsal.run.effort := by
  rcases path.unscripted_and_run with ⟨unscripted, runEvents, run⟩
  cases cancelled : rehearsal.run.cancelled.isSome with
  | true =>
      rcases Run.State.exists_transition unfinished with ⟨event, next, _, moved⟩
      exact exists_step_of_transition unscripted run.started cancelled moved
  | false =>
      -- The operator can interrupt it then.
      have active : ∃ event next, involvesHost event = false ∧ event ≠ .pollAgain ∧
          Run.Transition rehearsal.run event next := by
        cases watcher : rehearsal.run.watcher with
        | listening => exact ⟨_, _, rfl, by simp, .interrupt watcher⟩
        | interrupting => exact ⟨_, _, rfl, by simp, .cancel watcher⟩
        | ended =>
            rw [run.cancelled_of_ended watcher] at cancelled
            cases cancelled
      rcases active with ⟨event, next, free, patient, moved⟩
      exact exists_step_own run.started free patient moved

/-- Whatever has happened, and whatever its containers do, a rehearsal can still come to its end. -/
theorem exists_completion {events : List Event} {rehearsal : Rehearsal}
    (path : Reaches host plan start events rehearsal) :
    ∃ further final result, Reaches host plan start (events ++ further) final ∧
      final.run.result? = some result := by
  cases ended : rehearsal.run.result? with
  | some result =>
      refine ⟨[], rehearsal, result, ?_, ended⟩
      rw [List.append_nil]
      exact path
  | none =>
      rcases path.exists_step ended with ⟨event, next, taken, closer⟩
      have reached : Reaches host plan start (events ++ [event]) next :=
        follow_concat_eq_some.mpr ⟨rehearsal, path, taken⟩
      rcases exists_completion reached with ⟨further, final, result, complete, finished⟩
      refine ⟨event :: further, final, result, ?_, finished⟩
      rw [List.append_cons]
      exact complete
termination_by rehearsal.run.effort

end Reaches

end Simulated.Rehearsal

end Workload
