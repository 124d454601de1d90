import Workload.Proofs.Run.Reachability
import Workload.Proofs.Simulated.Host
import Workload.Simulated.Rehearsal

/-!
# What a rehearsal does with its host

In a rehearsal without a script every answer of the engine is that of the simulated host. `Act` has
one rule for each way in which the run and the host go on together. A rehearsal is a run whose
engine happens to answer in this way, so that whatever holds of all runs holds of it.
-/

namespace Workload.Simulated.Rehearsal

open Run (Target)

/-- What one event makes of a rehearsal that follows no script. -/
inductive Act (host : Host) (rehearsal : Rehearsal) : Event → Rehearsal → Prop where
  | own (event : Run.Event) (next : Run.State) (free : involvesHost event = false)
      (moved : Run.Transition rehearsal.run event next) :
      Act host rehearsal (.own event) { rehearsal with run := next }
  | create (target : Target) (specification : Container.Specification) (called : Run.State)
      (named : specification.container = rehearsal.run.containerOf target)
      (moved : Run.Transition rehearsal.run (.call target) called)
      (creates : host.neverCreates specification.container = false) :
      Act host rehearsal (.call target)
        { rehearsal with run := called, host := (rehearsal.host.begin host specification).1 }
  | refuse (target : Target) (specification : Container.Specification)
      (called returned : Run.State) (result : Except EngineError Unit)
      (named : specification.container = rehearsal.run.containerOf target)
      (moved : Run.Transition rehearsal.run (.call target) called)
      (onward : Run.Transition called (.callReturns target result) returned)
      (never : host.neverCreates specification.container = true) :
      Act host rehearsal (.call target)
        { rehearsal with run := returned, host := (rehearsal.host.begin host specification).1 }
  | ends (target : Target) (returned : Run.State) (result : Except EngineError Unit)
      (moved : Run.Transition rehearsal.run (.callReturns target result) returned) :
      Act host rehearsal (.ends target)
        { rehearsal with
          run := returned
          host := rehearsal.host.ends (rehearsal.run.containerOf target) }
  | killed (target : Target) (returned : Run.State) (result : Except EngineError Unit)
      (moved : Run.Transition rehearsal.run (.callReturns target result) returned) :
      Act host rehearsal (.killed target) { rehearsal with run := returned }
  | poll (name : String) (next : Run.State)
      (moved : Run.Transition rehearsal.run
        (.pollAnswers (.ok (rehearsal.host.isRunning host name).2)) next) :
      Act host rehearsal .pollAnswers
        { rehearsal with run := next, host := (rehearsal.host.isRunning host name).1 }
  | stopAnswers (target : Target) (cleaner : Run.Cleaner) (next : Run.State)
      (current : rehearsal.run.cleaner? target = some cleaner)
      (moved : Run.Transition rehearsal.run
        (.stopAnswers target (rehearsal.host.stop host cleaner.container).2) next) :
      Act host rehearsal (.stopAnswers target)
        { rehearsal with
          run := next
          host := (rehearsal.host.stop host cleaner.container).1 }
  | removeAnswers (target : Target) (cleaner : Run.Cleaner) (next : Run.State)
      (current : rehearsal.run.cleaner? target = some cleaner)
      (moved : Run.Transition rehearsal.run
        (.removeAnswers target (rehearsal.host.remove host cleaner.container).2) next) :
      Act host rehearsal (.removeAnswers target)
        { rehearsal with
          run := next
          host := (rehearsal.host.remove host cleaner.container).1 }

variable {host : Host} {rehearsal next : Rehearsal} {event : Event}

theorem container_of_specification? {run : Run.State} {target : Target}
    {specification : Container.Specification}
    (found : run.specification? target = some specification) :
    specification.container = run.containerOf target := by
  cases target with
  | pause =>
      cases found
      rfl
  | application index =>
      simp only [Run.State.specification?, Option.map_eq_some_iff] at found
      rcases found with ⟨launched, at_index, rfl⟩
      simp [Run.State.containerOf, at_index]

/-- Without a script, every step of a rehearsal follows one of the rules. -/
theorem act_of_step (unscripted : rehearsal.polls = [])
    (taken : step host {} rehearsal event = some next) : Act host rehearsal event next := by
  cases event with
  | own event =>
      simp only [step] at taken
      split at taken
      · cases taken
      · rename_i free
        simp only [Option.map_eq_some_iff] at taken
        rcases taken with ⟨run, moved, rfl⟩
        exact .own event run (by simpa using free) (Run.transition_of_step moved)
  | call target =>
      simp only [step, bind, Option.bind_eq_some_iff, Option.map_eq_some_iff] at taken
      rcases taken with ⟨specification, found, called, ⟨run, moved, rfl⟩, taken⟩
      have named := container_of_specification? found
      have fault := Host.State.begin_fault_isSome host rehearsal.host specification
      rcases begun : rehearsal.host.begin host specification with ⟨after, cause⟩
      have same : after = (rehearsal.host.begin host specification).1 := by rw [begun]
      rw [begun] at fault taken
      cases cause with
      | none =>
          cases taken
          rw [same]
          exact .create target specification run named (Run.transition_of_step moved) fault.symm
      | some cause =>
          rw [Option.map_eq_some_iff] at taken
          rcases taken with ⟨returned, onward, rfl⟩
          rw [same]
          exact .refuse target specification run returned _ named (Run.transition_of_step moved)
            (Run.transition_of_step onward) fault.symm
  | ends target =>
      simp only [step, bind, Option.bind_eq_some_iff, Option.map_eq_some_iff] at taken
      rcases taken with ⟨specification, found, ending, _, _, ⟨run, moved, rfl⟩, taken⟩
      cases taken
      rw [container_of_specification? found]
      exact .ends target run _ (Run.transition_of_step moved)
  | killed target =>
      simp only [step, bind, Option.bind_eq_some_iff] at taken
      rcases taken with ⟨specification, found, taken⟩
      split at taken
      · rw [Option.map_eq_some_iff] at taken
        rcases taken with ⟨run, moved, rfl⟩
        exact .killed target run _ (Run.transition_of_step moved)
      · cases taken
  | pollAnswers =>
      simp only [step] at taken
      split at taken
      · rename_i scripted
        simp [unscripted] at scripted
      · rw [Option.map_eq_some_iff] at taken
        rcases taken with ⟨run, moved, rfl⟩
        exact .poll _ run (Run.transition_of_step moved)
  | stopAnswers target =>
      simp only [step, bind, Option.bind_eq_some_iff, Option.map_eq_some_iff] at taken
      rcases taken with ⟨cleaner, current, run, moved, rfl⟩
      exact .stopAnswers target cleaner run current (Run.transition_of_step moved)
  | removeAnswers target =>
      simp only [step, bind, Option.bind_eq_some_iff, Option.map_eq_some_iff] at taken
      rcases taken with ⟨cleaner, current, run, moved, rfl⟩
      exact .removeAnswers target cleaner run current (Run.transition_of_step moved)

theorem Act.unscripted (act : Act host rehearsal event next) :
    next.polls = rehearsal.polls := by
  cases act <;> rfl

/-- An act is what one or two events make of the run. -/
theorem Act.exists_events (act : Act host rehearsal event next) :
    ∃ events, follow Run.step rehearsal.run events = some next.run := by
  have single : ∀ {event : Run.Event} {run : Run.State},
      Run.Transition rehearsal.run event run →
        ∃ events, follow Run.step rehearsal.run events = some run := by
    intro event run moved
    exact ⟨[event], by simp [follow, Run.step_of_transition moved]⟩
  cases act with
  | own event run free moved => exact single moved
  | create target specification called named moved creates => exact single moved
  | refuse target specification called returned result named moved onward never =>
      exact ⟨[.call target, .callReturns target result], by
        simp [follow, Run.step_of_transition moved, Run.step_of_transition onward]⟩
  | ends target returned result moved => exact single moved
  | killed target returned result moved => exact single moved
  | poll name run moved => exact single moved
  | stopAnswers target cleaner run current moved => exact single moved
  | removeAnswers target cleaner run current moved => exact single moved

/-- The events lead a rehearsal of the plan, on a host in the given state, to another one. -/
def Reaches (host : Host) (plan : Run.Plan) (start : Host.State) (events : List Event)
    (rehearsal : Rehearsal) : Prop :=
  follow (step host {}) { run := .initial plan, host := start } events = some rehearsal

namespace Reaches

variable {plan : Run.Plan} {start : Host.State} {events : List Event}

theorem unscripted_and_run (path : Reaches host plan start events rehearsal) :
    rehearsal.polls = [] ∧ ∃ runEvents, Run.Reaches plan runEvents rehearsal.run := by
  have beginning : Run.Reaches plan [] (.initial plan) := rfl
  apply follow_induction (fun _ rehearsal => rehearsal.polls = [] ∧
    ∃ runEvents, Run.Reaches plan runEvents rehearsal.run) ⟨rfl, [], beginning⟩ ?_ path
  rintro events rehearsal event next _ ⟨unscripted, runEvents, reached⟩ taken
  have act := act_of_step unscripted taken
  rcases act.exists_events with ⟨further, onward⟩
  exact ⟨act.unscripted.trans unscripted, runEvents ++ further, reached.append onward⟩

/-- A rehearsal is a run. -/
theorem exists_run (path : Reaches host plan start events rehearsal) :
    ∃ runEvents, Run.Reaches plan runEvents rehearsal.run :=
  path.unscripted_and_run.2

theorem invariant (Holds : Rehearsal → Prop)
    (initially : Holds { run := .initial plan, host := start })
    (kept : ∀ events rehearsal event next, Reaches host plan start events rehearsal →
      Holds rehearsal → Act host rehearsal event next → Holds next)
    (path : Reaches host plan start events rehearsal) : Holds rehearsal := by
  apply follow_induction (fun _ => Holds) initially ?_ path
  intro events rehearsal event next before holds taken
  have reached : Reaches host plan start events rehearsal := before
  exact kept events rehearsal event next reached holds
    (act_of_step reached.unscripted_and_run.1 taken)

end Reaches

end Workload.Simulated.Rehearsal
