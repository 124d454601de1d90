import Workload.Proofs.Run.Reporting
import Workload.Proofs.Run.Tally
import Workload.Proofs.Run.Termination

/-!
# A run that the operator interrupts

The watcher records an interrupt before it cancels the run, so that whoever sees the run cancelled
by the operator also sees why. An error that is judged afterwards is put down to the shutdown. What
was judged before remains the verdict, and failed cleanup steps are reported in any case.

An error of the supervised containers is judged when it is observed. An error of start-up is not:
the run first waits for the call of the pause container to return. An interrupt that comes meanwhile
takes the error with it, although it was observed before.
-/

namespace Workload.Run

/-- The run has given up its start-up and has not looked for an interrupt since. -/
def Stage.isAbandoning : Stage → Bool
  | .abandoning _ => true
  | _ => false

/-- The cleanup step whose failure is seen. -/
def Occurrence.failedStep? : Occurrence → Option CleanupFailure
  | .answered .stop container (some cause) => some { container, step := .stop, cause }
  | .answered .remove container (some cause) => some { container, step := .remove, cause }
  | _ => none

theorem Cleaner.Advance.failures_eq {target : Target} {cleaner after : Cleaner} {event : Event}
    {occurrences : List Occurrence} (advance : cleaner.Advance target event after occurrences) :
    after.failures = cleaner.failures ++ occurrences.filterMap Occurrence.failedStep? := by
  cases advance with
  | stop due => simp [Occurrence.failedStep?]
  | stopAnswers result stopping =>
      cases result <;> simp [Occurrence.failedStep?, stepFailures, faultOf]
  | remove due => simp [Occurrence.failedStep?]
  | removeAnswers result removing =>
      cases result <;> simp [Occurrence.failedStep?, stepFailures, faultOf]

theorem reading_failures : Reading Cleaner.failures Occurrence.failedStep? where
  fresh _ := rfl
  other occurrence apart := by
    cases occurrence with
    | answered verb container fault =>
        cases verb <;> cases fault <;> simp_all [Occurrence.isOfCleanup, Occurrence.failedStep?]
    | _ => rfl
  advance := Cleaner.Advance.failures_eq

namespace State

/-- The cleanup steps that were seen to fail. -/
def failedSteps (state : State) : List CleanupFailure :=
  state.history.filterMap Occurrence.failedStep?

/-- Each failed cleanup step that was seen is kept, and no other. -/
def FailuresKept (state : State) : Prop :=
  state.cleanupFailures.Perm state.failedSteps

/-- The result of a finished run is its verdict together with the failed cleanup steps. -/
def Summed (state : State) : Prop :=
  ∀ result, state.result? = some result →
    result = RunError.combine state.verdict state.cleanupFailures

variable {state next : State} {event : Event}

theorem cleanupFailures_eq (state : State) :
    state.cleanupFailures = state.cleanups.flatMap Cleaner.failures := by
  simp [cleanupFailures, cleanups]

theorem Summed.step (summed : state.Summed) (judging : state.Judging)
    (transition : Transition state event next) : next.Summed := by
  intro outcome finished
  cases transition with
  | finish run cleaning cleaned =>
      simp only [result?, record, Option.some.injEq] at finished
      have single := judging.single
      simp only [verdict, cleaning] at single
      rw [← finished]
      simp only [verdict, record, RunError.runPart_combine single]
      rfl
  | clean target result cleaner after event occurrences cleaning current allowed advance =>
      simp [result?, record, withCleaner, cleaning] at finished
  | confirmed polling => simp [result?, record, confirm, proceed] at finished
  | launch application rest launching => simp [result?, record, proceed] at finished
  | interrupt listening => exact summed outcome finished
  | cancel interrupting => exact summed outcome finished
  | retire listening cancelled => exact summed outcome finished
  | call target due => exact summed outcome finished
  | callReturns target result running => exact summed outcome finished
  | _ => simp_all [result?, record, abandon, fail, withCall, cancelBy]

/-- The error of start-up is no verdict as long as the call of the pause container is waited for. -/
theorem verdict_eq_ite (judging : state.Judging) :
    state.verdict = if state.stage.isAbandoning then none else state.provisional := by
  cases stage : state.stage with
  | abandoning fault =>
      have unjudged := judging.unjudged (by simp [stage, Stage.isBeforeLaunch])
      simp [verdict, stage, unjudged, Stage.isAbandoning]
  | _ => simp [provisional, stage, Stage.isAbandoning]

/-- Whatever is judged after an interrupt is put down to the shutdown. -/
theorem verdict_of_interrupted (judging : state.Judging) (interrupted : state.interrupted = true)
    (transition : Transition state event next) : next.verdict = state.verdict := by
  have unreported : (state.judged? event).bind state.reported = none := by
    rw [Option.bind_eq_none_iff]
    intro fault _
    exact reported_of_interrupted interrupted fault
  rw [verdict_of_transition judging transition, unreported, Option.or_none]

end State

namespace Reaches

variable {plan : Plan} {events before after : List Event} {state middle : State}

theorem failuresKept (path : Reaches plan events state) : state.FailuresKept := by
  rw [State.FailuresKept, State.cleanupFailures_eq]
  exact path.tallies reading_failures

theorem summed (path : Reaches plan events state) : state.Summed := by
  apply path.invariant State.Summed
  · intro result finished
    simp [State.initial, State.result?] at finished
  · intro events state event next before summed transition
    exact summed.step before.judging transition

/-- There is only one interrupt. -/
theorem uninterrupted_of_interrupt {next : State} (path : Reaches plan events state)
    (transition : Transition state .interrupt next) : .interrupt ∉ events := by
  rw [← path.interrupted_iff]
  cases transition with
  | clean target result cleaner after event occurrences cleaning current allowed advance =>
      cases advance
  | interrupt listening => simp [path.watched.listening listening]

/-- After an interrupt, the verdict stays what it is. -/
theorem verdict_kept (path : Reaches plan before middle)
    (rest : follow step middle after = some state) (interrupted : middle.interrupted = true) :
    state.verdict = middle.verdict := by
  have kept : state.interrupted = true ∧ state.verdict = middle.verdict := by
    apply follow_induction (fun _ state => state.interrupted = true ∧
      state.verdict = middle.verdict) ⟨interrupted, rfl⟩ ?_ rest
    rintro events state event next reached ⟨interrupted, same⟩ taken
    have transition := transition_of_step taken
    refine ⟨(State.interrupted_of_transition transition).mpr (Or.inl interrupted), ?_⟩
    rw [State.verdict_of_interrupted (path.append reached).judging interrupted transition, same]
  exact kept.2

/-- The interrupt leaves the verdict that the run has come to by then. -/
theorem verdict_of_interrupt (path : Reaches plan (before ++ .interrupt :: after) state)
    (reached : Reaches plan before middle) :
    state.verdict = if middle.stage.isAbandoning then none
      else (failures plan before).findSome? RunError.genuine? := by
  rcases path.split with ⟨same, next, again, transition, onward, rest⟩
  cases again.unique reached
  have interrupted : next.interrupted = true :=
    (State.interrupted_of_transition transition).mpr (Or.inr rfl)
  have unchanged : next.verdict = middle.verdict := by
    rw [State.verdict_of_transition reached.judging transition]
    exact Option.or_none
  rw [onward.verdict_kept rest interrupted, unchanged, State.verdict_eq_ite reached.judging,
    reached.provisional_eq (reached.uninterrupted_of_interrupt transition)]

/-- The result of a run that is over is its verdict together with the failed cleanup steps. -/
theorem exists_cleanup (path : Reaches plan events state) {result : Option RunError}
    (finished : state.result? = some result) :
    (state.failedSteps = [] → result = state.verdict) ∧
      (state.failedSteps ≠ [] → ∃ cleanup, cleanup.Perm state.failedSteps ∧
        result = some (.aggregate state.verdict cleanup)) := by
  have kept := path.failuresKept
  have sum := path.summed result finished
  constructor
  · intro none
    have unfailed : state.cleanupFailures = [] := by
      rw [State.FailuresKept, none] at kept
      exact kept.eq_nil
    simpa [RunError.combine, unfailed] using sum
  · intro some
    have failed : state.cleanupFailures ≠ [] := by
      intro none
      rw [State.FailuresKept, none] at kept
      exact some kept.nil_eq.symm
    refine ⟨_, (List.mergeSort_perm _ CleanupFailure.notAfter).trans kept, ?_⟩
    simpa [RunError.combine, failed] using sum

end Reaches

/--
A run that is interrupted before it has observed a failure, or only failures that stem from a
shutdown, ends without an error of its own, whatever happens afterwards; only failed cleanup steps
are reported. The first other failure that was observed before the interrupt is reported, unless the
run has given up its start-up for it and, while it waits for the call of the pause container, has
not looked for an interrupt: then it ends without an error of its own as well. Without an interrupt,
the first such failure is reported in any case. Whoever sees a run cancelled that has not cancelled
itself can also see the interrupt.
-/
theorem interrupted_run_clean_unless_failed {plan : Plan} {events : List Event} {state : State}
    (path : Reaches plan events state) :
    (∀ before after middle result, events = before ++ .interrupt :: after →
      Reaches plan before middle → state.result? = some result →
        ((∀ fault ∈ failures plan before, fault.isCancellation) ∨ middle.stage.isAbandoning →
          (state.failedSteps = [] → result = none) ∧
          (state.failedSteps ≠ [] → ∃ cleanup, cleanup.Perm state.failedSteps ∧
            result = some (.aggregate none cleanup))) ∧
        ∀ fault, (failures plan before).findSome? RunError.genuine? = some fault →
          middle.stage.isAbandoning = false → RunError.runPart result = some fault) ∧
    (.interrupt ∉ events → ∀ result, state.result? = some result →
      RunError.runPart result = (failures plan events).findSome? RunError.genuine?) ∧
    (state.cancelled.isSome → state.cancelled ≠ some .run → state.interrupted = true) ∧
    ∃ rest final result, follow step state rest = some final ∧ final.result? = some result := by
  refine ⟨?_, ?_, ?_, State.exists_completion path.started⟩
  · rintro before after middle result rfl reached finished
    have verdict := path.verdict_of_interrupt reached
    constructor
    · intro excused
      have none : state.verdict = none := by
        rw [verdict, ite_eq_left_iff]
        intro judging
        rw [List.findSome?_eq_none_iff]
        intro fault observed
        simp [RunError.genuine?, (excused.resolve_right judging) fault observed]
      have outcome := path.exists_cleanup finished
      rw [none] at outcome
      exact outcome
    · intro fault first judging
      rw [State.runPart_eq_verdict finished, verdict, judging]
      exact first
  · intro uninterrupted result finished
    rw [State.runPart_eq_verdict finished, ← State.provisional_of_finished finished]
    exact path.provisional_eq uninterrupted
  · intro cancelled other
    apply path.watched.operator
    rcases Option.isSome_iff_exists.mp cancelled with ⟨canceller, first⟩
    cases canceller with
    | operator => exact first
    | run => exact absurd first other

/-- What happens until the engine runs the container. -/
def runningEvents : List Event :=
  [.begin, .call .pause, .poll, .pollAnswers (.ok true), .launch, .call (.application 0)]

/-- The container fails, and the run notices that. -/
def failureEvents : List Event :=
  [.callReturns (.application 0) (.error (.exitStatus (some 1))), .notice (.application 0)]

/-- The pause container is cleaned up, which ends the run. -/
def pauseCleanupEvents : List Event :=
  [.stop .pause, .stopAnswers .pause (.ok ()), .remove .pause, .removeAnswers .pause (.ok ()),
    .finish]

/-- The shutdown of a run whose only container has ended. -/
def shutdownEvents : List Event :=
  [.noticeAllEnded, .cancel, .callReturns .pause (.error .cancelled), .drained, .close,
    .stop (.application 0), .stopAnswers (.application 0) (.ok ()), .remove (.application 0),
    .removeAnswers (.application 0) (.ok ())] ++ pauseCleanupEvents

theorem failure_reported_unless_interrupted_first :
    (∃ state, Reaches .single (runningEvents ++ .interrupt :: (failureEvents ++ shutdownEvents))
        state ∧ state.result? = some none) ∧
    ∃ state result, Reaches .single ((runningEvents ++ failureEvents) ++
        .interrupt :: shutdownEvents) state ∧ state.result? = some result ∧
      RunError.runPart result = some (.container "web" (.exitStatus (some 1))) := by
  constructor
  · have path : Reaches .single
        (runningEvents ++ .interrupt :: (failureEvents ++ shutdownEvents)) _ := rfl
    have outcome := (interrupted_run_clean_unless_failed path).1 _ _ _ _ rfl rfl rfl
    have clean := outcome.1 (Or.inl fun _ observed => nomatch observed)
    exact ⟨_, path, congrArg some (clean.1 rfl)⟩
  · have path : Reaches .single
        ((runningEvents ++ failureEvents) ++ .interrupt :: shutdownEvents) _ := rfl
    have outcome := (interrupted_run_clean_unless_failed path).1 _ _ _ _ rfl rfl rfl
    exact ⟨_, _, path, rfl, outcome.2 _ rfl rfl⟩

/-- What happens until a run has given up its start-up because the engine is not there. -/
def abandonedEvents : List Event :=
  [.begin, .call .pause, .poll, .pollAnswers (.error .notInstalled)]

/-- The pause container is killed and cleaned up. -/
def drainingEvents : List Event :=
  [.callReturns .pause (.error .cancelled), .drained, .cancel, .close] ++ pauseCleanupEvents

/-- A failure that was observed before the interrupt is lost. -/
theorem abandoned_failure_unreported :
    ∃ state, Reaches .single (abandonedEvents ++ .interrupt :: drainingEvents) state ∧
      failures .single abandonedEvents = [.pause .notInstalled] ∧
      RunError.isCancellation (.pause .notInstalled) = false ∧
      state.failedSteps = [] ∧ state.result? = some none :=
  ⟨_, rfl, rfl, rfl, rfl, rfl⟩

end Workload.Run
