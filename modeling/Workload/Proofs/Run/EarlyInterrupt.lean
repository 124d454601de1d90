import Workload.Proofs.Run.Announcement
import Workload.Proofs.Run.Launching

/-!
# An interrupt before the applications are started

A run that waits for the next poll gives up when it was cancelled. It looks nowhere else for that
before it supervises the applications, and so an engine that still confirms the pause container
after an interrupt has all applications started. This is the only way to start one.
-/

namespace Workload.Run

theorem Transition.cancelled_isSome_of_cancel {state next : State}
    (transition : Transition state .cancel next) : next.cancelled.isSome := by
  cases transition with
  | clean target result cleaner after event occurrences cleaning current allowed advance =>
      cases advance
  | cancel interrupting => simp [State.cancelBy]

namespace Reaches

variable {plan : Plan} {before after : List Event} {middle state : State}

theorem cancelled_isSome (path : Reaches plan (before ++ .cancel :: after) state) :
    state.cancelled.isSome := by
  rcases path.split with ⟨_, next, _, transition, _, onward⟩
  exact follow_invariant (fun _ _ _ taken => (transition_of_step taken).cancelled_isSome)
    transition.cancelled_isSome_of_cancel onward

/-- A run that has not come to its applications was not told that the pause container runs. -/
theorem unconfirmed_of_isBeforeLaunch (reached : Reaches plan before middle)
    (early : middle.stage.isBeforeLaunch) : .pollAnswers (.ok true) ∉ before := by
  intro confirmed
  simp [(reached.launches confirmed).begun] at early

theorem uncalled_of_unconfirmed (reached : Reaches plan before middle)
    (unconfirmed : .pollAnswers (.ok true) ∉ before) (index : Nat) :
    .call (.application index) ∉ before := by
  rw [← reached.isCalled_iff]
  rintro ⟨call, current, _⟩
  simp [State.call?, reached.launched_of_unconfirmed unconfirmed] at current

end Reaches

/--
A run that is cancelled by an interrupt before it comes to its applications starts them all if the
engine confirms the pause container afterwards, and otherwise starts none and deals with the pause
container alone. Whenever it waits for the next poll, it can give up instead.
-/
theorem interrupted_start_needs_confirmation {plan : Plan} {before after : List Event}
    {middle state : State} (reached : Reaches plan before middle)
    (early : middle.stage.isBeforeLaunch)
    (path : Reaches plan (before ++ .cancel :: after) state) :
    (.pollAnswers (.ok true) ∉ after →
      (∀ index, .call (.application index) ∉ before ++ .cancel :: after) ∧
      (∀ name, .launched name ∉ state.history) ∧
      ∀ verb name, .called verb name ∈ state.history → name = plan.identity.pauseName) ∧
    (∀ result, state.result? = some result → ∀ index,
      (.call (.application index) ∈ before ++ .cancel :: after ↔
        index < plan.applications.length ∧ .pollAnswers (.ok true) ∈ after)) ∧
    (state.stage = .waiting → (step state .stopPolling).isSome) := by
  have unconfirmed := reached.unconfirmed_of_isBeforeLaunch early
  have later : .pollAnswers (.ok true) ∈ before ++ .cancel :: after ↔
      .pollAnswers (.ok true) ∈ after := by
    simp [unconfirmed]
  refine ⟨?_, ?_, ?_⟩
  · intro none
    rw [← later] at none
    have unlaunched := path.launched_of_unconfirmed none
    refine ⟨path.uncalled_of_unconfirmed none, ?_, ?_⟩
    · intro name launched
      have known := (path.listed name).mp launched
      simp [State.containers, unlaunched] at known
    · rw [← path.plan_eq]
      exact (path.onlyPause unlaunched).1
  · intro result finished index
    rw [path.call_application_iff finished, later]
  · intro waiting
    rw [step_of_transition (.stopPolling waiting path.cancelled_isSome)]
    rfl

/-- What happens until the operator interrupts a run that waits for the next poll. -/
def waitingEvents : List Event :=
  [.begin, .call .pause, .poll, .pollAnswers (.ok false), .interrupt]

/-- The run gives up, and the pause container is killed. -/
def givingUpEvents : List Event :=
  [.stopPolling, .callReturns .pause (.error .cancelled), .drained, .close, .stop .pause,
    .stopAnswers .pause (.ok ()), .remove .pause, .removeAnswers .pause (.ok ()), .finish]

theorem interrupted_wait_starts_nothing :
    ∃ state, Reaches .single (waitingEvents ++ .cancel :: givingUpEvents) state ∧
      state.result? = some none ∧
      .call (.application 0) ∉ waitingEvents ++ .cancel :: givingUpEvents ∧
      ∀ verb name, .called verb name ∈ state.history → name = "pause-shop-test-api" := by
  have reached : Reaches .single waitingEvents _ := rfl
  have path : Reaches .single (waitingEvents ++ .cancel :: givingUpEvents) _ := rfl
  have unconfirmed : .pollAnswers (.ok true) ∉ givingUpEvents := by simp [givingUpEvents]
  rcases (interrupted_start_needs_confirmation reached rfl path).1 unconfirmed with
    ⟨uncalled, _, only⟩
  exact ⟨_, path, rfl, uncalled 0, only⟩

/-- What happens until the operator interrupts a run whose poll the engine has not answered. -/
def askedEvents : List Event :=
  [.begin, .call .pause, .poll, .interrupt]

/-- The engine answers that the pause container runs, and the container is run and killed. -/
def confirmedLateEvents : List Event :=
  [.pollAnswers (.ok true), .launch, .noticeCancellation, .call (.application 0),
    .callReturns (.application 0) (.error .cancelled), .notice (.application 0), .noticeAllEnded,
    .callReturns .pause (.error .cancelled), .drained, .close, .stop (.application 0),
    .stopAnswers (.application 0) (.ok ()), .remove (.application 0),
    .removeAnswers (.application 0) (.ok ()), .stop .pause, .stopAnswers .pause (.ok ()),
    .remove .pause, .removeAnswers .pause (.ok ()), .finish]

/-- The answer to a poll that was asked before an interrupt has an application started after it. -/
theorem interrupted_poll_starts_application :
    ∃ middle state, Reaches .single askedEvents middle ∧ middle.stage = .polling ∧
      Reaches .single (askedEvents ++ .cancel :: confirmedLateEvents) state ∧
      state.result? = some none ∧ .call (.application 0) ∈ confirmedLateEvents :=
  ⟨_, _, rfl, rfl, rfl, rfl, by simp [confirmedLateEvents]⟩

end Workload.Run
