import Workload.Proofs.Run.Cleanup

/-!
# Starting the applications

The engine confirms the pause container before any application is started. Seen from the end of
start-up, the last poll is either still open or was answered; only the answer that the container
runs leads on to the applications. A run without that answer deals with the pause container alone.
-/

namespace Workload.Run

/-- The event belongs to a poll. -/
def Event.isPolling : Event → Bool
  | .poll => true
  | .pollAnswers _ => true
  | _ => false

/-- The engine was asked whether the pause container runs, and has not answered yet. -/
def Asked (events : List Event) : Prop :=
  ∃ before after, events = before ++ .poll :: after ∧ ∀ event ∈ after, event.isPolling = false

/-- The engine was asked whether the pause container runs, and then answered that it does. -/
def Confirmed (events : List Event) : Prop :=
  ∃ asked after, Asked asked ∧ events = asked ++ .pollAnswers (.ok true) :: after

theorem Confirmed.append {events : List Event} (confirmed : Confirmed events)
    (further : List Event) : Confirmed (events ++ further) := by
  rcases confirmed with ⟨asked, after, answered, rfl⟩
  exact ⟨asked, after ++ further, answered, by simp⟩

namespace State

/-- Applications may be started, or were. -/
def IsPastStartup (state : State) : Prop :=
  state.stage.upcoming?.isSome ∨ state.launched ≠ []

/-- Only the pause container was dealt with. -/
def OnlyPause (state : State) : Prop :=
  ∀ verb name, .called verb name ∈ state.history → name = state.plan.identity.pauseName

theorem isPastStartup_withCall {state : State} {target : Target} {call : Call} :
    (state.withCall target call).IsPastStartup ↔ state.IsPastStartup := by
  rw [IsPastStartup, Ne, withCall_launched_eq_nil]
  rfl

end State

namespace Transition

variable {state next : State} {event : Event}

theorem asks (transition : Transition state event next) (polling : next.stage = .polling) :
    event = .poll ∨ state.stage = .polling ∧ event.isPolling = false := by
  cases transition with
  | confirmed before =>
      simp [State.confirm, State.proceed, State.record] at polling
  | launch application rest launching =>
      simp [State.proceed, State.record] at polling
  | _ =>
      simp_all [State.record, State.abandon, State.fail, State.withCall, State.withCleaner,
        State.cancelBy, Event.isPolling]

theorem starts (transition : Transition state event next) (past : next.IsPastStartup) :
    state.stage = .polling ∧ event = .pollAnswers (.ok true) ∨ state.IsPastStartup := by
  cases transition with
  | confirmed polling => exact Or.inl ⟨polling, rfl⟩
  | launch application rest launching =>
      right
      left
      simp [launching, Stage.upcoming?]
  | call target due => exact Or.inr (State.isPastStartup_withCall.mp past)
  | callReturns target result running => exact Or.inr (State.isPastStartup_withCall.mp past)
  | clean target result cleaner after event occurrences cleaning current allowed advance =>
      exact Or.inr past
  | interrupt listening => exact Or.inr past
  | cancel interrupting => exact Or.inr past
  | retire listening cancelled => exact Or.inr past
  | _ =>
      simp_all [State.IsPastStartup, State.record, State.abandon, State.fail, State.withCall,
        State.cancelBy, Stage.upcoming?]

theorem launched_eq_nil (transition : Transition state event next) (none : next.launched = []) :
    state.launched = [] := by
  cases transition with
  | call target due => exact (State.withCall_launched_eq_nil ..).mp none
  | callReturns target result running => exact (State.withCall_launched_eq_nil ..).mp none
  | _ =>
      simp_all [State.record, State.abandon, State.fail, State.confirm, State.proceed,
        State.cancelBy, State.withCall, State.withCleaner]

end Transition

namespace State

variable {state next : State} {event : Event}

theorem Cleaned.cleaners_eq_nil (cleaned : state.Cleaned) (none : state.launched = []) :
    state.cleaners = [] := by
  cases begun : state.stage.isCleanup with
  | false => exact (cleaned.untouched begun).1
  | true => simpa [none] using cleaned.named begun

namespace OnlyPause

theorem of_eq (only : state.OnlyPause) (plan : next.plan = state.plan)
    (seen : ∀ verb name, .called verb name ∈ next.history → .called verb name ∈ state.history) :
    next.OnlyPause := by
  intro verb name called
  rw [plan]
  exact only verb name (seen verb name called)

theorem clean (only : state.OnlyPause) (cleaned : state.Cleaned) (none : state.launched = [])
    {target : Target} {cleaner after : Cleaner} {occurrences : List Occurrence}
    (current : state.cleaner? target = some cleaner)
    (advance : cleaner.Advance target event after occurrences) :
    ((state.withCleaner target after).record occurrences).OnlyPause := by
  have named : cleaner.container = state.plan.identity.pauseName := by
    cases target with
    | pause =>
        simp only [cleaner?, Option.some.injEq] at current
        rw [← current]
        exact cleaned.pauseNamed
    | application index => simp [cleaner?, cleaned.cleaners_eq_nil none] at current
  intro verb name called
  rcases List.mem_append.mp called with before | now
  · exact only verb name before
  · have same : name = cleaner.container := by cases advance <;> simp_all
    exact same.trans named

theorem step (only : state.OnlyPause) (cleaned : state.Cleaned) (none : state.launched = [])
    (transition : Transition state event next) : next.OnlyPause := by
  cases transition with
  | call target due =>
      have pause : target = .pause := by
        cases target with
        | pause => rfl
        | application index => simp [call?, none] at due
      subst target
      intro verb name called
      rcases List.mem_append.mp called with before | now
      · exact only verb name before
      · simp only [containerOf, List.mem_singleton, Occurrence.called.injEq] at now
        exact now.2
  | callReturns target result running =>
      exact only.of_eq rfl (by simp [record, withCall])
  | poll due =>
      intro verb name called
      rcases List.mem_append.mp called with before | now
      · exact only verb name before
      · simp only [List.mem_singleton, Occurrence.called.injEq] at now
        exact now.2
  | confirmed polling =>
      exact only.of_eq rfl (by simp [record, confirm, proceed])
  | launch application rest launching =>
      exact only.of_eq rfl (by simp [record, proceed])
  | clean target result cleaner after event occurrences cleaning current allowed advance =>
      exact only.clean cleaned none current advance
  | _ =>
      exact only.of_eq rfl (by simp [record, abandon, fail, withCall, cancelBy])

end OnlyPause

end State

namespace Reaches

variable {plan : Plan} {events : List Event} {state : State}

theorem asked (path : Reaches plan events state) : state.stage = .polling → Asked events := by
  apply path.induction fun events state => state.stage = .polling → Asked events
  · simp [State.initial]
  · intro events state event next before holds transition polling
    rcases transition.asks polling with rfl | ⟨earlier, other⟩
    · exact ⟨events, [], rfl, by simp⟩
    · rcases holds earlier with ⟨first, second, rfl, unanswered⟩
      refine ⟨first, second ++ [event], by simp, ?_⟩
      simpa [or_imp, forall_and] using ⟨unanswered, other⟩

theorem confirmed (path : Reaches plan events state) : state.IsPastStartup → Confirmed events := by
  apply path.induction fun events state => state.IsPastStartup → Confirmed events
  · simp [State.initial, State.IsPastStartup, Stage.upcoming?]
  · intro events state event next before holds transition past
    rcases transition.starts past with ⟨polling, rfl⟩ | earlier
    · exact ⟨events, [], before.asked polling, rfl⟩
    · exact (holds earlier).append [event]

/-- As long as no application was started, only the pause container is dealt with. -/
theorem onlyPause (path : Reaches plan events state) :
    state.launched = [] → state.OnlyPause ∧ state.CleanupsTold := by
  apply path.induction fun _ state => state.launched = [] → state.OnlyPause ∧ state.CleanupsTold
  · intro _
    exact ⟨by simp [State.OnlyPause, State.initial], State.cleanupsTold_initial plan⟩
  · intro events state event next before holds transition none
    have earlier := transition.launched_eq_nil none
    rcases holds earlier with ⟨only, told⟩
    have single : (state.cleanups.map Cleaner.container).Nodup := by
      simp [State.cleanups, before.cleaned.cleaners_eq_nil earlier]
    exact ⟨only.step before.cleaned earlier transition, told.step before.cleaned single transition⟩

theorem confirmed_of_call {before after : List Event} {index : Nat}
    (path : Reaches plan (before ++ .call (.application index) :: after) state) :
    Confirmed before := by
  rcases path.split with ⟨middle, next, earlier, transition, _⟩
  apply earlier.confirmed
  right
  cases transition with
  | call target due =>
      intro none
      simp [State.call?, none] at due
  | clean target result cleaner after event occurrences cleaning current allowed advance =>
      cases advance

theorem exists_asked {before after : List Event}
    (path : Reaches plan (before ++ .poll :: after) state) :
    ∃ asked, Reaches plan (before ++ [.poll]) asked ∧
      [.called .isRunning plan.identity.pauseName] <:+ asked.history := by
  rcases path.split with ⟨middle, next, earlier, transition, reached, _⟩
  refine ⟨next, reached, ?_⟩
  rw [← earlier.plan_eq]
  cases transition with
  | poll due => exact List.suffix_append _ _
  | clean target result cleaner after event occurrences cleaning current allowed advance =>
      cases advance

theorem not_isPastStartup (path : Reaches plan events state)
    (unconfirmed : .pollAnswers (.ok true) ∉ events) : ¬ state.IsPastStartup := by
  intro past
  rcases path.confirmed past with ⟨asked, after, _, rfl⟩
  simp at unconfirmed

end Reaches

/--
The run call of an application comes after a poll of the pause container, with no other poll
between, that was answered by its being up. Without such an answer no application is started, and
the pause container alone is stopped and removed.
-/
theorem applications_follow_confirmation {plan : Plan} {events : List Event} {state : State}
    (path : Reaches plan events state) :
    (∀ before index after, events = before ++ .call (.application index) :: after →
      ∃ first second third asked,
        before = first ++ .poll :: second ++ .pollAnswers (.ok true) :: third ∧
          (∀ event ∈ second, event.isPolling = false) ∧ Reaches plan (first ++ [.poll]) asked ∧
            [.called .isRunning plan.identity.pauseName] <:+ asked.history) ∧
    (.pollAnswers (.ok true) ∉ events →
      (∀ index, .call (.application index) ∉ events) ∧
      (∀ name, .launched name ∉ state.history) ∧
      (∀ verb name, .called verb name ∈ state.history → name = plan.identity.pauseName) ∧
      ∀ result, state.result? = some result →
        ∃ stopFault removeFault, state.trail [.stop, .remove] plan.identity.pauseName =
          [.called .stop plan.identity.pauseName,
            .answered .stop plan.identity.pauseName stopFault,
            .called .remove plan.identity.pauseName,
            .answered .remove plan.identity.pauseName removeFault]) := by
  constructor
  · rintro before index after rfl
    rcases path.confirmed_of_call with ⟨_, third, ⟨first, second, rfl, unanswered⟩, rfl⟩
    simp only [List.append_assoc, List.cons_append] at path
    rcases path.exists_asked with ⟨asked, reached, seen⟩
    exact ⟨first, second, third, asked, by simp, unanswered, reached, seen⟩
  · intro unconfirmed
    have startup := path.not_isPastStartup unconfirmed
    have none : state.launched = [] := by
      by_contra started
      exact startup (Or.inr started)
    rcases path.onlyPause none with ⟨only, told⟩
    rw [← path.plan_eq]
    refine ⟨?_, ?_, only, fun result finished => told.pause_of_finished path.cleaned finished⟩
    · intro index called
      rcases List.append_of_mem called with ⟨before, after, rfl⟩
      rcases path.confirmed_of_call with ⟨asked, further, _, rfl⟩
      simp at unconfirmed
    · intro name launched
      have known := (path.listed name).mp launched
      simp [State.containers, none] at known

/-- A run that gives up because the engine cannot be asked. -/
def unansweredEvents : List Event :=
  [.begin, .call .pause, .poll, .pollAnswers (.error .notInstalled),
    .callReturns .pause (.error .cancelled), .drained, .close, .stop .pause,
    .stopAnswers .pause (.ok ()), .remove .pause, .removeAnswers .pause (.ok ()), .finish]

theorem unanswered_run_cleans_pause_only :
    ∃ state, Reaches .single unansweredEvents state ∧
      (∀ verb name, .called verb name ∈ state.history → name = "pause-shop-test-api") ∧
      .call (.application 0) ∉ unansweredEvents := by
  have path : Reaches .single unansweredEvents _ := rfl
  have unconfirmed : .pollAnswers (.ok true) ∉ unansweredEvents := by
    simp [unansweredEvents]
  rcases (applications_follow_confirmation path).2 unconfirmed with ⟨uncalled, _, only, _⟩
  exact ⟨_, path, only, uncalled 0⟩

end Workload.Run
