import Workload.Proofs.Run.Phases
import Workload.Proofs.Run.Reporting

/-!
# How a failed run is announced

A failure among the supervised containers cancels the run, and from then on the run can notice its
cancellation and announce it. It can notice the end of all applications as well once there is none
left, and it takes either of the two. If the second overtakes the first, the failed run is announced
as completed; nothing else leads to that.
-/

namespace Workload.Run

/-- The failure that a run observes with an event while it supervises its containers. -/
def State.supervisedFailure? (state : State) (event : Event) : Option RunError :=
  match state.stage with
  | .supervising => state.failure? event
  | _ => none

/-- The failures that a run observes while it supervises its containers, in order. -/
def supervisedFailures (plan : Plan) (events : List Event) : List RunError :=
  observations step State.supervisedFailure? (.initial plan) events

/-- The run noticed the end of all applications when it could have noticed its cancellation. -/
def Overtaken (plan : Plan) (events : List Event) : Prop :=
  ∃ before after state, events = before ++ .noticeAllEnded :: after ∧
    Reaches plan before state ∧ (step state .noticeCancellation).isSome

theorem Overtaken.append {plan : Plan} {events : List Event} (overtaken : Overtaken plan events)
    (further : List Event) : Overtaken plan (events ++ further) := by
  rcases overtaken with ⟨before, after, state, rfl, path, possible⟩
  exact ⟨before, after ++ further, state, by simp, path, possible⟩

theorem isSome_step_noticeCancellation {state : State} :
    (step state .noticeCancellation).isSome ↔
      state.stage = .supervising ∧ state.cancelled.isSome ∧ state.cancelling = false := by
  constructor
  · intro possible
    rcases Option.isSome_iff_exists.mp possible with ⟨next, taken⟩
    cases transition_of_step taken with
    | clean target result cleaner after event occurrences cleaning current allowed advance =>
        cases advance
    | noticeCancellation supervising cancelled first => exact ⟨supervising, cancelled, first⟩
  · rintro ⟨supervising, cancelled, first⟩
    rw [step_of_transition (.noticeCancellation supervising cancelled first)]
    rfl

namespace Transition

variable {state next : State} {event : Event}

theorem cancelled_isSome (transition : Transition state event next)
    (cancelled : state.cancelled.isSome) : next.cancelled.isSome := by
  cases transition <;>
    simp_all [State.record, State.cancelBy, State.confirm, State.proceed, State.abandon,
      State.fail, State.withCall, State.withCleaner]

theorem mem_phases (transition : Transition state event next) {phase : Phase}
    (published : phase ∈ state.phases) : phase ∈ next.phases :=
  (List.IsPrefix.filterMap _ transition.history_grows).subset published

/-- A failure of a supervised container cancels the run, which goes on supervising. -/
theorem of_supervisedFailure (transition : Transition state event next)
    (failed : state.supervisedFailure? event ≠ none) :
    state.stage = .supervising ∧ next.stage = .supervising ∧ next.cancelled.isSome := by
  have supervising : state.stage = .supervising := by
    by_contra other
    apply failed
    cases stage : state.stage <;> simp_all [State.supervisedFailure?]
  refine ⟨supervising, ?_⟩
  cases transition with
  | pauseEnds result returned _ =>
      exact ⟨supervising, by simp [State.fail, State.record, State.cancelBy]⟩
  | applicationFails index application fault returned _ =>
      exact ⟨supervising, by simp [State.fail, State.record, State.cancelBy]⟩
  | _ => simp_all [State.supervisedFailure?, State.failure?, Stage.isStartup]

theorem completes (transition : Transition state event next)
    (published : .completed ∈ next.phases) :
    .completed ∈ state.phases ∨
      event = .noticeAllEnded ∧ state.stage = .supervising ∧ state.cancelling = false := by
  change _ ∈ phasesIn next.history at published
  change _ ∈ phasesIn state.history ∨ _
  cases transition with
  | noticeAllEnded supervising ended =>
      by_cases cancelling : state.cancelling
      · left
        simpa [State.record, State.cancelBy, cancelling] using published
      · exact Or.inr ⟨rfl, supervising, by simpa using cancelling⟩
  | clean target result cleaner after event occurrences cleaning current allowed advance =>
      left
      cases advance <;>
        simpa [State.record, State.withCleaner, phasesIn_map_announced] using published
  | launch application rest launching =>
      left
      cases rest <;> simpa [State.proceed, State.record] using published
  | confirmed polling =>
      left
      cases applications : state.plan.applications <;>
        simpa [State.confirm, State.proceed, State.record, applications] using published
  | _ =>
      left
      simpa [State.record, State.abandon, State.fail, State.withCall, State.cancelBy]
        using published

end Transition

namespace Reaches

variable {plan : Plan} {events : List Event} {state : State}

theorem supervisedFailures_concat {event : Event} {next : State} (path : Reaches plan events state)
    (transition : Transition state event next) :
    supervisedFailures plan (events ++ [event]) =
      supervisedFailures plan events ++ (state.supervisedFailure? event).toList :=
  observations_concat path (step_of_transition transition)

theorem phases_of_supervising (path : Reaches plan events state)
    (supervising : state.stage = .supervising) :
    state.phases = startPhases ++ .running :: if state.cancelling then [.cancelling] else [] := by
  have phased := path.phased
  rw [State.Phased, supervising] at phased
  exact phased

theorem cancelled_of_failed (path : Reaches plan events state) :
    supervisedFailures plan events ≠ [] →
      state.cancelled.isSome ∧ .running ∈ state.phases := by
  apply path.induction fun events state => supervisedFailures plan events ≠ [] →
    state.cancelled.isSome ∧ .running ∈ state.phases
  · simp [supervisedFailures, observations]
  · intro events state event next before holds transition failed
    rw [before.supervisedFailures_concat transition] at failed
    -- The run has failed before, and stays cancelled, or fails now, and is cancelled by that.
    by_cases now : state.supervisedFailure? event = none
    · rw [now, Option.toList_none, List.append_nil] at failed
      rcases holds failed with ⟨cancelled, running⟩
      exact ⟨transition.cancelled_isSome cancelled, transition.mem_phases running⟩
    · rcases transition.of_supervisedFailure now with ⟨supervising, _, cancelled⟩
      refine ⟨cancelled, transition.mem_phases ?_⟩
      simp [before.phases_of_supervising supervising]

theorem overtaken_of_completed (path : Reaches plan events state) :
    supervisedFailures plan events ≠ [] → .completed ∈ state.phases → Overtaken plan events := by
  apply path.induction fun events state =>
    supervisedFailures plan events ≠ [] → .completed ∈ state.phases → Overtaken plan events
  · simp [supervisedFailures, observations]
  · intro events state event next before holds transition failed published
    rw [before.supervisedFailures_concat transition] at failed
    by_cases now : state.supervisedFailure? event = none
    · rw [now, Option.toList_none, List.append_nil] at failed
      rcases transition.completes published with earlier | ⟨rfl, supervising, first⟩
      · exact (holds failed earlier).append [event]
      · refine ⟨events, [], state, rfl, before, ?_⟩
        have cancelled := (before.cancelled_of_failed failed).1
        exact isSome_step_noticeCancellation.mpr ⟨supervising, cancelled, first⟩
    · -- A run that still supervises its containers has not announced how it ended.
      exfalso
      have onward : Reaches plan (events ++ [event]) next :=
        follow_concat_eq_some.mpr ⟨state, before, step_of_transition transition⟩
      have phases := onward.phases_of_supervising (transition.of_supervisedFailure now).2.1
      rw [phases] at published
      cases cancelling : next.cancelling <;> simp [startPhases, cancelling] at published

theorem completed_of_overtaken (path : Reaches plan events state)
    (overtaken : Overtaken plan events) : .completed ∈ state.phases := by
  rcases overtaken with ⟨before, after, middle, rfl, reached, possible⟩
  rcases isSome_step_noticeCancellation.mp possible with ⟨supervising, _, first⟩
  rcases path.split with ⟨same, next, again, transition, _, onward⟩
  cases again.unique reached
  refine follow_invariant (fun _ _ _ taken => (transition_of_step taken).mem_phases) ?_ onward
  cases transition with
  | clean target result cleaner after event occurrences cleaning current allowed advance =>
      cases advance
  | noticeAllEnded _ ended => simp [State.phases, State.record, State.cancelBy, first]

end Reaches

/--
A run that has observed an application container fail, or the pause container end, while it
supervised them is announced as completed if and only if the end of all applications has overtaken
the notice of its cancellation; otherwise it is announced as cancelling, and never as both. As long
as it supervises its containers after such a failure, it is announced as cancelling or can notice
its cancellation.
-/
theorem failed_run_announced_unless_overtaken {plan : Plan} {events : List Event} {state : State}
    (path : Reaches plan events state) (failed : supervisedFailures plan events ≠ []) :
    (∀ result, state.result? = some result →
      (.completed ∈ state.phases ↔ Overtaken plan events) ∧
      (.cancelling ∈ state.phases ↔ ¬ Overtaken plan events)) ∧
    (state.stage = .supervising →
      .cancelling ∈ state.phases ∨ (step state .noticeCancellation).isSome) := by
  rcases path.cancelled_of_failed failed with ⟨cancelled, running⟩
  constructor
  · intro result finished
    have completed : .completed ∈ state.phases ↔ Overtaken plan events :=
      ⟨path.overtaken_of_completed failed, path.completed_of_overtaken⟩
    refine ⟨completed, ?_⟩
    rw [← completed]
    rcases path.phases_of_finished finished with ⟨earlier, ending, phases⟩
    rw [phases] at running ⊢
    cases ending <;> simp [startPhases] at running ⊢
  · intro supervising
    cases cancelling : state.cancelling with
    | true =>
        left
        simp [path.phases_of_supervising supervising, cancelling]
    | false =>
        right
        exact isSome_step_noticeCancellation.mpr ⟨supervising, cancelled, cancelling⟩

/-- A run in which the container fails and the cancellation is noticed before the end. -/
def announcedEvents : List Event :=
  [.begin, .call .pause, .poll, .pollAnswers (.ok true), .launch, .call (.application 0),
    .callReturns (.application 0) (.error (.exitStatus (some 1))), .notice (.application 0),
    .noticeCancellation, .noticeAllEnded, .callReturns .pause (.error .cancelled), .drained, .close,
    .stop (.application 0), .stopAnswers (.application 0) (.ok ()), .remove (.application 0),
    .removeAnswers (.application 0) (.ok ()), .stop .pause, .stopAnswers .pause (.ok ()),
    .remove .pause, .removeAnswers .pause (.ok ()), .finish]

theorem announced_failure_not_completed :
    ∃ state, Reaches .single announcedEvents state ∧
      supervisedFailures .single announcedEvents = [.container "web" (.exitStatus (some 1))] ∧
      .completed ∉ state.phases ∧ ¬ Overtaken .single announcedEvents := by
  have path : Reaches .single announcedEvents _ := rfl
  have failures : supervisedFailures .single announcedEvents =
      [.container "web" (.exitStatus (some 1))] := rfl
  have announced := (failed_run_announced_unless_overtaken path (by simp [failures])).1 _ rfl
  have cancelling := announced.2.mp (by decide)
  exact ⟨_, path, failures, fun completed => cancelling (announced.1.mp completed), cancelling⟩

/-- The end of the only application, which has failed, overtakes the notice of the cancellation. -/
theorem overtaken_failure_completed :
    ∃ state, Reaches .single failingEvents state ∧
      supervisedFailures .single failingEvents = [.container "web" (.exitStatus (some 1))] ∧
      .completed ∈ state.phases ∧ .cancelling ∉ state.phases :=
  ⟨_, rfl, rfl, by decide, by decide⟩

end Workload.Run
