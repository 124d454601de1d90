import Workload.Proofs.Run.Termination

/-!
# The phases of a run and its calls

Which phases were published says how far a run has come: `Stage.Publishes` lists them stage by
stage. A run that was supervised has announced one of two endings, and has announced it once; a run
whose start-up failed has announced none. Since each call is made at certain stages only, the phases
published before a call are those of these stages.
-/

namespace Workload.Run

/-- The phase that an observer sees published. -/
@[simp]
def Occurrence.phase? : Occurrence → Option Phase
  | .published phase => some phase
  | _ => none

/-- The phases published in a history, in order. -/
def phasesIn (history : List Occurrence) : List Phase :=
  history.filterMap Occurrence.phase?

/-- The phases that are published until all applications have been started. -/
def startPhases : List Phase :=
  [.pauseStarting, .pauseConfirmed, .applicationsStarting]

/-- The phases of a run before its cleanup: start-up failed, or the run came to one of two ends. -/
inductive PrecedesCleanup : List Phase → Prop where
  | startFailed : PrecedesCleanup [.pauseStarting]
  | completed : PrecedesCleanup (startPhases ++ [.running, .completed])
  | cancelled : PrecedesCleanup (startPhases ++ [.running, .cancelling])

/-- The phases that a run has published when it stands at a stage. -/
def Stage.Publishes (cancelling : Bool) (phases : List Phase) : Stage → Prop
  | .ready => cancelling = false ∧ phases = []
  | .pollDue => cancelling = false ∧ phases = [.pauseStarting]
  | .polling => cancelling = false ∧ phases = [.pauseStarting]
  | .waiting => cancelling = false ∧ phases = [.pauseStarting]
  | .abandoning _ => phases = [.pauseStarting]
  | .launching _ _ => cancelling = false ∧ phases = startPhases
  | .supervising =>
      phases = startPhases ++ .running :: if cancelling then [.cancelling] else []
  | .draining => PrecedesCleanup phases
  | .closing _ => PrecedesCleanup phases
  | .cleaning _ => ∃ earlier, PrecedesCleanup earlier ∧ phases = earlier ++ [.cleaningUp]
  | .finished _ => ∃ earlier, PrecedesCleanup earlier ∧ phases = earlier ++ [.cleaningUp, .done]

/-- The phases published so far allow the run call of an application. -/
def AllowRuns (phases : List Phase) : Prop :=
  .applicationsStarting ∈ phases ∧ .completed ∉ phases ∧ .cleaningUp ∉ phases

/-- A call suits the phases that were published before it. -/
def Verb.Suits (phases : List Phase) (pauseName container : String) : Verb → Prop
  | .run => container = pauseName ∨ AllowRuns phases
  | .isRunning => phases = [.pauseStarting]
  | .stop => phases.getLast? = some .cleaningUp
  | .remove => phases.getLast? = some .cleaningUp

@[simp]
theorem phasesIn_append (first second : List Occurrence) :
    phasesIn (first ++ second) = phasesIn first ++ phasesIn second :=
  List.filterMap_append

@[simp]
theorem phasesIn_nil : phasesIn [] = [] :=
  rfl

@[simp]
theorem phasesIn_cons (occurrence : Occurrence) (later : List Occurrence) :
    phasesIn (occurrence :: later) = occurrence.phase?.toList ++ phasesIn later := by
  cases occurrence <;> rfl

/-- Only failures are announced of a step of the engine. -/
theorem phasesIn_map_announced {Item : Type} (event : Item → Cleanup.Event) (items : List Item) :
    phasesIn (items.map fun item => .announced (event item)) = [] := by
  simp [phasesIn]

namespace State

/-- The phases published so far are those of the stage. -/
def Phased (state : State) : Prop :=
  state.stage.Publishes state.cancelling (phasesIn state.history)

/-- Each call that was made suits the phases published before it. -/
def Timely (state : State) : Prop :=
  ∀ before verb container after,
    state.history = before ++ .called verb container :: after →
      verb.Suits (phasesIn before) state.plan.identity.pauseName container

variable {state next : State} {event : Event}

namespace Phased

theorem of_eq (phased : state.Phased) (stage : next.stage = state.stage)
    (cancelling : next.cancelling = state.cancelling)
    (phases : phasesIn next.history = phasesIn state.history) : next.Phased := by
  rw [Phased, stage, cancelling, phases]
  exact phased

theorem abandon (phased : state.Phased) (startup : state.stage.isStartup) (fault : RunError) :
    (state.abandon fault).Phased := by
  cases stage : state.stage <;>
    simp_all [Phased, State.abandon, record, cancelBy, Stage.Publishes, Stage.isStartup]

/-- Once applications may be started, they are, and supervision begins after the last one. -/
theorem proceed (uncancelled : state.cancelling = false)
    (published : phasesIn state.history = startPhases) (rest : List Application) :
    (state.proceed rest).Phased := by
  cases rest <;>
    simp [Phased, State.proceed, record, Stage.startingWith, Stage.Publishes, Occurrence.phase?,
      uncancelled, published]

theorem step (phased : state.Phased) (transition : Transition state event next) :
    next.Phased := by
  cases transition with
  | call target due => exact phased.of_eq rfl rfl (by simp [record, withCall])
  | callReturns target result running =>
      exact phased.of_eq rfl rfl (by simp [record, withCall])
  | confirmed polling =>
      simp only [Phased, polling, Stage.Publishes] at phased
      apply proceed
      · exact phased.1
      · simp [record, phased.2, startPhases]
  | pollFails fault conclusive polling =>
      have answered : (state.record
          [.answered .isRunning state.plan.identity.pauseName (some fault)]).Phased :=
        phased.of_eq rfl rfl (by simp [record])
      exact answered.abandon (by simp [record, polling, Stage.isStartup]) _
  | stopPolling waiting cancelled =>
      exact phased.abandon (by simp [waiting, Stage.isStartup]) _
  | launch application rest launching =>
      simp only [Phased, launching, Stage.Publishes] at phased
      apply proceed
      · exact phased.1
      · simp [record, phased.2]
  | pauseEndsEarly result returned startup =>
      have noticed : (state.withCall .pause .noticed).Phased := phased.of_eq rfl rfl rfl
      exact noticed.abandon startup _
  | pauseEnds result returned supervising =>
      exact phased.of_eq rfl rfl (by simp [State.fail, record, withCall, cancelBy])
  | applicationEnds index application returned supervising =>
      exact phased.of_eq rfl rfl (by simp [record, withCall])
  | applicationFails index application fault returned supervising =>
      exact phased.of_eq rfl rfl (by simp [State.fail, record, withCall, cancelBy])
  | noticeAllEnded supervising ended =>
      simp only [Phased, supervising, Stage.Publishes] at phased
      cases cancelling : state.cancelling
      · simp [Phased, record, cancelBy, Stage.Publishes, phased, cancelling,
          PrecedesCleanup.completed]
      · simp [Phased, record, cancelBy, Stage.Publishes, phased, cancelling,
          PrecedesCleanup.cancelled]
  | abandoned fault abandoning returned =>
      simp only [Phased, abandoning, Stage.Publishes] at phased
      simp only [Phased, Stage.Publishes, phased]
      exact .startFailed
  | close result closing settled =>
      simp only [Phased, closing, Stage.Publishes] at phased
      simp only [Phased, record, cancelBy, Stage.Publishes]
      refine ⟨_, phased, ?_⟩
      simp
  | finish result cleaning cleaned =>
      simp only [Phased, cleaning, Stage.Publishes] at phased
      rcases phased with ⟨earlier, ended, published⟩
      refine ⟨earlier, ended, ?_⟩
      simp [record, published]
  | interrupt listening => exact phased.of_eq rfl rfl (by simp [record])
  | cancel interrupting => exact phased.of_eq rfl rfl rfl
  | retire listening cancelled => exact phased.of_eq rfl rfl rfl
  | clean target result cleaner after event occurrences cleaning current allowed advance =>
      refine phased.of_eq rfl rfl ?_
      cases advance <;>
        simp [record, withCleaner, phasesIn_map_announced]
  | _ => simp_all [Phased, record, Stage.Publishes]

end Phased

/-- When the call of an application is due, it was started and has not ended. -/
theorem Phased.allowRuns (phased : state.Phased) (started : state.Started) {index : Nat}
    (due : state.call? (.application index) = some .due) : AllowRuns (phasesIn state.history) := by
  simp only [call?, Option.map_eq_some_iff] at due
  rcases due with ⟨launched, found, due⟩
  have member := List.mem_of_getElem? found
  have begun : state.stage.isBeforeLaunch = false := by
    by_contra before
    simp [started.noneYet (by simpa using before)] at member
  have active : state.stage.isEnding = false := by
    by_contra ending
    have noticed := started.noticed (by simpa using ending) launched member
    simp [due, Call.wasNoticed] at noticed
  cases stage : state.stage <;>
    simp_all [Phased, Stage.Publishes, Stage.isBeforeLaunch, Stage.isEnding, AllowRuns, startPhases]

/-- During cleanup the beginning of cleanup is the last phase published. -/
theorem Phased.last_of_cleaning (phased : state.Phased) {result : Option RunError}
    (cleaning : state.stage = .cleaning result) :
    (phasesIn state.history).getLast? = some .cleaningUp := by
  simp only [Phased, cleaning, Stage.Publishes] at phased
  rcases phased with ⟨earlier, _, published⟩
  simp [published]

end State

/-- Every call suits the phases before it, and no phase is published along with it. -/
theorem Transition.calls {state next : State} {event : Event}
    (transition : Transition state event next) (phased : state.Phased) (started : state.Started) :
    ∃ seen, next.history = state.history ++ seen ∧
      ∀ verb container, .called verb container ∈ seen → phasesIn seen = [] ∧
        verb.Suits (phasesIn state.history) state.plan.identity.pauseName container := by
  cases transition with
  | call target due =>
      refine ⟨_, rfl, ?_⟩
      intro verb container called
      simp only [List.mem_singleton, Occurrence.called.injEq] at called
      rcases called with ⟨rfl, rfl⟩
      refine ⟨rfl, ?_⟩
      cases target with
      | pause => exact Or.inl rfl
      | application index => exact Or.inr (phased.allowRuns started due)
  | poll due =>
      refine ⟨_, rfl, ?_⟩
      intro verb container called
      simp only [List.mem_singleton, Occurrence.called.injEq] at called
      rcases called with ⟨rfl, rfl⟩
      simp only [State.Phased, due, Stage.Publishes] at phased
      exact ⟨rfl, phased.2⟩
  | clean target result cleaner after event occurrences cleaning current allowed advance =>
      refine ⟨occurrences, rfl, ?_⟩
      intro verb container called
      have last := phased.last_of_cleaning cleaning
      cases advance <;> simp_all [Verb.Suits]
  | confirmed polling =>
      refine ⟨_, (List.append_assoc ..).trans (List.append_assoc ..), ?_⟩
      simp
  | pollFails fault conclusive polling => exact ⟨_, List.append_assoc .., by simp⟩
  | launch application rest launching =>
      refine ⟨_, List.append_assoc .., ?_⟩
      simp
  | pollAgain waiting => exact ⟨[], by simp, by simp⟩
  | abandoned fault abandoning returned => exact ⟨[], by simp, by simp⟩
  | drained draining returned => exact ⟨[], by simp, by simp⟩
  | cancel interrupting => exact ⟨[], by simp [State.cancelBy], by simp⟩
  | retire listening cancelled => exact ⟨[], by simp, by simp⟩
  | _ => exact ⟨_, rfl, by simp⟩

namespace State

variable {state next : State} {event : Event}

theorem Timely.step (timely : state.Timely) (phased : state.Phased) (started : state.Started)
    (transition : Transition state event next) : next.Timely := by
  rcases transition.calls phased started with ⟨seen, grown, suits⟩
  intro before verb container after split
  rw [transition.plan_eq]
  have now : ∀ earlier later, seen = earlier ++ .called verb container :: later →
      verb.Suits (phasesIn (state.history ++ earlier)) state.plan.identity.pauseName container := by
    intro earlier later here
    rcases suits verb container (by simp [here]) with ⟨silent, suited⟩
    rw [here, phasesIn_append, List.append_eq_nil_iff] at silent
    rw [phasesIn_append, silent.1, List.append_nil]
    exact suited
  rw [grown, List.append_eq_append_iff] at split
  rcases split with ⟨earlier, rfl, here⟩ | ⟨later, known, here⟩
  · exact now earlier after here
  · rcases List.cons_eq_append_iff.mp here with ⟨rfl, first⟩ | ⟨rest, rfl, _⟩
    · rw [List.append_nil] at known
      simpa [known] using now [] after first
    · exact timely before verb container rest known

end State

namespace Reaches

variable {plan : Plan} {events : List Event} {state : State}

theorem phased (path : Reaches plan events state) : state.Phased := by
  apply path.invariant State.Phased
  · exact ⟨rfl, rfl⟩
  · exact fun _ _ _ _ _ phased transition => phased.step transition

theorem timely (path : Reaches plan events state) : state.Timely := by
  apply path.invariant State.Timely
  · simp [State.Timely, State.initial]
  · intro events state event next before timely transition
    exact timely.step before.phased before.started transition

theorem phases_of_finished (path : Reaches plan events state) {result : Option RunError}
    (finished : state.result? = some result) :
    ∃ earlier, PrecedesCleanup earlier ∧ state.phases = earlier ++ [.cleaningUp, .done] := by
  have phased := path.phased
  simp only [State.Phased, State.result?_eq_some.mp finished, Stage.Publishes] at phased
  exact phased

theorem allowRuns_of_call {before after : List Event} {index : Nat}
    (path : Reaches plan (before ++ .call (.application index) :: after) state) :
    ∃ middle, Reaches plan before middle ∧ AllowRuns middle.phases := by
  rcases path.split with ⟨middle, next, earlier, transition, _⟩
  refine ⟨middle, earlier, ?_⟩
  cases transition with
  | call target due => exact earlier.phased.allowRuns earlier.started due
  | clean target result cleaner after event occurrences cleaning current allowed advance =>
      cases advance

end Reaches

/--
A run that is over has published the start of the pause container, then nothing or all of what lies
between the start of the applications and one of two endings, and at last its cleanup and its end.
Each call belongs to a phase: an application is run after the start of the applications and before
completion and cleanup, the pause container is asked for while it starts, and containers are stopped
and removed during cleanup.
-/
theorem phase_protocol {plan : Plan} {events : List Event} {state : State}
    (path : Reaches plan events state) :
    (∀ result, state.result? = some result →
      state.phases = [.pauseStarting, .cleaningUp, .done] ∨
      ∃ ending, (ending = .completed ∨ ending = .cancelling) ∧
        state.phases = [.pauseStarting, .pauseConfirmed, .applicationsStarting, .running, ending,
          .cleaningUp, .done]) ∧
    (∀ before index after, events = before ++ .call (.application index) :: after →
      ∃ middle, Reaches plan before middle ∧ AllowRuns middle.phases) ∧
    (∀ before container after, state.history = before ++ .called .run container :: after →
      container ≠ plan.identity.pauseName → AllowRuns (phasesIn before)) ∧
    (∀ before container after, state.history = before ++ .called .isRunning container :: after →
      (phasesIn before).getLast? = some .pauseStarting) ∧
    (∀ before verb container after, verb = .stop ∨ verb = .remove →
      state.history = before ++ .called verb container :: after →
        (phasesIn before).getLast? = some .cleaningUp) ∧
    ∃ rest final result, follow step state rest = some final ∧ final.result? = some result := by
  have timely := path.timely
  simp only [State.Timely, path.plan_eq] at timely
  refine ⟨?_, ?_, ?_, ?_, ?_, State.exists_completion path.started⟩
  · intro result finished
    rcases path.phases_of_finished finished with ⟨earlier, course, published⟩
    cases course with
    | startFailed => exact Or.inl published
    | completed => exact Or.inr ⟨.completed, Or.inl rfl, published⟩
    | cancelled => exact Or.inr ⟨.cancelling, Or.inr rfl, published⟩
  · rintro before index after rfl
    exact path.allowRuns_of_call
  · intro before container after split apart
    have suits : container = _ ∨ _ := timely before .run container after split
    exact suits.resolve_left apart
  · intro before container after split
    have published : phasesIn before = _ := timely before .isRunning container after split
    simp [published]
  · rintro before verb container after (rfl | rfl) split
    · exact timely before .stop container after split
    · exact timely before .remove container after split

/-- A run that is interrupted before the task of its application has called the engine. -/
def overtakenEvents : List Event :=
  [.begin, .call .pause, .poll, .pollAnswers (.ok true), .launch, .interrupt, .cancel,
    .noticeCancellation, .call (.application 0), .callReturns (.application 0) (.error .cancelled),
    .notice (.application 0), .callReturns .pause (.error .cancelled), .noticeAllEnded, .drained,
    .close, .stop (.application 0), .stopAnswers (.application 0) (.ok ()),
    .remove (.application 0), .removeAnswers (.application 0) (.ok ()), .stop .pause,
    .stopAnswers .pause (.ok ()), .remove .pause, .removeAnswers .pause (.ok ()), .finish]

theorem overtaken_run_passes_all_phases :
    ∃ state ending, Reaches .single overtakenEvents state ∧
      state.phases = [.pauseStarting, .pauseConfirmed, .applicationsStarting, .running, ending,
        .cleaningUp, .done] := by
  have path : Reaches .single overtakenEvents _ := rfl
  rcases (phase_protocol path).1 _ rfl with short | ⟨ending, _, long⟩
  · cases short
  · exact ⟨_, ending, path, long⟩

end Workload.Run
