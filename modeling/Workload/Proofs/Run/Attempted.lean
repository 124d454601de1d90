import Workload.Proofs.Run.Cleanup

/-!
# What was called is what is cleaned up

Only the task of a container makes its call, and only its own cleanup changes how far that has come.
By the time at which cleanup begins the call of everything that was started was made, that of the
pause container included, so that the containers cleaned up are those whose call was made.
-/

namespace Workload.Run

namespace State

/-- The engine was called to run the container of the given name. -/
def HasCalled (state : State) (name : String) : Prop :=
  .called .run name ∈ state.history

/-- The container of the given name is cleaned up. -/
def HasCleaned (state : State) (name : String) : Prop :=
  ∃ cleaner ∈ state.cleanups, cleaner.container = name ∧ cleaner.stage = .cleaned

variable {state : State} {target : Target} {cleaner after : Cleaner}

theorem mem_cleanups (current : state.cleaner? target = some cleaner) :
    cleaner ∈ state.cleanups := by
  rcases exists_cleanups_split current with ⟨earlier, later, split, _⟩
  rw [split]
  exact List.mem_append_right _ (List.mem_cons_self ..)

theorem mem_cleanups_withCleaner (current : state.cleaner? target = some cleaner)
    {other : Cleaner} (member : other ∈ (state.withCleaner target after).cleanups) :
    other ∈ state.cleanups ∨ other = after := by
  rcases exists_cleanups_split current with ⟨earlier, later, split, replaced⟩
  rw [replaced, List.mem_append, List.mem_cons] at member
  rw [split, List.mem_append, List.mem_cons]
  tauto

theorem hasCleaned_withCleaner (current : state.cleaner? target = some cleaner)
    (same : after.container = cleaner.container) (undone : cleaner.stage ≠ .cleaned)
    (name : String) :
    (state.withCleaner target after).HasCleaned name ↔
      state.HasCleaned name ∨ (after.stage = .cleaned ∧ name = cleaner.container) := by
  rcases exists_cleanups_split current with ⟨earlier, later, split, replaced⟩
  simp only [HasCleaned, split, replaced, List.mem_append, List.mem_cons, or_and_right, exists_or,
    exists_eq_left, same, undone, and_false, false_or]
  constructor
  · rintro (before | ⟨here, done⟩ | behind)
    · exact Or.inl (Or.inl before)
    · exact Or.inr ⟨done, here.symm⟩
    · exact Or.inl (Or.inr behind)
  · rintro ((before | behind) | ⟨done, here⟩)
    · exact Or.inl before
    · exact Or.inr (Or.inr behind)
    · exact Or.inr (Or.inl ⟨here.symm, done⟩)

/-- A container whose cleanup is not over is not cleaned up under another cleanup of its name. -/
theorem not_hasCleaned_of_cleaner (distinct : (state.cleanups.map Cleaner.container).Nodup)
    (current : state.cleaner? target = some cleaner) (undone : cleaner.stage ≠ .cleaned) :
    ¬ state.HasCleaned cleaner.container := by
  rintro ⟨other, member, same, done⟩
  have unique : other = cleaner :=
    List.inj_on_of_nodup_map distinct member (mem_cleanups current) same
  exact undone (unique ▸ done)

end State

/-- The event belongs to the cleanup of the containers. -/
def Event.isOfCleanup : Event → Bool
  | .close => true
  | .stop _ => true
  | .stopAnswers _ _ => true
  | .remove _ => true
  | .removeAnswers _ _ => true
  | _ => false

namespace Transition

open State

variable {state next : State} {event : Event}

theorem due_of_call {target : Target} (transition : Transition state (.call target) next) :
    state.call? target = some .due := by
  cases transition with
  | clean target result cleaner after event occurrences cleaning current allowed advance =>
      cases advance
  | call target due => exact due

theorem running_of_callReturns {target : Target} {result : Except EngineError Unit}
    (transition : Transition state (.callReturns target result) next) :
    state.call? target = some .running := by
  cases transition with
  | clean target result cleaner after event occurrences cleaning current allowed advance =>
      cases advance
  | callReturns target result running => exact running

theorem cleanups_eq (transition : Transition state event next)
    (other : event.isOfCleanup = false) : next.cleanups = state.cleanups := by
  cases transition with
  | close result closing settled => simp [Event.isOfCleanup] at other
  | clean target result cleaner after event occurrences cleaning current allowed advance =>
      cases advance <;> simp [Event.isOfCleanup] at other
  | _ => rfl

theorem hasCalled_iff (transition : Transition state event next) (name : String) :
    next.HasCalled name ↔
      state.HasCalled name ∨ ∃ target, event = .call target ∧ name = state.containerOf target := by
  cases transition with
  | clean target result cleaner after event occurrences cleaning current allowed advance =>
      cases advance <;> simp [HasCalled, record, withCleaner]
  | _ => simp [HasCalled, record, withCall, confirm, proceed, abandon, fail, cancelBy]

theorem hasCalled_eq (transition : Transition state event next)
    (other : ∀ target, event ≠ .call target) (name : String) :
    next.HasCalled name ↔ state.HasCalled name := by
  rw [transition.hasCalled_iff]
  refine or_iff_left ?_
  rintro ⟨target, same, _⟩
  exact other target same

/-- The cleanups are left alone, begin, or go on in one place. -/
theorem cleanups_cases (transition : Transition state event next) :
    next.cleanups = state.cleanups ∨
    (state.stage.isCleanup = false ∧
      next.cleanups = state.launched.map Launched.cleaner ++ [state.pauseCleaner]) ∨
    ∃ target cleaner after occurrences, state.stage.isCleanup ∧
      state.cleaner? target = some cleaner ∧ cleaner.Advance target event after occurrences ∧
      next.cleanups = (state.withCleaner target after).cleanups := by
  cases transition with
  | close result closing settled =>
      exact Or.inr (Or.inl ⟨by simp [closing, Stage.isCleanup], rfl⟩)
  | clean target result cleaner after event occurrences cleaning current allowed advance =>
      exact Or.inr (Or.inr ⟨target, cleaner, after, occurrences,
        by simp [cleaning, Stage.isCleanup], current, advance, rfl⟩)
  | _ => exact Or.inl rfl

theorem stopped_of_stopAnswers {target : Target} {result : Except EngineError Unit}
    {cleaner : Cleaner} (transition : Transition state (.stopAnswers target result) next)
    (current : state.cleaner? target = some cleaner) :
    state.stage.isCleanup ∧ cleaner.stage = .stopping ∧
      next.cleanups = (state.withCleaner target { cleaner with
        stage := .removeDue
        failures := cleaner.failures ++
          stepFailures cleaner.container .stop result }).cleanups := by
  cases transition with
  | clean target outcome other after event occurrences cleaning found allowed advance =>
      cases advance with
      | stopAnswers result stopping =>
          rw [current] at found
          cases found
          exact ⟨by simp [cleaning, Stage.isCleanup], stopping, rfl⟩

theorem removed_of_removeAnswers {target : Target} {result : Except EngineError Unit}
    {cleaner : Cleaner} (transition : Transition state (.removeAnswers target result) next)
    (current : state.cleaner? target = some cleaner) :
    state.stage.isCleanup ∧ cleaner.stage = .removing ∧
      next.cleanups = (state.withCleaner target { cleaner with
        stage := .cleaned
        failures := cleaner.failures ++
          stepFailures cleaner.container .remove result }).cleanups := by
  cases transition with
  | clean target outcome other after event occurrences cleaning found allowed advance =>
      cases advance with
      | removeAnswers result removing =>
          rw [current] at found
          cases found
          exact ⟨by simp [cleaning, Stage.isCleanup], removing, rfl⟩

theorem pause_isSome (transition : Transition state event next)
    (called : state.stage ≠ .ready → state.pause.isSome) :
    next.stage ≠ .ready → next.pause.isSome := by
  intro begun
  cases transition with
  | begin ready => rfl
  | call target due =>
      cases target with
      | pause => rfl
      | application index => exact called begun
  | callReturns target result running =>
      cases target with
      | pause => rfl
      | application index => exact called begun
  | clean target result cleaner after event occurrences cleaning current allowed advance =>
      exact called begun
  | pauseEndsEarly result returned startup => rfl
  | pauseEnds result returned supervising => rfl
  | confirmed polling => exact called (by simp [polling])
  | interrupt listening => exact called begun
  | cancel interrupting => exact called begun
  | retire listening cancelled => exact called begun
  | _ =>
      apply called
      simp_all

end Transition

namespace Reaches

variable {plan : Plan} {events : List Event} {state : State}

theorem pause_isSome (path : Reaches plan events state) :
    state.stage ≠ .ready → state.pause.isSome := by
  apply path.invariant fun state => state.stage ≠ .ready → state.pause.isSome
  · simp [State.initial]
  · intro events state event next _ called transition
    exact transition.pause_isSome called

/-- During cleanup each container to clean up is one that was started. -/
theorem cleanups_perm_runs (path : Reaches plan events state) (cleanup : state.stage.isCleanup) :
    (state.cleanups.map Cleaner.container).Perm (state.runs.map Prod.fst) := by
  have begun : state.stage ≠ .ready := by
    intro ready
    simp [ready, Stage.isCleanup] at cleanup
  rcases Option.isSome_iff_exists.mp (path.pause_isSome begun) with ⟨call, pause⟩
  have names : state.runs.map Prod.fst = plan.identity.pauseName :: state.containers := by
    simp [State.runs, State.containers, pause, path.plan_eq]
  have cleaners : state.cleaners.map Cleaner.container = state.containers :=
    path.cleaned.named cleanup
  rw [State.cleanups, List.map_append, cleaners, names, List.map_singleton,
    path.cleaned.pauseNamed, path.plan_eq]
  exact List.perm_append_singleton ..

/-- During cleanup the containers to clean up are those whose call was made. -/
theorem hasCalled_iff_of_cleanup (path : Reaches plan events state)
    (distinct : plan.containerNames.Nodup) (cleanup : state.stage.isCleanup) (name : String) :
    state.HasCalled name ↔ name ∈ state.cleanups.map Cleaner.container := by
  have told := path.callsTold distinct
  have called : state.HasCalled name ↔ .called .run name ∈ state.trail [.run] name := by
    simp [State.HasCalled, State.mem_trail, Occurrence.concerns]
  rw [called, (path.cleanups_perm_runs cleanup).mem_iff]
  constructor
  · intro seen
    by_contra unknown
    rw [told.silent name unknown] at seen
    cases seen
  · intro known
    rcases List.mem_map.mp known with ⟨⟨name, call⟩, member, rfl⟩
    -- A call that has returned was made, so its trail begins with it.
    have returned := path.started.runs_returned (Stage.isOver_of_isCleanup cleanup) member
    have tells := told.told _ member
    cases call with
    | due => simp [Call.hasReturned] at returned
    | running => simp [Call.hasReturned] at returned
    | returned result =>
        simp only [Call.Tells] at tells
        simp [tells]
    | noticed =>
        rcases tells with ⟨fault, trail⟩
        simp [trail]

theorem hasCalled_of_cleaner (path : Reaches plan events state)
    (distinct : plan.containerNames.Nodup) (cleanup : state.stage.isCleanup) {target : Target}
    {cleaner : Cleaner} (current : state.cleaner? target = some cleaner) :
    state.HasCalled cleaner.container := by
  rw [path.hasCalled_iff_of_cleanup distinct cleanup]
  exact List.mem_map_of_mem (State.mem_cleanups current)

theorem hasCalled_of_running (path : Reaches plan events state)
    (distinct : plan.containerNames.Nodup) {target : Target}
    (running : state.call? target = some .running) :
    state.HasCalled (state.containerOf target) := by
  have trail : state.trail [.run] (state.containerOf target) =
      [.called .run (state.containerOf target)] :=
    (path.callsTold distinct).told _ (State.mem_runs running)
  have seen : .called .run (state.containerOf target) ∈
      state.trail [.run] (state.containerOf target) := by simp [trail]
  exact (State.mem_trail.mp seen).1

/-- Before the call of a container is over nothing is cleaned up. -/
theorem not_isCleanup_of_active (path : Reaches plan events state) {target : Target} {call : Call}
    (current : state.call? target = some call) (active : call.hasReturned = false) :
    state.stage.isCleanup = false := by
  by_contra cleanup
  have ended := Stage.isOver_of_isCleanup (by simpa using cleanup)
  have returned := path.started.runs_returned ended (State.mem_runs current)
  simp [active] at returned

theorem not_hasCleaned (path : Reaches plan events state)
    (before : state.stage.isCleanup = false) (name : String) : ¬ state.HasCleaned name := by
  rcases path.cleaned.untouched before with ⟨none, fresh⟩
  rintro ⟨cleaner, member, _, done⟩
  rw [State.cleanups, none, fresh, List.nil_append, List.mem_singleton] at member
  rw [member] at done
  cases done

end Reaches

end Workload.Run
