import Workload.Proofs.Run.Reachability

/-!
# What a run keeps in order

At every moment of every interleaving the applications that were started are the first ones of the
plan, all calls have returned before cleanup begins, and the pause container is cleaned up last.
`State.Started` and `State.Cleaned` say this of a state, stage by stage, and are kept by every rule.
-/

namespace Workload.Run

/-- The applications that are still to be started, from the moment at which starting begins. -/
def Stage.upcoming? : Stage → Option (List Application)
  | .launching next rest => some (next :: rest)
  | .supervising => some []
  | _ => none

/-- No application can have been started. -/
def Stage.isBeforeLaunch : Stage → Bool
  | .ready => true
  | .pollDue => true
  | .polling => true
  | .waiting => true
  | .abandoning _ => true
  | _ => false

/-- The end of every application that was started has been noticed. -/
def Stage.isEnding : Stage → Bool
  | .draining => true
  | .closing _ => true
  | .cleaning _ => true
  | .finished _ => true
  | _ => false

/-- The calls of all containers have returned. -/
def Stage.isOver : Stage → Bool
  | .closing _ => true
  | .cleaning _ => true
  | .finished _ => true
  | _ => false

/-- Cleanup has begun. -/
def Stage.isCleanup : Stage → Bool
  | .cleaning _ => true
  | .finished _ => true
  | _ => false

namespace Stage

@[simp]
theorem upcoming?_startingWith (rest : List Application) :
    (startingWith rest).upcoming? = some rest := by
  cases rest <;> rfl

@[simp]
theorem isBeforeLaunch_startingWith (rest : List Application) :
    (startingWith rest).isBeforeLaunch = false := by
  cases rest <;> rfl

@[simp]
theorem isEnding_startingWith (rest : List Application) :
    (startingWith rest).isEnding = false := by
  cases rest <;> rfl

@[simp]
theorem isOver_startingWith (rest : List Application) : (startingWith rest).isOver = false := by
  cases rest <;> rfl

@[simp]
theorem isCleanup_startingWith (rest : List Application) :
    (startingWith rest).isCleanup = false := by
  cases rest <;> rfl

@[simp]
theorem startingWith_ne_ready (rest : List Application) : startingWith rest ≠ .ready := by
  cases rest <;> simp [startingWith]

@[simp]
theorem startingWith_ne_polling (rest : List Application) : startingWith rest ≠ .polling := by
  cases rest <;> simp [startingWith]

@[simp]
theorem startingWith_ne_abandoning (rest : List Application) (fault : RunError) :
    startingWith rest ≠ .abandoning fault := by
  cases rest <;> simp [startingWith]

@[simp]
theorem startingWith_ne_finished (rest : List Application) (result : Option RunError) :
    startingWith rest ≠ .finished result := by
  cases rest <;> simp [startingWith]

theorem isBeforeLaunch_of_isStartup {stage : Stage} (startup : stage.isStartup) :
    stage.isBeforeLaunch := by
  cases stage <;> simp_all [isStartup, isBeforeLaunch]

theorem isOver_of_isCleanup {stage : Stage} (cleanup : stage.isCleanup) : stage.isOver := by
  cases stage <;> simp_all [isCleanup, isOver]

theorem isEnding_of_isOver {stage : Stage} (ended : stage.isOver) : stage.isEnding := by
  cases stage <;> simp_all [isOver, isEnding]

end Stage

theorem State.result?_eq_some {state : State} {result : Option RunError} :
    state.result? = some result ↔ state.stage = .finished result := by
  cases stage : state.stage <;> simp [result?, stage]

namespace State

/-- How far the starting and the ending of containers has come. -/
structure Started (state : State) : Prop where
  idle : state.stage = .ready → state.pause = none
  inOrder : state.launched.map Launched.application <+: state.plan.applications
  upcoming : ∀ rest, state.stage.upcoming? = some rest →
    state.launched.map Launched.application ++ rest = state.plan.applications
  noneYet : state.stage.isBeforeLaunch → state.launched = []
  noticed : state.stage.isEnding → ∀ launched ∈ state.launched, launched.call.wasNoticed
  pauseReturned : state.stage.isOver → state.pause.all Call.hasReturned

/-- How far the cleanup of containers has come. -/
structure Cleaned (state : State) : Prop where
  untouched : state.stage.isCleanup = false →
    state.cleaners = [] ∧ state.pauseCleaner = { container := state.plan.identity.pauseName }
  named : state.stage.isCleanup → state.cleaners.map Cleaner.container =
    (state.launched.map Launched.application).map fun application =>
      application.specification.container
  pauseNamed : state.pauseCleaner.container = state.plan.identity.pauseName
  pauseLast : state.pauseCleaner.stage ≠ .stopDue →
    ∀ cleaner ∈ state.cleaners, cleaner.stage = .cleaned
  complete : ∀ result, state.stage = .finished result → state.pauseCleaner.stage = .cleaned

@[simp]
theorem withCall_applications (state : State) (target : Target) (call : Call) :
    (state.withCall target call).launched.map Launched.application =
      state.launched.map Launched.application := by
  cases target with
  | pause => rfl
  | application index =>
      simp only [withCall]
      apply List.ext_getElem?
      intro position
      simp only [List.getElem?_map, List.getElem?_modify]
      split <;> cases state.launched[position]? <;> rfl

theorem getElem?_withCall (state : State) (target : Target) (call : Call) (index : Nat) :
    (state.withCall target call).launched[index]? =
      if target = .application index then
        (state.launched[index]?).map fun launched => { launched with call }
      else state.launched[index]? := by
  cases target with
  | pause => rfl
  | application position =>
      simp only [withCall, List.getElem?_modify, Target.application.injEq]
      split <;> simp

@[simp]
theorem withCall_launched_eq_nil (state : State) (target : Target) (call : Call) :
    (state.withCall target call).launched = [] ↔ state.launched = [] := by
  cases target <;> simp [withCall]

theorem started_initial (plan : Plan) : Started (.initial plan) := by
  constructor <;> simp [initial, Stage.upcoming?, Stage.isEnding, Stage.isOver]

theorem cleaned_initial (plan : Plan) : Cleaned (.initial plan) := by
  constructor <;> simp [initial, Stage.isCleanup]

variable {state next : State} {event : Event}

theorem call?_application {index : Nat} {application : Application} {call : Call}
    (found : state.launched[index]? = some ⟨application, call⟩) :
    state.call? (.application index) = some call := by
  simp [call?, found]

theorem call?_withCall {target other : Target} {old new : Call}
    (current : state.call? target = some old) :
    (state.withCall target new).call? other =
      if target = other then some new else state.call? other := by
  cases other with
  | pause => cases target <;> simp [call?, withCall]
  | application index =>
      simp only [call?, getElem?_withCall]
      split
      · rename_i same
        subst target
        rw [call?, Option.map_eq_some_iff] at current
        rcases current with ⟨launched, found, _⟩
        simp [found]
      · rfl

/-- The call of a container is left alone when that of one in another condition is replaced. -/
theorem getElem?_withCall_of_ne {target : Target} {old new : Call} {index : Nat}
    {launched : Launched} (current : state.call? target = some old)
    (found : state.launched[index]? = some launched) (apart : launched.call ≠ old) :
    (state.withCall target new).launched[index]? = some launched := by
  have other : target ≠ .application index := by
    rintro rfl
    simp only [call?, found, Option.map_some, Option.some.injEq] at current
    exact apart current
  rw [getElem?_withCall, if_neg other]
  exact found

namespace Started

theorem of_eq (started : state.Started) (plan : next.plan = state.plan)
    (stage : next.stage = state.stage) (pause : next.pause = state.pause)
    (launched : next.launched = state.launched) : next.Started := by
  rcases started with ⟨idle, inOrder, upcoming, noneYet, noticed, pauseReturned⟩
  constructor <;> simpa only [plan, stage, pause, launched]

/-- A call that has not returned may go on, and the return of any call may be noticed. -/
theorem withCall (started : state.Started) {target : Target} {old new : Call}
    (current : state.call? target = some old)
    (allowed : old.hasReturned = false ∨ new = .noticed) :
    (state.withCall target new).Started := by
  rcases started with ⟨idle, inOrder, upcoming, noneYet, noticed, pauseReturned⟩
  cases target with
  | pause =>
      simp only [call?] at current
      refine ⟨?_, inOrder, upcoming, noneYet, noticed, ?_⟩
      · intro ready
        simp [idle ready] at current
      · intro ended
        have returned := pauseReturned ended
        rcases allowed with active | rfl
        · simp [current, active] at returned
        · rfl
  | application index =>
      refine ⟨idle, ?_, ?_, ?_, ?_, pauseReturned⟩
      · rw [withCall_applications]
        exact inOrder
      · rw [withCall_applications]
        exact upcoming
      · intro before
        simp [State.withCall, noneYet before]
      · intro ending launched member
        simp only [call?, Option.map_eq_some_iff] at current
        rcases current with ⟨found, foundAt, rfl⟩
        have foundNoticed := noticed ending found (List.mem_of_getElem? foundAt)
        rcases allowed with active | rfl
        · exfalso
          cases called : found.call <;> simp_all [Call.wasNoticed, Call.hasReturned]
        · simp only [State.withCall] at member
          rcases List.getElem?_of_mem member with ⟨position, atPosition⟩
          rw [List.getElem?_modify] at atPosition
          split at atPosition
          · simp only [Option.map_eq_map, Option.map_eq_some_iff] at atPosition
            rcases atPosition with ⟨_, _, rfl⟩
            rfl
          · simp only [Option.map_eq_map, Option.map_id_fun', id_eq] at atPosition
            exact noticed ending launched (List.mem_of_getElem? atPosition)

theorem abandon (started : state.Started) (before : state.stage.isBeforeLaunch)
    (fault : RunError) : (state.abandon fault).Started := by
  refine ⟨?_, started.inOrder, ?_, fun _ => started.noneYet before, ?_, ?_⟩
  · simp [State.abandon, record]
  · simp [State.abandon, record, Stage.upcoming?]
  · simp [State.abandon, record, Stage.isEnding]
  · simp [State.abandon, record, Stage.isOver]

theorem step (started : state.Started) (transition : Transition state event next) :
    next.Started := by
  cases transition with
  | call target due =>
      exact (started.withCall due (Or.inl rfl)).of_eq rfl rfl rfl rfl
  | callReturns target result running =>
      exact (started.withCall running (Or.inl rfl)).of_eq rfl rfl rfl rfl
  | confirmed polling =>
      have none := started.noneYet (by simp [polling, Stage.isBeforeLaunch])
      constructor <;> simp [confirm, proceed, record, none]
  | pollFails fault conclusive polling =>
      have before : state.stage.isBeforeLaunch := by simp [polling, Stage.isBeforeLaunch]
      exact (started.abandon before _).of_eq rfl rfl rfl rfl
  | stopPolling waiting cancelled =>
      exact started.abandon (by simp [waiting, Stage.isBeforeLaunch]) _
  | launch application rest launching =>
      have rising := started.upcoming (application :: rest) (by simp [launching, Stage.upcoming?])
      constructor <;> simp [proceed, record, ← rising]
  | pauseEndsEarly result returned startup =>
      have noticed : (state.withCall .pause .noticed).Started :=
        started.withCall returned (Or.inr rfl)
      exact noticed.abandon (Stage.isBeforeLaunch_of_isStartup startup) _
  | pauseEnds result returned supervising =>
      have noticed : (state.withCall .pause .noticed).Started :=
        started.withCall returned (Or.inr rfl)
      exact noticed.of_eq rfl rfl rfl rfl
  | applicationEnds index application returned supervising =>
      have noticed := started.withCall (call?_application returned) (Or.inr rfl)
      exact noticed.of_eq rfl rfl rfl rfl
  | applicationFails index application fault returned supervising =>
      have noticed := started.withCall (call?_application returned) (Or.inr rfl)
      exact noticed.of_eq rfl rfl rfl rfl
  | noticeCancellation supervising cancelled first => exact started.of_eq rfl rfl rfl rfl
  | clean target result cleaner after event occurrences cleaning current allowed advance =>
      exact started.of_eq rfl rfl rfl rfl
  | interrupt listening => exact started.of_eq rfl rfl rfl rfl
  | cancel interrupting => exact started.of_eq rfl rfl rfl rfl
  | retire listening cancelled => exact started.of_eq rfl rfl rfl rfl
  | _ =>
      rcases started with ⟨idle, inOrder, upcoming, noneYet, noticed, pauseReturned⟩
      constructor <;> simp_all [record, cancelBy, Stage.upcoming?, Stage.isBeforeLaunch,
        Stage.isEnding, Stage.isOver]

end Started

theorem withCleaner_containers {index : Nat} {cleaner after : Cleaner}
    (current : state.cleaners[index]? = some cleaner)
    (same : after.container = cleaner.container) :
    (state.withCleaner (.application index) after).cleaners.map Cleaner.container =
      state.cleaners.map Cleaner.container := by
  simp only [withCleaner]
  apply List.ext_getElem?
  intro position
  simp only [List.getElem?_map, List.getElem?_set]
  split
  · subst position
    split <;> simp_all
  · rfl

namespace Cleaned

theorem of_eq (cleaned : state.Cleaned) (plan : next.plan = state.plan)
    (stage : next.stage = state.stage) (cleaners : next.cleaners = state.cleaners)
    (pauseCleaner : next.pauseCleaner = state.pauseCleaner)
    (applications : next.launched.map Launched.application =
      state.launched.map Launched.application) : next.Cleaned := by
  rcases cleaned with ⟨untouched, named, pauseNamed, pauseLast, complete⟩
  constructor <;> simpa only [plan, stage, cleaners, pauseCleaner, applications]

/-- As long as cleanup has not begun, nothing but its beginning matters to it. -/
theorem of_untouched (cleaned : state.Cleaned) (plan : next.plan = state.plan)
    (before : state.stage.isCleanup = false) (after : next.stage.isCleanup = false)
    (cleaners : next.cleaners = state.cleaners)
    (pauseCleaner : next.pauseCleaner = state.pauseCleaner) : next.Cleaned := by
  have fresh := cleaned.untouched before
  refine ⟨?_, ?_, ?_, ?_, ?_⟩
  · intro _
    rw [cleaners, pauseCleaner, plan]
    exact fresh
  · intro cleanup
    simp [after] at cleanup
  · rw [pauseCleaner, plan]
    exact cleaned.pauseNamed
  · rw [cleaners, pauseCleaner]
    exact cleaned.pauseLast
  · intro result finished
    simp [finished, Stage.isCleanup] at after

theorem clean (cleaned : state.Cleaned) {target : Target} {result : Option RunError}
    {cleaner after : Cleaner} {occurrences : List Occurrence}
    (cleaning : state.stage = .cleaning result) (current : state.cleaner? target = some cleaner)
    (allowed : cleaner.stage = .stopDue → state.mayClean target)
    (advance : cleaner.Advance target event after occurrences) :
    (state.withCleaner target after).Cleaned := by
  have cleanup : state.stage.isCleanup := by simp [cleaning, Stage.isCleanup]
  have incomplete : ∀ result, state.stage ≠ .finished result := by simp [cleaning]
  cases target with
  | pause =>
      simp only [cleaner?, Option.some.injEq] at current
      subst cleaner
      refine ⟨?_, cleaned.named, ?_, ?_, ?_⟩
      · intro untouched
        simp [withCleaner, cleanup] at untouched
      · simp only [withCleaner, advance.container_eq]
        exact cleaned.pauseNamed
      · intro _
        by_cases due : state.pauseCleaner.stage = .stopDue
        · have others := allowed due
          simp only [mayClean, List.all_eq_true, decide_eq_true_eq] at others
          exact others
        · exact cleaned.pauseLast due
      · intro result finished
        exact absurd finished (incomplete result)
  | application index =>
      simp only [cleaner?] at current
      refine ⟨?_, ?_, cleaned.pauseNamed, ?_, ?_⟩
      · intro untouched
        simp [withCleaner, cleanup] at untouched
      · intro _
        rw [withCleaner_containers current advance.container_eq]
        exact cleaned.named cleanup
      · intro begun
        have earlier := cleaned.pauseLast begun cleaner (List.mem_of_getElem? current)
        exact absurd earlier advance.not_cleaned
      · intro result finished
        exact absurd finished (incomplete result)

theorem step (cleaned : state.Cleaned) (transition : Transition state event next) :
    next.Cleaned := by
  cases transition with
  | call target due => exact cleaned.of_eq rfl rfl rfl rfl (withCall_applications _ _ _)
  | callReturns target result running =>
      exact cleaned.of_eq rfl rfl rfl rfl (withCall_applications _ _ _)
  | confirmed polling =>
      exact cleaned.of_untouched rfl (by simp [polling, Stage.isCleanup])
        (Stage.isCleanup_startingWith _) rfl rfl
  | launch application rest launching =>
      exact cleaned.of_untouched rfl (by simp [launching, Stage.isCleanup])
        (Stage.isCleanup_startingWith _) rfl rfl
  | pauseEndsEarly result returned startup =>
      refine cleaned.of_untouched rfl ?_ rfl rfl rfl
      cases stage : state.stage <;> simp_all [Stage.isStartup, Stage.isCleanup]
  | close result closing settled =>
      have fresh := cleaned.untouched (by simp [closing, Stage.isCleanup])
      refine ⟨?_, ?_, cleaned.pauseNamed, ?_, ?_⟩
      · simp [record, Stage.isCleanup]
      · intro _
        simp only [record, List.map_map]
        rfl
      · simp [record, cancelBy, fresh.2]
      · simp [record]
  | clean target result cleaner after event occurrences cleaning current allowed advance =>
      exact (cleaned.clean cleaning current allowed advance).of_eq rfl rfl rfl rfl rfl
  | finish result cleaning done =>
      have cleanup : state.stage.isCleanup := by simp [cleaning, Stage.isCleanup]
      refine ⟨?_, fun _ => cleaned.named cleanup, cleaned.pauseNamed, cleaned.pauseLast,
        fun _ _ => done⟩
      simp [record, Stage.isCleanup]
  | interrupt listening => exact cleaned.of_eq rfl rfl rfl rfl rfl
  | cancel interrupting => exact cleaned.of_eq rfl rfl rfl rfl rfl
  | retire listening cancelled => exact cleaned.of_eq rfl rfl rfl rfl rfl
  | _ =>
      refine cleaned.of_untouched rfl ?_ ?_ rfl rfl <;>
        simp_all [Stage.isCleanup, record, abandon, fail, cancelBy, withCall]

end Cleaned

end State

namespace Reaches

variable {plan : Plan} {events : List Event} {state : State}

theorem started (path : Reaches plan events state) : state.Started :=
  path.invariant State.Started (State.started_initial plan)
    fun _ _ _ _ _ holds transition => holds.step transition

theorem cleaned (path : Reaches plan events state) : state.Cleaned :=
  path.invariant State.Cleaned (State.cleaned_initial plan)
    fun _ _ _ _ _ holds transition => holds.step transition

end Reaches

end Workload.Run
