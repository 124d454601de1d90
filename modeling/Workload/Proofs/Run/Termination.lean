import Mathlib.Algebra.Ring.Nat
import Workload.Proofs.Run.Containers

/-!
# Every run can end

Apart from the answers that leave open whether the pause container will run, every event brings a
run closer to its end: `State.work` decreases. A run that is not finished can always go on, so no
interleaving is a dead end, and only polling can make it last for ever.
-/

namespace Workload.Run

/-- How many events the call of a container has before it. -/
def Call.work : Call → Nat
  | .due => 3
  | .running => 2
  | .returned _ => 1
  | .noticed => 0

/-- How many events the cleanup of a container has before it. -/
def CleanupStage.work : CleanupStage → Nat
  | .stopDue => 4
  | .stopping => 3
  | .removeDue => 2
  | .removing => 1
  | .cleaned => 0

/-- How many events the watcher has before it at most. -/
def watcherWork : Watcher → Nat
  | .listening => 2
  | .interrupting => 1
  | .ended => 0

/-- An answer from which the run goes on to poll again. -/
def Event.isInconclusive : Event → Bool
  | .pollAnswers answer => Run.isInconclusive answer
  | _ => false

namespace State

/-- The events that the stage of a run leaves to come, with those of cleanups that are not due. -/
def stageWork (state : State) : Nat :=
  match state.stage with
  | .ready => 8 * state.plan.applications.length + 4 * state.launched.length + 18
  | .waiting => 8 * state.plan.applications.length + 4 * state.launched.length + 14
  | .pollDue => 8 * state.plan.applications.length + 4 * state.launched.length + 13
  | .polling => 8 * state.plan.applications.length + 4 * state.launched.length + 12
  | .abandoning _ => 4 * state.launched.length + 8
  | .launching _ rest => 8 * (rest.length + 1) + 4 * state.launched.length + 9
  | .supervising => 4 * state.launched.length + 9
  | .draining => 4 * state.launched.length + 8
  | .closing _ => 4 * state.launched.length + 7
  | .cleaning _ => (state.cleanups.map fun cleaner => cleaner.stage.work).sum + 1
  | .finished _ => 0

/-- The events that the calls of the started containers leave to come. -/
def callWork (state : State) : Nat :=
  (state.runs.map fun run => run.2.work).sum

/-- A bound for the events of a run that are still to come, polling again apart. -/
def work (state : State) : Nat :=
  state.stageWork + state.callWork + watcherWork state.watcher + (!state.cancelling).toNat

variable {state next : State} {event : Event}

theorem work_record (state : State) (occurrences : List Occurrence) :
    (state.record occurrences).work = state.work :=
  rfl

theorem work_fail (state : State) (fault : RunError) : (state.fail fault).work = state.work :=
  rfl

theorem callWork_launch (state : State) (application : Application) :
    State.callWork { state with
      launched := state.launched ++ [Launched.mk application .due] } = state.callWork + 3 := by
  simp [callWork, runs_launch, Call.work]

theorem stageWork_proceed (state : State) (rest : List Application) :
    (state.proceed rest).stageWork = 8 * rest.length + 4 * state.launched.length + 9 := by
  cases rest <;> simp [stageWork, proceed, record, Stage.startingWith]

theorem stageWork_withCall (state : State) (target : Target) (call : Call) :
    (state.withCall target call).stageWork = state.stageWork := by
  have unchanged : (state.withCall target call).launched.length = state.launched.length := by
    cases target <;> simp [withCall]
  simp only [stageWork, unchanged]
  rfl

theorem work_withCall_lt {target : Target} {old new : Call}
    (current : state.call? target = some old) (less : new.work < old.work) :
    (state.withCall target new).work < state.work := by
  rcases exists_runs_split current with ⟨before, after, split, replaced⟩
  have calls : (state.withCall target new).callWork + old.work = state.callWork + new.work := by
    simp only [callWork, split, replaced, List.map_append, List.map_cons, List.sum_append,
      List.sum_cons]
    omega
  have rest : (state.withCall target new).work = (state.withCall target new).stageWork +
      (state.withCall target new).callWork + watcherWork state.watcher +
        (!state.cancelling).toNat := rfl
  rw [rest, stageWork_withCall, work]
  omega

theorem work_lt_of_stageWork_lt (stage : next.stageWork < state.stageWork)
    (runs : next.runs = state.runs) (watcher : watcherWork next.watcher ≤ watcherWork state.watcher)
    (cancelling : next.cancelling = state.cancelling) : next.work < state.work := by
  simp only [work, callWork, runs, cancelling]
  omega

theorem work_lt_of_watcherWork_lt (stage : next.stageWork = state.stageWork)
    (runs : next.runs = state.runs) (watcher : watcherWork next.watcher < watcherWork state.watcher)
    (cancelling : next.cancelling = state.cancelling) : next.work < state.work := by
  simp only [work, callWork, stage, runs, cancelling]
  omega

theorem work_abandon_lt (startup : state.stage.isStartup) (fault : RunError) :
    (state.abandon fault).work < state.work := by
  refine work_lt_of_stageWork_lt ?_ rfl (Nat.le_refl _) rfl
  cases stage : state.stage <;>
    simp_all [stageWork, Stage.isStartup, abandon, record, cancelBy] <;> omega

theorem cleanupWork_withCleaner_lt {target : Target} {old new : Cleaner}
    (current : state.cleaner? target = some old) (less : new.stage.work < old.stage.work) :
    ((state.withCleaner target new).cleanups.map fun cleaner => cleaner.stage.work).sum <
      (state.cleanups.map fun cleaner => cleaner.stage.work).sum := by
  rcases exists_cleanups_split current with ⟨before, after, split, replaced⟩
  rw [split, replaced]
  simp only [List.map_append, List.map_cons, List.sum_append, List.sum_cons]
  omega

theorem cleanupWork_le (launched : List Launched) (pauseCleaner : Cleaner) :
    ((launched.map Launched.cleaner ++ [pauseCleaner]).map fun cleaner =>
      cleaner.stage.work).sum ≤ 4 * launched.length + 4 := by
  induction launched with
  | nil => cases stage : pauseCleaner.stage <;> simp [CleanupStage.work, stage]
  | cons head tail hypothesis =>
      simp only [List.map_cons, List.cons_append, List.sum_cons, Launched.cleaner,
        List.length_cons, CleanupStage.work] at hypothesis ⊢
      omega

end State

theorem Cleaner.Advance.work_lt {target : Target} {cleaner after : Cleaner} {event : Event}
    {occurrences : List Occurrence} (advance : cleaner.Advance target event after occurrences) :
    after.stage.work < cleaner.stage.work := by
  cases advance <;> simp_all [CleanupStage.work]

namespace Transition

open State

variable {state next : State} {event : Event}

/-- Every event but an inconclusive answer brings the end of the run closer. -/
theorem work_lt (transition : Transition state event next)
    (idle : state.stage = .ready → state.pause = none)
    (conclusive : event.isInconclusive = false) : next.work < state.work := by
  cases transition with
  | begin ready =>
      simp [work, stageWork, callWork, runs, ready, record, idle ready, Call.work]
      omega
  | call target due =>
      rw [work_record]
      exact work_withCall_lt due (by simp [Call.work])
  | callReturns target result running =>
      rw [work_record]
      exact work_withCall_lt running (by simp [Call.work])
  | poll due =>
      exact work_lt_of_stageWork_lt (by simp [stageWork, due, record]) rfl (Nat.le_refl _) rfl
  | confirmed polling =>
      refine work_lt_of_stageWork_lt ?_ rfl (Nat.le_refl _) rfl
      rw [State.confirm, stageWork_proceed]
      simp [stageWork, polling, record]
  | inconclusive answer unclear polling =>
      simp [Event.isInconclusive, unclear] at conclusive
  | pollFails fault _ polling =>
      exact work_abandon_lt (by simp [polling, record, Stage.isStartup]) _
  | pollAgain waiting =>
      exact work_lt_of_stageWork_lt (by simp [stageWork, waiting]) rfl (Nat.le_refl _) rfl
  | stopPolling waiting cancelled => exact work_abandon_lt (by simp [waiting, Stage.isStartup]) _
  | launch application rest launching =>
      have now : state.stageWork = 8 * (rest.length + 1) + 4 * state.launched.length + 9 := by
        simp [stageWork, launching]
      have calls := callWork_launch state application
      simp only [work, stageWork_proceed, now]
      change _ + State.callWork { state with
        launched := state.launched ++ [Launched.mk application .due] } + _ + _ < _
      rw [calls]
      simp [proceed, record]
      omega
  | pauseEndsEarly result returned startup =>
      have current : state.call? .pause = some (.returned result) := returned
      have early : (state.withCall .pause .noticed).stage.isStartup := startup
      exact Nat.lt_trans (work_abandon_lt early _)
        (work_withCall_lt current (by simp [Call.work]))
  | pauseEnds result returned supervising =>
      have current : state.call? .pause = some (.returned result) := returned
      rw [work_fail]
      exact work_withCall_lt current (by simp [Call.work])
  | applicationEnds index application returned supervising =>
      rw [work_record]
      exact work_withCall_lt (call?_application returned) (by simp [Call.work])
  | applicationFails index application fault returned supervising =>
      rw [work_fail]
      exact work_withCall_lt (call?_application returned) (by simp [Call.work])
  | noticeCancellation supervising cancelled first =>
      have stage : { state with cancelling := true }.stageWork = state.stageWork := rfl
      have calls : { state with cancelling := true }.callWork = state.callWork := rfl
      rw [work_record, work, work, stage, calls, first]
      simp
  | noticeAllEnded supervising ended =>
      exact work_lt_of_stageWork_lt (by simp [stageWork, supervising, record, cancelBy]) rfl
        (Nat.le_refl _) rfl
  | abandoned fault abandoning returned =>
      exact work_lt_of_stageWork_lt (by simp [stageWork, abandoning]) rfl (Nat.le_refl _) rfl
  | drained draining returned =>
      exact work_lt_of_stageWork_lt (by simp [stageWork, draining]) rfl (Nat.le_refl _) rfl
  | close result closing settled =>
      have bound := cleanupWork_le state.launched state.pauseCleaner
      refine work_lt_of_stageWork_lt ?_ rfl (by simp [watcherWork, record]) rfl
      simp only [stageWork, closing, record, cancelBy, cleanups]
      omega
  | clean target result cleaner after event occurrences cleaning current allowed advance =>
      have less := cleanupWork_withCleaner_lt current advance.work_lt
      rw [work_record]
      refine work_lt_of_stageWork_lt ?_ rfl (Nat.le_refl _) rfl
      have later : (state.withCleaner target after).stage = .cleaning result := cleaning
      simp only [stageWork, cleaning, later]
      omega
  | finish result cleaning cleaned =>
      exact work_lt_of_stageWork_lt (by simp [stageWork, cleaning, record]) rfl (Nat.le_refl _) rfl
  | interrupt listening =>
      exact work_lt_of_watcherWork_lt rfl rfl (by simp [watcherWork, listening, record]) rfl
  | cancel interrupting =>
      exact work_lt_of_watcherWork_lt rfl rfl (by simp [watcherWork, interrupting]) rfl
  | retire listening cancelled =>
      exact work_lt_of_watcherWork_lt rfl rfl (by simp [watcherWork, listening]) rfl

theorem work_le (transition : Transition state event next) (started : state.Started) :
    next.work + 1 ≤ state.work + if event.isInconclusive then 3 else 0 := by
  cases inconclusive : event.isInconclusive with
  | false => exact transition.work_lt started.idle inconclusive
  | true =>
      cases transition with
      | inconclusive answer unclear polling =>
          simp [work, stageWork, callWork, runs, polling, record]
          omega
      | clean target result cleaner after event occurrences cleaning current allowed advance =>
          cases advance <;> simp [Event.isInconclusive] at inconclusive
      | _ => simp_all [Event.isInconclusive, Run.isInconclusive]

end Transition

namespace State

variable {state : State}

/-- A call that has not returned can go on. -/
theorem exists_call_transition {target : Target} {call : Call}
    (current : state.call? target = some call) (active : call.hasReturned = false) :
    ∃ event next, event.isInconclusive = false ∧ Transition state event next := by
  cases call with
  | due => exact ⟨_, _, rfl, .call target current⟩
  | running => exact ⟨_, _, rfl, .callReturns target (.ok ()) current⟩
  | returned result => simp [Call.hasReturned] at active
  | noticed => simp [Call.hasReturned] at active

/-- The call of the pause container can go on until it has returned. -/
theorem exists_pause_transition (waiting : state.pause.all Call.hasReturned = false) :
    ∃ event next, event.isInconclusive = false ∧ Transition state event next := by
  cases pause : state.pause with
  | none => simp [pause] at waiting
  | some call =>
      have current : state.call? .pause = some call := pause
      exact exists_call_transition current (by simpa [pause] using waiting)

/-- An application whose end was not noticed can go on while the run supervises it. -/
theorem exists_application_transition (supervising : state.stage = .supervising) {index : Nat}
    {launched : Launched} (found : state.launched[index]? = some launched)
    (unseen : launched.call.wasNoticed = false) :
    ∃ event next, event.isInconclusive = false ∧ Transition state event next := by
  cases launched with
  | mk application call =>
      cases call with
      | due => exact exists_call_transition (call?_application found) rfl
      | running => exact exists_call_transition (call?_application found) rfl
      | returned result =>
          cases result with
          | ok => exact ⟨_, _, rfl, .applicationEnds index application found supervising⟩
          | error fault =>
              exact ⟨_, _, rfl, .applicationFails index application fault found supervising⟩
      | noticed => simp [Call.wasNoticed] at unseen

/-- A cleanup that may begin can go on until it is done. -/
theorem exists_cleanup_transition {target : Target} {cleaner : Cleaner}
    {result : Option RunError} (cleaning : state.stage = .cleaning result)
    (current : state.cleaner? target = some cleaner) (allowed : state.mayClean target)
    (undone : cleaner.stage ≠ .cleaned) :
    ∃ event next, event.isInconclusive = false ∧ Transition state event next := by
  have advance : ∃ event after occurrences,
      event.isInconclusive = false ∧ cleaner.Advance target event after occurrences := by
    cases stage : cleaner.stage with
    | stopDue => exact ⟨_, _, _, rfl, .stop stage⟩
    | stopping => exact ⟨_, _, _, rfl, .stopAnswers (.ok ()) stage⟩
    | removeDue => exact ⟨_, _, _, rfl, .remove stage⟩
    | removing => exact ⟨_, _, _, rfl, .removeAnswers (.ok ()) stage⟩
    | cleaned => exact absurd stage undone
  rcases advance with ⟨event, after, occurrences, conclusive, advance⟩
  exact ⟨event, _, conclusive, .clean target result cleaner after event occurrences cleaning current
    (fun _ => allowed) advance⟩

/-- A run that is not finished can go on, and without polling again. -/
theorem exists_transition (unfinished : state.result? = none) :
    ∃ event next, event.isInconclusive = false ∧ Transition state event next := by
  cases stage : state.stage with
  | ready => exact ⟨_, _, rfl, .begin stage⟩
  | pollDue => exact ⟨_, _, rfl, .poll stage⟩
  | polling => exact ⟨_, _, rfl, .confirmed stage⟩
  | waiting => exact ⟨_, _, rfl, .pollAgain stage⟩
  | abandoning fault =>
      cases returned : state.pause.all Call.hasReturned with
      | true => exact ⟨_, _, rfl, .abandoned fault stage returned⟩
      | false => exact exists_pause_transition returned
  | launching next rest => exact ⟨_, _, rfl, .launch next rest stage⟩
  | supervising =>
      cases ended : state.launched.all fun launched => launched.call.wasNoticed with
      | true => exact ⟨_, _, rfl, .noticeAllEnded stage ended⟩
      | false =>
          simp only [List.all_eq_false, Bool.not_eq_true] at ended
          rcases ended with ⟨launched, member, unseen⟩
          rcases List.getElem?_of_mem member with ⟨index, found⟩
          exact exists_application_transition stage found unseen
  | draining =>
      cases returned : state.pause.all Call.hasReturned with
      | true => exact ⟨_, _, rfl, .drained stage returned⟩
      | false => exact exists_pause_transition returned
  | closing result =>
      by_cases interrupting : state.watcher = .interrupting
      · exact ⟨_, _, rfl, .cancel interrupting⟩
      · exact ⟨_, _, rfl, .close result stage interrupting⟩
  | cleaning result =>
      cases others : state.mayClean .pause with
      | true =>
          by_cases done : state.pauseCleaner.stage = .cleaned
          · exact ⟨_, _, rfl, .finish result stage done⟩
          · have current : state.cleaner? .pause = some state.pauseCleaner := rfl
            exact exists_cleanup_transition stage current others done
      | false =>
          simp only [mayClean, List.all_eq_false, decide_eq_true_eq] at others
          rcases others with ⟨cleaner, member, undone⟩
          rcases List.getElem?_of_mem member with ⟨index, found⟩
          have current : state.cleaner? (.application index) = some cleaner := found
          exact exists_cleanup_transition stage current rfl undone
  | finished result => simp [result?, stage] at unfinished

/-- Where every event keeps that a run has called nothing while it is ready, it can come to its end. -/
theorem exists_completion_of {Holds : State → Prop}
    (kept : ∀ {state event next}, Holds state → Transition state event next → Holds next)
    (idle : ∀ {state}, Holds state → state.stage = .ready → state.pause = none)
    {state : State} (holds : Holds state) :
    ∃ events final result, follow step state events = some final ∧
      final.result? = some result := by
  cases ended : state.result? with
  | some result => exact ⟨[], state, result, rfl, ended⟩
  | none =>
      rcases exists_transition ended with ⟨event, next, conclusive, transition⟩
      have closer : next.work < state.work := transition.work_lt (idle holds) conclusive
      rcases exists_completion_of kept idle (kept holds transition) with
        ⟨events, final, result, path, finished⟩
      refine ⟨event :: events, final, result, ?_, finished⟩
      exact follow_cons_eq_some.mpr ⟨next, step_of_transition transition, path⟩
termination_by state.work

/-- Whatever has happened, a run can still come to its end. -/
theorem exists_completion {state : State} (started : state.Started) :
    ∃ events final result, follow step state events = some final ∧
      final.result? = some result :=
  exists_completion_of Started.step Started.idle started

end State

namespace Reaches

variable {plan : Plan} {events : List Event} {state : State}

/-- Only polling can make a run last: without it, the length of a run is bounded by its plan. -/
theorem length_le (path : Reaches plan events state) :
    events.length ≤
      8 * plan.applications.length + 21 + 3 * events.countP Event.isInconclusive := by
  have bound : events.length + state.work ≤
      (State.initial plan).work + 3 * events.countP Event.isInconclusive := by
    apply path.induction fun events state => events.length + state.work ≤
      (State.initial plan).work + 3 * events.countP Event.isInconclusive
    · simp
    · intro events state event next before holds transition
      have less := transition.work_le before.started
      simp only [List.length_append, List.length_singleton, List.countP_append,
        List.countP_singleton]
      split at less <;> simp_all <;> omega
  have start : (State.initial plan).work = 8 * plan.applications.length + 21 := by
    simp [State.work, State.stageWork, State.callWork, State.runs, State.initial, watcherWork]
  omega

end Reaches

end Workload.Run
