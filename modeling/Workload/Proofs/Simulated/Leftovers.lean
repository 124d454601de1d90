import Workload.Proofs.Run.Attempted
import Workload.Proofs.Run.Interrupt
import Workload.Proofs.Simulated.Rehearsal

/-!
# A run leaves nothing behind

On a simulated host that refuses neither to stop nor to remove, a container exists if it was there
before or was created, and its cleanup is not over. Since cleanup begins when all calls are made,
its steps find their container exactly if one of both is so, whatever the order of events; the
failures of a cleanup are then known from its stage.
-/

namespace Workload

/-- The part of a result that is about the cleanup. -/
def RunError.cleanupPart : Option RunError → List CleanupFailure
  | some (.aggregate _ cleanup) => cleanup
  | _ => []

theorem RunError.cleanupPart_combine {run : Option RunError}
    (single : ∀ fault, run = some fault → fault.isAggregate = false)
    (failures : List CleanupFailure) : (cleanupPart (combine run failures)).Perm failures := by
  rw [combine]
  split
  · rename_i none
    rw [List.isEmpty_iff.mp none]
    cases run with
    | none => exact List.Perm.nil
    | some fault =>
        have plain := single fault rfl
        cases fault <;> simp_all [cleanupPart, isAggregate]
  · exact List.mergeSort_perm failures _

/-- The steps of a cleanup that are over at a stage, all of them failed for want of a container. -/
def Run.CleanupStage.vainSteps (container : String) : Run.CleanupStage → List CleanupFailure
  | .stopDue => []
  | .stopping => []
  | .removeDue => [⟨container, .stop, .noSuchContainer container⟩]
  | .removing => [⟨container, .stop, .noSuchContainer container⟩]
  | .cleaned =>
      [⟨container, .stop, .noSuchContainer container⟩,
        ⟨container, .remove, .noSuchContainer container⟩]

end Workload

namespace Workload.Simulated

open Run (Target Cleaner)

/-- Once the call of the named container was made, there is such a container. -/
def Host.provides (host : Host) (start : Host.State) (name : String) : Bool :=
  name ∈ start.existing || !host.neverCreates name

/-- What the host and the cleanups have come to since the run began. -/
structure Hosted (host : Host) (start : Host.State) (rehearsal : Rehearsal) : Prop where
  sound : rehearsal.host.Sound
  existing : ∀ name, name ∈ rehearsal.host.existing ↔
    (name ∈ start.existing ∨ rehearsal.run.HasCalled name ∧ host.neverCreates name = false) ∧
      ¬ rehearsal.run.HasCleaned name
  running : ∀ name, ¬ rehearsal.run.HasCalled name →
    (name ∈ rehearsal.host.running ↔ name ∈ start.running)
  failures : ∀ cleaner ∈ rehearsal.run.cleanups, cleaner.failures =
    if host.provides start cleaner.container then [] else cleaner.stage.vainSteps cleaner.container

namespace Hosted

variable {host : Host} {start : Host.State} {rehearsal next : Rehearsal} {plan : Run.Plan}
  {runEvents : List Run.Event}

theorem initial (host : Host) (sound : start.Sound) (plan : Run.Plan) :
    Hosted host start { run := .initial plan, host := start } := by
  have uncleaned : ∀ name, ¬ (Run.State.initial plan).HasCleaned name := by
    simp [Run.State.HasCleaned, Run.State.cleanups, Run.State.initial]
  refine ⟨sound, ?_, fun _ _ => Iff.rfl, ?_⟩
  · intro name
    rw [and_iff_left (uncleaned name)]
    simp [Run.State.HasCalled, Run.State.initial]
  · simp [Run.State.cleanups, Run.State.initial, Run.CleanupStage.vainSteps]

/-- What matters of the run is which calls were made and how far the cleanups have come. -/
theorem of_eq (hosted : Hosted host start rehearsal)
    (called : ∀ name, next.run.HasCalled name ↔ rehearsal.run.HasCalled name)
    (cleanups : next.run.cleanups = rehearsal.run.cleanups) (sound : next.host.Sound)
    (existing : next.host.existing = rehearsal.host.existing)
    (running : ∀ name, ¬ rehearsal.run.HasCalled name →
      (name ∈ next.host.running ↔ name ∈ rehearsal.host.running)) :
    Hosted host start next := by
  refine ⟨sound, ?_, ?_, ?_⟩
  · intro name
    rw [existing, called, Run.State.HasCleaned, cleanups]
    exact hosted.existing name
  · intro name uncalled
    rw [called] at uncalled
    exact (running name uncalled).trans (hosted.running name uncalled)
  · rw [cleanups]
    exact hosted.failures

/-- A call that is made, whether or not it creates its container. -/
theorem call (hosted : Hosted host start rehearsal)
    (path : Run.Reaches plan runEvents rehearsal.run) {target : Target}
    {specification : Container.Specification} {called : Run.State}
    (named : specification.container = rehearsal.run.containerOf target)
    (moved : Run.Transition rehearsal.run (.call target) called) :
    Hosted host start
      { rehearsal with run := called, host := (rehearsal.host.begin host specification).1 } := by
  have cleanups : called.cleanups = rehearsal.run.cleanups := moved.cleanups_eq rfl
  have before := path.not_isCleanup_of_active moved.due_of_call rfl
  have uncleaned : ∀ name, ¬ called.HasCleaned name := by
    intro name
    rw [Run.State.HasCleaned, cleanups]
    exact path.not_hasCleaned before name
  have calledIff : ∀ name, called.HasCalled name ↔
      rehearsal.run.HasCalled name ∨ name = specification.container := by
    intro name
    rw [moved.hasCalled_iff, named]
    simp
  refine ⟨hosted.sound.begin host specification, ?_, ?_, ?_⟩
  · intro name
    have earlier := hosted.existing name
    rw [and_iff_left (path.not_hasCleaned before name)] at earlier
    rw [and_iff_left (uncleaned name), calledIff, Host.State.begin_existing]
    -- A container that is never created counts as called, but not as one that exists.
    cases never : host.neverCreates specification.container with
    | true =>
        rw [if_pos rfl, earlier]
        by_cases same : name = specification.container <;> simp_all
    | false =>
        rw [if_neg Bool.false_ne_true, Host.mem_addName, earlier]
        by_cases same : name = specification.container <;> simp_all
  · intro name uncalled
    simp only [calledIff, not_or] at uncalled
    rw [← hosted.running name uncalled.1, Host.State.begin_running]
    split <;> simp [uncalled.2]
  · rw [cleanups]
    exact hosted.failures

theorem callReturns (hosted : Hosted host start rehearsal) {target : Target}
    {result : Except EngineError Unit} {returned : Run.State}
    (moved : Run.Transition rehearsal.run (.callReturns target result) returned) :
    Hosted host start { rehearsal with run := returned } :=
  hosted.of_eq (moved.hasCalled_eq (by simp)) (moved.cleanups_eq rfl) hosted.sound rfl
    fun _ _ => Iff.rfl

/-- A step of a cleanup, of which the answer of the host tells the outcome. -/
theorem clean (hosted : Hosted host start rehearsal) {target : Target} {cleaner after : Cleaner}
    (current : rehearsal.run.cleaner? target = some cleaner)
    (undone : cleaner.stage ≠ .cleaned)
    (called : ∀ name, next.run.HasCalled name ↔ rehearsal.run.HasCalled name)
    (cleanups : next.run.cleanups = (rehearsal.run.withCleaner target after).cleanups)
    (same : after.container = cleaner.container) (sound : next.host.Sound)
    (existing : ∀ name, name ∈ next.host.existing ↔
      name ∈ rehearsal.host.existing ∧ ¬ (after.stage = .cleaned ∧ name = cleaner.container))
    (running : ∀ name, ¬ rehearsal.run.HasCalled name →
      (name ∈ next.host.running ↔ name ∈ rehearsal.host.running))
    (failures : after.failures =
      if host.provides start cleaner.container then []
      else after.stage.vainSteps cleaner.container) :
    Hosted host start next := by
  refine ⟨sound, ?_, ?_, ?_⟩
  · intro name
    have cleaned : next.run.HasCleaned name ↔
        (rehearsal.run.withCleaner target after).HasCleaned name := by
      rw [Run.State.HasCleaned, cleanups, Run.State.HasCleaned]
    rw [existing, hosted.existing, called, cleaned,
      Run.State.hasCleaned_withCleaner current same undone, not_or, and_assoc]
  · intro name uncalled
    rw [called] at uncalled
    exact (running name uncalled).trans (hosted.running name uncalled)
  · intro other member
    rw [cleanups] at member
    rcases Run.State.mem_cleanups_withCleaner current member with earlier | rfl
    · exact hosted.failures other earlier
    · rw [same]
      exact failures

/-- When cleanup begins nothing is cleaned up, as before. -/
theorem cleanupBegins (hosted : Hosted host start rehearsal)
    (path : Run.Reaches plan runEvents rehearsal.run) {run : Run.State}
    (before : rehearsal.run.stage.isCleanup = false)
    (called : ∀ name, run.HasCalled name ↔ rehearsal.run.HasCalled name)
    (due : ∀ cleaner ∈ run.cleanups, cleaner.stage = .stopDue ∧ cleaner.failures = []) :
    Hosted host start { rehearsal with run } := by
  have uncleaned : ∀ name, ¬ run.HasCleaned name := by
    rintro name ⟨cleaner, member, _, done⟩
    rw [(due cleaner member).1] at done
    cases done
  refine ⟨hosted.sound, ?_, ?_, ?_⟩
  · intro name
    have earlier := hosted.existing name
    rw [and_iff_left (path.not_hasCleaned before name)] at earlier
    rw [and_iff_left (uncleaned name), called]
    exact earlier
  · intro name uncalled
    rw [called] at uncalled
    exact hosted.running name uncalled
  · intro cleaner member
    rw [(due cleaner member).1, (due cleaner member).2]
    simp [Run.CleanupStage.vainSteps]

/-- An event of the run alone. -/
theorem own (hosted : Hosted host start rehearsal)
    (path : Run.Reaches plan runEvents rehearsal.run) {event : Run.Event} {run : Run.State}
    (free : Rehearsal.involvesHost event = false)
    (moved : Run.Transition rehearsal.run event run) :
    Hosted host start { rehearsal with run } := by
  have called : ∀ name, run.HasCalled name ↔ rehearsal.run.HasCalled name := by
    apply moved.hasCalled_eq
    rintro target rfl
    cases free
  rcases moved.cleanups_cases with still | ⟨before, begun⟩ |
    ⟨target, cleaner, after, occurrences, _, current, advance, cleanups⟩
  · exact hosted.of_eq called still hosted.sound rfl fun _ _ => Iff.rfl
  · refine hosted.cleanupBegins path before called ?_
    have fresh := (path.cleaned.untouched before).2
    intro cleaner member
    rw [begun, fresh, List.mem_append, List.mem_map, List.mem_singleton] at member
    rcases member with ⟨launched, _, rfl⟩ | rfl <;> exact ⟨rfl, rfl⟩
  · have failures := hosted.failures cleaner (Run.State.mem_cleanups current)
    -- The other two steps of a cleanup are answers of the host.
    cases advance with
    | stop due =>
        rw [due] at failures
        exact hosted.clean current (by simp [due]) called cleanups rfl hosted.sound (by simp)
          (fun _ _ => Iff.rfl) failures
    | remove due =>
        rw [due] at failures
        exact hosted.clean current (by simp [due]) called cleanups rfl hosted.sound (by simp)
          (fun _ _ => Iff.rfl) failures
    | stopAnswers result stopping => cases free
    | removeAnswers result removing => cases free

/-- As long as its cleanup is not over, a container is there if the host provides it. -/
theorem mem_existing_iff (hosted : Hosted host start rehearsal)
    (path : Run.Reaches plan runEvents rehearsal.run) (distinct : plan.containerNames.Nodup)
    (cleanup : rehearsal.run.stage.isCleanup) {target : Target} {cleaner : Cleaner}
    (current : rehearsal.run.cleaner? target = some cleaner) (undone : cleaner.stage ≠ .cleaned) :
    cleaner.container ∈ rehearsal.host.existing ↔ host.provides start cleaner.container := by
  have names := Run.State.cleanups_names_nodup path.started path.cleaned
    (path.plan_eq ▸ distinct)
  have called : rehearsal.run.HasCalled cleaner.container :=
    path.hasCalled_of_cleaner distinct cleanup current
  rw [hosted.existing, and_iff_left (Run.State.not_hasCleaned_of_cleaner names current undone)]
  simp [Host.provides, called]

/-- The host answers a step of a cleanup: it fails if there is no such container. -/
theorem answered (hosted : Hosted host start rehearsal)
    (path : Run.Reaches plan runEvents rehearsal.run) (distinct : plan.containerNames.Nodup)
    (cleanup : rehearsal.run.stage.isCleanup) {target : Target} {cleaner after : Cleaner}
    (current : rehearsal.run.cleaner? target = some cleaner) (undone : cleaner.stage ≠ .cleaned)
    (called : ∀ name, next.run.HasCalled name ↔ rehearsal.run.HasCalled name)
    (cleanups : next.run.cleanups = (rehearsal.run.withCleaner target after).cleanups)
    (same : after.container = cleaner.container) (sound : next.host.Sound)
    (existing : ∀ name, name ∈ next.host.existing ↔
      name ∈ rehearsal.host.existing ∧ ¬ (after.stage = .cleaned ∧ name = cleaner.container))
    (running : ∀ name, name ∈ next.host.running ↔
      name ∈ rehearsal.host.running ∧ name ≠ cleaner.container)
    {step : CleanupStep} {result : Except EngineError Unit}
    (answer : result = if cleaner.container ∈ rehearsal.host.existing then .ok ()
      else .error (.noSuchContainer cleaner.container))
    (failures : after.failures =
      cleaner.failures ++ Run.stepFailures cleaner.container step result)
    (vain : after.stage.vainSteps cleaner.container =
      cleaner.stage.vainSteps cleaner.container ++
        [⟨cleaner.container, step, .noSuchContainer cleaner.container⟩]) :
    Hosted host start next := by
  have there := hosted.mem_existing_iff path distinct cleanup current undone
  have earlier := hosted.failures cleaner (Run.State.mem_cleanups current)
  refine hosted.clean current undone called cleanups same sound existing ?_ ?_
  · intro name uncalled
    have apart : name ≠ cleaner.container := by
      rintro rfl
      exact uncalled (path.hasCalled_of_cleaner distinct cleanup current)
    rw [running, and_iff_left apart]
  · rw [failures, answer, earlier, vain]
    by_cases provided : host.provides start cleaner.container <;>
      simp [there, provided, Run.stepFailures]

theorem stopAnswers (hosted : Hosted host start rehearsal)
    (path : Run.Reaches plan runEvents rehearsal.run) (distinct : plan.containerNames.Nodup)
    (stoppable : host.stopFailures = []) {target : Target} {cleaner : Cleaner} {run : Run.State}
    (current : rehearsal.run.cleaner? target = some cleaner)
    (moved : Run.Transition rehearsal.run
      (.stopAnswers target (rehearsal.host.stop host cleaner.container).2) run) :
    Hosted host start
      { rehearsal with run, host := (rehearsal.host.stop host cleaner.container).1 } := by
  rcases moved.stopped_of_stopAnswers current with ⟨cleanup, stopping, cleanups⟩
  have existing : ∀ name, name ∈ (rehearsal.host.stop host cleaner.container).1.existing ↔
      name ∈ rehearsal.host.existing ∧ ¬ (Run.CleanupStage.removeDue = .cleaned ∧
        name = cleaner.container) := by
    simp [Host.State.stop_existing]
  exact hosted.answered path distinct cleanup current (by simp [stopping])
    (moved.hasCalled_eq (by simp)) cleanups rfl (hosted.sound.stop host _) existing
    (fun _ => hosted.sound.mem_running_stop stoppable) (Host.State.stop_result stoppable ..) rfl
    (by simp [stopping, Run.CleanupStage.vainSteps])

theorem removeAnswers (hosted : Hosted host start rehearsal)
    (path : Run.Reaches plan runEvents rehearsal.run) (distinct : plan.containerNames.Nodup)
    (removable : host.removeFailures = []) {target : Target} {cleaner : Cleaner} {run : Run.State}
    (current : rehearsal.run.cleaner? target = some cleaner)
    (moved : Run.Transition rehearsal.run
      (.removeAnswers target (rehearsal.host.remove host cleaner.container).2) run) :
    Hosted host start
      { rehearsal with run, host := (rehearsal.host.remove host cleaner.container).1 } := by
  rcases moved.removed_of_removeAnswers current with ⟨cleanup, removing, cleanups⟩
  have existing : ∀ name, name ∈ (rehearsal.host.remove host cleaner.container).1.existing ↔
      name ∈ rehearsal.host.existing ∧ ¬ (Run.CleanupStage.cleaned = .cleaned ∧
        name = cleaner.container) := by
    simp [Host.State.mem_existing_remove removable]
  exact hosted.answered path distinct cleanup current (by simp [removing])
    (moved.hasCalled_eq (by simp)) cleanups rfl (hosted.sound.remove host _) existing
    (fun _ => hosted.sound.mem_running_remove removable) (Host.State.remove_result removable ..)
    rfl (by simp [removing, Run.CleanupStage.vainSteps])

theorem step (hosted : Hosted host start rehearsal)
    (path : Run.Reaches plan runEvents rehearsal.run) (distinct : plan.containerNames.Nodup)
    (stoppable : host.stopFailures = []) (removable : host.removeFailures = [])
    {event : Rehearsal.Event} (act : Rehearsal.Act host rehearsal event next) :
    Hosted host start next := by
  cases act with
  | own event run free moved => exact hosted.own path free moved
  | create target specification called named moved creates => exact hosted.call path named moved
  | refuse target specification called returned result named moved onward never =>
      exact (hosted.call path named moved).callReturns onward
  | ends target returned result moved =>
      have called := path.hasCalled_of_running distinct moved.running_of_callReturns
      refine (hosted.callReturns moved).of_eq (fun _ => Iff.rfl) rfl (hosted.sound.ends _) rfl ?_
      intro name uncalled
      have apart : name ≠ rehearsal.run.containerOf target := by
        rintro rfl
        exact uncalled ((moved.hasCalled_iff _).mpr (Or.inl called))
      simp [Host.State.ends, apart]
  | killed target returned result moved => exact hosted.callReturns moved
  | poll name run moved =>
      exact hosted.of_eq (moved.hasCalled_eq (by simp)) (moved.cleanups_eq rfl) hosted.sound rfl
        fun _ _ => Iff.rfl
  | stopAnswers target cleaner run current moved =>
      exact hosted.stopAnswers path distinct stoppable current moved
  | removeAnswers target cleaner run current moved =>
      exact hosted.removeAnswers path distinct removable current moved

end Hosted

namespace Rehearsal.Reaches

variable {host : Host} {plan : Run.Plan} {start : Host.State} {events : List Rehearsal.Event}
  {rehearsal : Rehearsal}

theorem hosted (path : Rehearsal.Reaches host plan start events rehearsal)
    (distinct : plan.containerNames.Nodup) (sound : start.Sound)
    (stoppable : host.stopFailures = []) (removable : host.removeFailures = []) :
    Hosted host start rehearsal := by
  apply path.invariant (Hosted host start) (Hosted.initial host sound plan)
  intro events rehearsal event next before hosted act
  rcases before.exists_run with ⟨runEvents, run⟩
  exact hosted.step run distinct stoppable removable act

end Rehearsal.Reaches

namespace Hosted

variable {host : Host} {start : Host.State} {rehearsal : Rehearsal} {plan : Run.Plan}
  {runEvents : List Run.Event} {result : Option RunError}

/-- When a run is over the containers whose call was made are those that are cleaned up. -/
theorem hasCleaned_iff_of_finished (path : Run.Reaches plan runEvents rehearsal.run)
    (distinct : plan.containerNames.Nodup) (finished : rehearsal.run.result? = some result)
    (name : String) : rehearsal.run.HasCleaned name ↔ rehearsal.run.HasCalled name := by
  have cleanup : rehearsal.run.stage.isCleanup := by
    simp [Run.State.result?_eq_some.mp finished, Run.Stage.isCleanup]
  have done := path.cleaned.all_of_finished finished
  rw [path.hasCalled_iff_of_cleanup distinct cleanup, List.mem_map]
  constructor
  · rintro ⟨cleaner, member, same, _⟩
    exact ⟨cleaner, member, same⟩
  · rintro ⟨cleaner, member, same⟩
    exact ⟨cleaner, member, same, done cleaner member⟩

/-- When a run is over, the cleanup steps that failed are those that found no container. -/
theorem cleanupFailures_of_finished (hosted : Hosted host start rehearsal)
    (path : Run.Reaches plan runEvents rehearsal.run)
    (finished : rehearsal.run.result? = some result) :
    rehearsal.run.cleanupFailures =
      (rehearsal.run.cleanups.map Cleaner.container).flatMap fun name =>
        if host.neverCreates name ∧ name ∉ start.existing then
          [⟨name, .stop, .noSuchContainer name⟩, ⟨name, .remove, .noSuchContainer name⟩]
        else [] := by
  have done := path.cleaned.all_of_finished finished
  rw [Run.State.cleanupFailures_eq, List.flatMap_map]
  apply List.flatMap_congr
  intro cleaner member
  rw [hosted.failures cleaner member, done cleaner member]
  by_cases existed : cleaner.container ∈ start.existing <;>
    cases never : host.neverCreates cleaner.container <;>
      simp [Host.provides, existed, never, Run.CleanupStage.vainSteps]

end Hosted

open Run in
/--
On a host that refuses neither to stop nor to remove, a run that is over has left no container that
it called for, and has touched no other. What it reports of its cleanup is that the containers were
not found which were never created and were not there before, once when they were to be stopped and
once when they were to be removed.
-/
theorem nothing_left_behind {host : Host} {plan : Plan} {operations : List Host.Operation}
    {events : List Rehearsal.Event} {rehearsal : Rehearsal} {result : Option RunError}
    (distinct : (plan.containers.map Prod.fst).Nodup)
    (unreserved : Identity.pauseRole ∉ plan.containers.map Prod.fst)
    (stoppable : host.stopFailures = []) (removable : host.removeFailures = [])
    (path : Rehearsal.Reaches host plan (operations.foldl host.after {}) events rehearsal)
    (finished : rehearsal.run.result? = some result) :
    .called .run plan.identity.pauseName ∈ rehearsal.run.history ∧
    (∀ name, .called .run name ∈ rehearsal.run.history →
      name ∉ rehearsal.host.existing ∧ name ∉ rehearsal.host.running) ∧
    (∀ name, .called .run name ∉ rehearsal.run.history →
      (name ∈ rehearsal.host.existing ↔ name ∈ (operations.foldl host.after {}).existing) ∧
      (name ∈ rehearsal.host.running ↔ name ∈ (operations.foldl host.after {}).running)) ∧
    ∃ attempted : List String, attempted.Nodup ∧
      (∀ name, name ∈ attempted ↔ .called .run name ∈ rehearsal.run.history) ∧
      (RunError.cleanupPart result).Perm (attempted.flatMap fun name =>
        if host.neverCreates name ∧ name ∉ (operations.foldl host.after {}).existing then
          [⟨name, .stop, .noSuchContainer name⟩, ⟨name, .remove, .noSuchContainer name⟩]
        else []) := by
  have names := Plan.containerNames_nodup distinct unreserved
  have sound := Host.State.sound_of_operations host operations
  have hosted := path.hosted names sound stoppable removable
  rcases path.exists_run with ⟨runEvents, run⟩
  have cleanup : rehearsal.run.stage.isCleanup := by
    simp [State.result?_eq_some.mp finished, Stage.isCleanup]
  have called := run.hasCalled_iff_of_cleanup names cleanup
  have cleaned := Hosted.hasCleaned_iff_of_finished run names finished
  have last : rehearsal.run.cleaner? .pause = some rehearsal.run.pauseCleaner := rfl
  refine ⟨?_, ?_, ?_, rehearsal.run.cleanups.map Cleaner.container, ?_, ?_, ?_⟩
  · rw [← run.plan_eq, ← run.cleaned.pauseNamed]
    exact run.hasCalled_of_cleaner names cleanup last
  · intro name seen
    have gone : name ∉ rehearsal.host.existing := by
      rw [hosted.existing]
      exact fun there => there.2 ((cleaned name).mpr seen)
    exact ⟨gone, fun running => gone (hosted.sound name running)⟩
  · intro name unseen
    refine ⟨?_, hosted.running name unseen⟩
    have uncalled : ¬ rehearsal.run.HasCalled name := unseen
    rw [hosted.existing, and_iff_left ((cleaned name).not.mpr uncalled)]
    simp [uncalled]
  · exact State.cleanups_names_nodup run.started run.cleaned (run.plan_eq ▸ names)
  · exact fun name => (called name).symm
  · rw [← hosted.cleanupFailures_of_finished run finished, run.summed result finished]
    exact RunError.cleanupPart_combine run.judging.single _

/-- A host on which the container of the smallest plan is never created. -/
def brokenHost : Host where
  behaviours := [("web", .failToStart "no such image")]

/-- A run on a host where another container is left from an earlier one. -/
def brokenEvents : List Rehearsal.Event :=
  [.own .begin, .call .pause, .own .poll, .pollAnswers, .own .launch, .call (.application 0),
    .own (.notice (.application 0)), .own .noticeAllEnded, .killed .pause, .own .drained,
    .own .close, .own (.stop (.application 0)), .stopAnswers (.application 0),
    .own (.remove (.application 0)), .removeAnswers (.application 0), .own (.stop .pause),
    .stopAnswers .pause, .own (.remove .pause), .removeAnswers .pause, .own .finish]

theorem broken_container_not_found :
    ∃ rehearsal result,
      Rehearsal.Reaches brokenHost .single
        ([Host.Operation.addExisting "db-shop-test-api"].foldl brokenHost.after {}) brokenEvents
        rehearsal ∧
      rehearsal.run.result? = some result ∧
      "pause-shop-test-api" ∉ rehearsal.host.existing ∧
      "db-shop-test-api" ∈ rehearsal.host.existing ∧
      ⟨"web-shop-test-api", .stop, .noSuchContainer "web-shop-test-api"⟩ ∈
        RunError.cleanupPart result := by
  have distinct : (Run.Plan.single.containers.map Prod.fst).Nodup := by decide
  have unreserved : Run.Identity.pauseRole ∉ Run.Plan.single.containers.map Prod.fst := by decide
  have path : Rehearsal.Reaches brokenHost .single
      ([Host.Operation.addExisting "db-shop-test-api"].foldl brokenHost.after {}) brokenEvents _ :=
    rfl
  have outcome := nothing_left_behind distinct unreserved rfl rfl path rfl
  rcases outcome with ⟨pause, gone, _, attempted, _, called, failures⟩
  have web : "web-shop-test-api" ∈ attempted :=
    (called _).mpr (List.mem_iff_getElem?.mpr ⟨9, rfl⟩)
  refine ⟨_, _, path, rfl, (gone _ pause).1, List.mem_iff_getElem?.mpr ⟨0, rfl⟩, ?_⟩
  exact failures.mem_iff.mpr (List.mem_flatMap.mpr ⟨_, web, by decide⟩)

end Workload.Simulated
