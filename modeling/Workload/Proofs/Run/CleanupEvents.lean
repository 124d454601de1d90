import Mathlib.Tactic.Choose
import Workload.Proofs.Run.Cleanup
import Workload.Proofs.Run.Interrupt

/-!
# What is announced of a cleanup

Any number of containers are cleaned up at once, and everything that is seen of them is one list.
What that list says of one name is its chronicle: the calls, the answers and the announcements of
one cleanup, as if there were no other. The failed steps of a cleanup can be read off its chronicle,
and so can whether it went well.

Nothing here depends on how the run came to clean up, nor on how its containers got their names.
-/

namespace Workload

namespace Cleanup.Event

/-- The event says that a step of a cleanup failed. -/
def isFailure : Event → Bool
  | .stopFailed _ _ => true
  | .removeFailed _ _ => true
  | _ => false

/-- What is announced of the cleanup of a container whose two steps had the given faults. -/
def tale (container : String) (stopFault removeFault : Option EngineError) : List Event :=
  [.stopBegin container] ++
    (stopFault.toList.map fun fault => .stopFailed container fault.message) ++
    [.removeBegin container] ++
    (removeFault.toList.map fun fault => .removeFailed container fault.message) ++
    [.cleaned container (stopFault.isNone && removeFault.isNone)]

end Cleanup.Event

/-- The event that announces a failed cleanup step. -/
def CleanupFailure.event (failure : CleanupFailure) : Cleanup.Event :=
  match failure.step with
  | .stop => .stopFailed failure.container failure.cause.message
  | .remove => .removeFailed failure.container failure.cause.message

/-- The failed steps of the cleanup of a container whose two steps had the given faults. -/
def CleanupFailure.ofFaults (container : String) (stopFault removeFault : Option EngineError) :
    List CleanupFailure :=
  (stopFault.toList.map fun cause => { container, step := .stop, cause }) ++
    removeFault.toList.map fun cause => { container, step := .remove, cause }

namespace Run

open Cleanup

theorem forall_split_append {Item : Type} {items more : List Item} {item : Item}
    {Holds : List Item → Prop}
    (old : ∀ before after, items = before ++ item :: after → Holds before)
    (new : ∀ before after, more = before ++ item :: after → Holds (items ++ before)) :
    ∀ before after, items ++ more = before ++ item :: after → Holds before := by
  intro before after split
  rcases List.append_eq_append_iff.mp split with ⟨middle, rfl, rest⟩ | ⟨middle, rfl, rest⟩
  · exact new middle after rest
  · cases middle with
    | nil =>
        have holds := new [] after rest.symm
        rw [List.append_nil, List.append_nil] at holds
        exact holds
    | cons head tail =>
        rw [List.cons_append, List.cons.injEq] at rest
        exact old before tail (by rw [rest.1])

/-- The occurrence belongs to the cleanup of the container of the given name. -/
def Occurrence.isOfCleanupOf (name : String) : Occurrence → Bool
  | .called .stop container => container = name
  | .called .remove container => container = name
  | .answered .stop container _ => container = name
  | .answered .remove container _ => container = name
  | .announced event => event.container = name
  | _ => false

/-- The announced event. -/
def Occurrence.announced? : Occurrence → Option Cleanup.Event
  | .announced event => some event
  | _ => none

/-- The announced event, if it says that a step of a cleanup failed. -/
def Occurrence.announcedFailure? : Occurrence → Option Cleanup.Event
  | .announced event => if event.isFailure then some event else none
  | _ => none

/-- What is seen of a cleanup, event by event, if its two steps have the given faults. -/
def chapters (container : String) (stopFault removeFault : Option EngineError) :
    List (List Occurrence) :=
  [[.announced (.stopBegin container), .called .stop container],
    .answered .stop container stopFault ::
      stopFault.toList.map fun fault => .announced (.stopFailed container fault.message),
    [.announced (.removeBegin container), .called .remove container],
    .answered .remove container removeFault ::
      (removeFault.toList.map fun fault => .announced (.removeFailed container fault.message)) ++
      [.announced (.cleaned container (stopFault.isNone && removeFault.isNone))]]

theorem tale_eq (container : String) (stopFault removeFault : Option EngineError) :
    (chapters container stopFault removeFault).flatten.filterMap Occurrence.announced? =
      Event.tale container stopFault removeFault := by
  cases stopFault <;> cases removeFault <;> rfl

theorem ofFaults_eq (container : String) (stopFault removeFault : Option EngineError) :
    (chapters container stopFault removeFault).flatten.filterMap Occurrence.failedStep? =
      CleanupFailure.ofFaults container stopFault removeFault := by
  cases stopFault <;> cases removeFault <;> rfl

theorem filter_chapters (container : String) (stopFault removeFault : Option EngineError) :
    (chapters container stopFault removeFault).flatten.filter
        (Occurrence.concerns [.stop, .remove] container) =
      [.called .stop container, .answered .stop container stopFault,
        .called .remove container, .answered .remove container removeFault] := by
  cases stopFault <;> cases removeFault <;> simp [chapters, Occurrence.concerns]

/-- How many events of the cleanup of a container are over. -/
def CleanupStage.past : CleanupStage → Nat
  | .stopDue => 0
  | .stopping => 1
  | .removeDue => 2
  | .removing => 3
  | .cleaned => 4

/-- What was seen tells how far a cleanup has come, and which of its steps failed. -/
def Cleaner.Recounts (cleaner : Cleaner) (seen : List Occurrence) : Prop :=
  (∃ stopFault removeFault, seen =
    ((chapters cleaner.container stopFault removeFault).take cleaner.stage.past).flatten) ∧
  cleaner.failures = seen.filterMap Occurrence.failedStep?

namespace Cleaner.Advance

variable {target : Target} {cleaner after : Cleaner} {event : Event}
  {occurrences : List Occurrence}

theorem isOfCleanupOf_eq (advance : cleaner.Advance target event after occurrences)
    {occurrence : Occurrence} (member : occurrence ∈ occurrences) (name : String) :
    occurrence.isOfCleanupOf name = decide (cleaner.container = name) := by
  cases advance <;> simp only [List.mem_cons, List.mem_append, List.mem_map,
    List.not_mem_nil, or_false] at member
  · rcases member with rfl | rfl <;> rfl
  · rcases member with rfl | ⟨fault, _, rfl⟩ <;> rfl
  · rcases member with rfl | rfl <;> rfl
  · rcases member with (rfl | ⟨fault, _, rfl⟩) | rfl <;> rfl

theorem filter_own (advance : cleaner.Advance target event after occurrences) :
    occurrences.filter (Occurrence.isOfCleanupOf cleaner.container) = occurrences := by
  rw [List.filter_eq_self]
  intro occurrence member
  simp [advance.isOfCleanupOf_eq member]

theorem filter_other (advance : cleaner.Advance target event after occurrences) {name : String}
    (apart : name ≠ cleaner.container) :
    occurrences.filter (Occurrence.isOfCleanupOf name) = [] := by
  rw [List.filter_eq_nil_iff]
  intro occurrence member
  simp [advance.isOfCleanupOf_eq member, apart.symm]

theorem container_of_announced (advance : cleaner.Advance target event after occurrences)
    {announced : Cleanup.Event} (member : announced ∈ occurrences.filterMap Occurrence.announced?) :
    announced.container = cleaner.container := by
  rw [List.mem_filterMap] at member
  rcases member with ⟨occurrence, seen, same⟩
  have own := advance.isOfCleanupOf_eq seen announced.container
  cases occurrence with
  | announced event =>
      obtain rfl := Option.some.inj same
      simpa [Occurrence.isOfCleanupOf, eq_comm] using own
  | _ => cases same

theorem recounts (advance : cleaner.Advance target event after occurrences)
    {seen : List Occurrence} (recounted : cleaner.Recounts seen) :
    after.Recounts (seen ++ occurrences) := by
  rcases recounted with ⟨⟨stopFault, removeFault, told⟩, failures⟩
  refine ⟨?_, by rw [advance.failures_eq, failures, List.filterMap_append]⟩
  -- The fault of a step is settled by its answer: before that, the account does not get so far.
  cases advance with
  | stop due =>
      refine ⟨stopFault, removeFault, ?_⟩
      simp [told, due, chapters, CleanupStage.past]
  | stopAnswers result stopping =>
      refine ⟨faultOf result, removeFault, ?_⟩
      simp [told, stopping, chapters, CleanupStage.past]
  | remove due =>
      refine ⟨stopFault, removeFault, ?_⟩
      simp [told, due, chapters, CleanupStage.past]
  | removeAnswers result removing =>
      refine ⟨stopFault, faultOf result, ?_⟩
      have unfailed : (cleaner.failures ++
          stepFailures cleaner.container .remove result).isEmpty =
            (stopFault.isNone && (faultOf result).isNone) := by
        rw [failures, told, removing]
        cases stopFault <;> cases result <;>
          simp [chapters, CleanupStage.past, Occurrence.failedStep?, stepFailures, faultOf]
      rw [unfailed]
      simp [told, removing, chapters, CleanupStage.past]

end Cleaner.Advance

theorem Occurrence.not_isOfCleanupOf {occurrence : Occurrence}
    (apart : occurrence.isOfCleanup = false) (name : String) :
    occurrence.isOfCleanupOf name = false := by
  cases occurrence with
  | called verb container => cases verb <;> simp_all [isOfCleanup, isOfCleanupOf]
  | answered verb container fault => cases verb <;> simp_all [isOfCleanup, isOfCleanupOf]
  | announced event => simp [isOfCleanup] at apart
  | _ => rfl

theorem filter_unseen {seen : List Occurrence}
    (unseen : ∀ occurrence ∈ seen, occurrence.isOfCleanup = false) (name : String) :
    seen.filter (Occurrence.isOfCleanupOf name) = [] := by
  rw [List.filter_eq_nil_iff]
  intro occurrence member
  simp [Occurrence.not_isOfCleanupOf (unseen occurrence member)]

theorem filterMap_unseen {seen : List Occurrence}
    (unseen : ∀ occurrence ∈ seen, occurrence.isOfCleanup = false) :
    seen.filterMap Occurrence.announced? = [] := by
  rw [List.filterMap_eq_nil_iff]
  intro occurrence member
  have apart := unseen occurrence member
  cases occurrence with
  | announced event => simp [Occurrence.isOfCleanup] at apart
  | _ => rfl

/-- The events of the failed steps of a cleanup. -/
def Cleaner.failureEvents (cleaner : Cleaner) : List Cleanup.Event :=
  cleaner.failures.map CleanupFailure.event

theorem reading_failureEvents :
    Reading Cleaner.failureEvents Occurrence.announcedFailure? where
  fresh _ := rfl
  other occurrence apart := by
    cases occurrence with
    | announced event => simp [Occurrence.isOfCleanup] at apart
    | _ => rfl
  advance advance := by
    cases advance with
    | stop due => simp [Cleaner.failureEvents, Occurrence.announcedFailure?, Event.isFailure]
    | stopAnswers result stopping =>
        cases result <;> simp [Cleaner.failureEvents, CleanupFailure.event, stepFailures, faultOf,
          Occurrence.announcedFailure?, Event.isFailure, List.filterMap_cons]
    | remove due => simp [Cleaner.failureEvents, Occurrence.announcedFailure?, Event.isFailure]
    | removeAnswers result removing =>
        cases result <;> simp [Cleaner.failureEvents, CleanupFailure.event, stepFailures, faultOf,
          Occurrence.announcedFailure?, Event.isFailure, List.filterMap_cons]

namespace State

/-- What was seen of the cleanup of the container of the given name. -/
def chronicle (state : State) (name : String) : List Occurrence :=
  state.history.filter (Occurrence.isOfCleanupOf name)

/-- The events announced about the container of the given name so far, in order. -/
def announcementsOf (state : State) (name : String) : List Cleanup.Event :=
  state.announcements.filter fun event => event.container = name

/-- A run begins to clean up the given containers, and nothing was seen of any cleanup yet. -/
structure BeginsCleanup (applications : List String) (pause : String)
    (verdict : Option RunError) (state : State) : Prop where
  cleaning : state.stage = .cleaning verdict
  cleaners : state.cleaners = applications.map fun container => { container }
  pauseCleaner : state.pauseCleaner = { container := pause }
  unseen : ∀ occurrence ∈ state.history, occurrence.isOfCleanup = false

/-- How far a run has come that cleans the given containers up. -/
structure CleansUp (applications : List String) (pause : String) (verdict : Option RunError)
    (state : State) : Prop where
  named : state.cleanups.map Cleaner.container = applications ++ [pause]
  ended : state.stage = .cleaning verdict ∨
    state.pauseCleaner.stage = .cleaned ∧
      state.stage = .finished (RunError.combine verdict state.cleanupFailures)
  pauseLast : state.pauseCleaner.stage ≠ .stopDue →
    ∀ cleaner ∈ state.cleaners, cleaner.stage = .cleaned
  recounted : Ledger Cleaner.container Cleaner.Recounts state.cleanups state.chronicle
  tallied : state.Tallies Cleaner.failureEvents Occurrence.announcedFailure?
  barrier : ∀ before after, state.announcements = before ++ .stopBegin pause :: after →
    ∀ name ∈ applications, ∃ success, .cleaned name success ∈ before

variable {applications : List String} {pause : String} {verdict : Option RunError}
  {state next : State} {event : Event}

theorem announcements_eq (state : State) :
    state.announcements = state.history.filterMap Occurrence.announced? := by
  apply List.filterMap_congr
  intro occurrence _
  cases occurrence <;> rfl

theorem announcementsOf_eq (state : State) (name : String) :
    state.announcementsOf name = (state.chronicle name).filterMap Occurrence.announced? := by
  rw [announcementsOf, announcements_eq, chronicle, List.filter_filterMap, List.filterMap_filter]
  apply List.filterMap_congr
  intro occurrence _
  cases occurrence with
  | announced event => simp [Occurrence.announced?, Occurrence.isOfCleanupOf, Option.filter]
  | _ => exact (ite_self none).symm

theorem trail_eq (state : State) (name : String) :
    state.trail [.stop, .remove] name =
      (state.chronicle name).filter (Occurrence.concerns [.stop, .remove] name) := by
  rw [trail, chronicle, List.filter_filter]
  apply List.filter_congr
  intro occurrence _
  cases occurrence with
  | called verb container => cases verb <;> simp [Occurrence.concerns, Occurrence.isOfCleanupOf]
  | answered verb container fault =>
      cases verb <;> simp [Occurrence.concerns, Occurrence.isOfCleanupOf]
  | _ => rfl

theorem filter_announcements (state : State) :
    state.announcements.filter Event.isFailure =
      state.history.filterMap Occurrence.announcedFailure? := by
  rw [announcements_eq, List.filter_filterMap]
  apply List.filterMap_congr
  intro occurrence _
  cases occurrence <;> simp [Occurrence.announced?, Occurrence.announcedFailure?, Option.filter]

theorem flatMap_failureEvents (state : State) :
    state.cleanups.flatMap Cleaner.failureEvents =
      state.cleanupFailures.map CleanupFailure.event := by
  simp only [cleanups, cleanupFailures, List.flatMap_append, List.flatMap_singleton,
    List.map_append, List.map_flatMap]
  rfl

namespace CleansUp

theorem of_begins (begins : state.BeginsCleanup applications pause verdict) :
    state.CleansUp applications pause verdict := by
  rcases begins with ⟨cleaning, cleaners, pauseCleaner, unseen⟩
  have chronicle (name : String) : state.chronicle name = [] := filter_unseen unseen name
  have announcements : state.announcements = [] := by
    rw [announcements_eq, filterMap_unseen unseen]
  have cleanups : state.cleanups =
      (applications ++ [pause]).map fun container => { container } := by
    rw [State.cleanups, cleaners, pauseCleaner, List.map_append, List.map_singleton]
  refine ⟨?_, .inl cleaning, ?_, ?_, ?_, ?_⟩
  · rw [cleanups, List.map_map]
    exact List.map_id _
  · simp [pauseCleaner]
  · constructor
    · intro cleaner member
      rw [cleanups, List.mem_map] at member
      rcases member with ⟨container, _, rfl⟩
      exact ⟨⟨none, none, chronicle container⟩, by rw [chronicle]; rfl⟩
    · intro other _
      exact chronicle other
  · rw [Tallies, flatMap_failureEvents, ← filter_announcements, announcements, cleanupFailures,
      cleaners, pauseCleaner, List.flatMap_map, List.flatMap_eq_nil_iff.mpr (by simp)]
    exact .nil
  · intro before after split
    simp [announcements] at split

theorem cleaners_named (cleansUp : state.CleansUp applications pause verdict) :
    state.cleaners.map Cleaner.container = applications ∧
      state.pauseCleaner.container = pause := by
  have named := cleansUp.named
  rw [cleanups, List.map_append] at named
  rcases List.append_inj' named rfl with ⟨first, last⟩
  exact ⟨first, by simpa using last⟩

theorem exists_cleaner (cleansUp : state.CleansUp applications pause verdict) {name : String}
    (known : name ∈ applications) : ∃ cleaner ∈ state.cleaners, cleaner.container = name := by
  rw [← cleansUp.cleaners_named.1] at known
  exact List.mem_map.mp known

theorem exists_cleaned_announced (cleansUp : state.CleansUp applications pause verdict)
    (done : ∀ cleaner ∈ state.cleaners, cleaner.stage = .cleaned) {name : String}
    (known : name ∈ applications) : ∃ success, .cleaned name success ∈ state.announcements := by
  rcases cleansUp.exists_cleaner known with ⟨cleaner, member, rfl⟩
  rcases cleansUp.recounted.told cleaner (List.mem_append_left _ member) with
    ⟨⟨stopFault, removeFault, told⟩, _⟩
  rw [done cleaner member] at told
  have seen : .announced (.cleaned cleaner.container (stopFault.isNone && removeFault.isNone)) ∈
      state.chronicle cleaner.container := by
    simp [told, chapters, CleanupStage.past]
  refine ⟨stopFault.isNone && removeFault.isNone, ?_⟩
  rw [announcements_eq, List.mem_filterMap]
  exact ⟨_, (List.mem_filter.mp seen).1, rfl⟩

/-- What does not belong to any cleanup leaves all of them as they are. -/
theorem of_unseen (cleansUp : state.CleansUp applications pause verdict) {seen : List Occurrence}
    (cleaners : next.cleaners = state.cleaners)
    (pauseCleaner : next.pauseCleaner = state.pauseCleaner)
    (history : next.history = state.history ++ seen)
    (unseen : ∀ occurrence ∈ seen, occurrence.isOfCleanup = false)
    (ended : next.stage = .cleaning verdict ∨ next.pauseCleaner.stage = .cleaned ∧
      next.stage = .finished (RunError.combine verdict next.cleanupFailures)) :
    next.CleansUp applications pause verdict := by
  have cleanups : next.cleanups = state.cleanups := by
    rw [State.cleanups, cleaners, pauseCleaner, State.cleanups]
  have chronicle (name : String) : next.chronicle name = state.chronicle name := by
    rw [State.chronicle, history, List.filter_append, filter_unseen unseen, List.append_nil]
    rfl
  have announcements : next.announcements = state.announcements := by
    rw [announcements_eq, history, List.filterMap_append, filterMap_unseen unseen,
      List.append_nil, announcements_eq]
  refine ⟨?_, ended, ?_, ?_, ?_, ?_⟩
  · rw [cleanups]
    exact cleansUp.named
  · rw [cleaners, pauseCleaner]
    exact cleansUp.pauseLast
  · rw [cleanups]
    exact cleansUp.recounted.congr chronicle
  · exact cleansUp.tallied.of_record reading_failureEvents (by rw [cleanups]) history unseen
  · rw [announcements]
    exact cleansUp.barrier

variable {target : Target} {cleaner after : Cleaner} {occurrences : List Occurrence}

/-- The cleanup of the pause container goes on only when all others are done. -/
theorem others_cleaned (cleansUp : state.CleansUp applications pause verdict)
    (apart : pause ∉ applications) (current : state.cleaner? target = some cleaner)
    (allowed : cleaner.stage = .stopDue → state.mayClean target)
    (named : cleaner.container = pause) :
    ∀ cleaner ∈ state.cleaners, cleaner.stage = .cleaned := by
  cases target with
  | pause =>
      simp only [cleaner?, Option.some.injEq] at current
      subst cleaner
      by_cases due : state.pauseCleaner.stage = .stopDue
      · have others := allowed due
        simp only [mayClean, List.all_eq_true, decide_eq_true_eq] at others
        exact others
      · exact cleansUp.pauseLast due
  | application index =>
      have member : cleaner ∈ state.cleaners := List.mem_of_getElem? current
      have known : pause ∈ applications := by
        rw [← cleansUp.cleaners_named.1, ← named]
        exact List.mem_map_of_mem member
      exact absurd known apart

theorem pauseLast_clean (cleansUp : state.CleansUp applications pause verdict)
    (apart : pause ∉ applications) (current : state.cleaner? target = some cleaner)
    (allowed : cleaner.stage = .stopDue → state.mayClean target)
    (advance : cleaner.Advance target event after occurrences)
    (begun : (state.withCleaner target after).pauseCleaner.stage ≠ .stopDue) :
    ∀ cleaner ∈ (state.withCleaner target after).cleaners, cleaner.stage = .cleaned := by
  cases target with
  | pause =>
      simp only [cleaner?, Option.some.injEq] at current
      exact cleansUp.others_cleaned apart rfl (current ▸ allowed) cleansUp.cleaners_named.2
  | application index =>
      have done := cleansUp.pauseLast begun cleaner (List.mem_of_getElem? current)
      exact absurd done advance.not_cleaned

theorem recounted_clean (cleansUp : state.CleansUp applications pause verdict)
    (distinct : applications.Nodup) (apart : pause ∉ applications)
    (current : state.cleaner? target = some cleaner)
    (advance : cleaner.Advance target event after occurrences) :
    Ledger Cleaner.container Cleaner.Recounts (state.withCleaner target after).cleanups
      ((state.withCleaner target after).record occurrences).chronicle := by
  rcases exists_cleanups_split current with ⟨earlier, later, split, replaced⟩
  have names : (state.cleanups.map Cleaner.container).Nodup := by
    rw [cleansUp.named]
    exact (List.nodup_cons.mpr ⟨apart, distinct⟩).perm (List.perm_append_singleton ..).symm
  have chronicle (name : String) :
      ((state.withCleaner target after).record occurrences).chronicle name =
        state.chronicle name ++ occurrences.filter (Occurrence.isOfCleanupOf name) :=
    List.filter_append ..
  have ledger := cleansUp.recounted
  rw [split] at ledger names
  rw [replaced]
  apply ledger.replace names advance.container_eq
  · intro other different
    rw [chronicle, advance.filter_other different, List.append_nil]
  · rw [chronicle, advance.filter_own]
    exact advance.recounts (ledger.told _ (List.mem_append_right _ (List.mem_cons_self ..)))

theorem barrier_clean (cleansUp : state.CleansUp applications pause verdict)
    (apart : pause ∉ applications) (current : state.cleaner? target = some cleaner)
    (allowed : cleaner.stage = .stopDue → state.mayClean target)
    (advance : cleaner.Advance target event after occurrences) :
    ∀ before rest, state.announcements ++ occurrences.filterMap Occurrence.announced? =
        before ++ .stopBegin pause :: rest →
      ∀ name ∈ applications, ∃ success, .cleaned name success ∈ before := by
  apply forall_split_append cleansUp.barrier
  -- If the beginning is announced now, then by the cleanup of the pause container itself.
  intro before rest begun name known
  have announced : .stopBegin pause ∈ occurrences.filterMap Occurrence.announced? := by
    rw [begun]
    exact List.mem_append_right _ (List.mem_cons_self ..)
  have named : pause = cleaner.container := advance.container_of_announced announced
  have done := cleansUp.others_cleaned apart current allowed named.symm
  rcases cleansUp.exists_cleaned_announced done known with ⟨success, earlier⟩
  exact ⟨success, List.mem_append_left _ earlier⟩

theorem clean (cleansUp : state.CleansUp applications pause verdict) (distinct : applications.Nodup)
    (apart : pause ∉ applications) (cleaning : state.stage = .cleaning verdict)
    (current : state.cleaner? target = some cleaner)
    (allowed : cleaner.stage = .stopDue → state.mayClean target)
    (advance : cleaner.Advance target event after occurrences) :
    ((state.withCleaner target after).record occurrences).CleansUp applications pause verdict := by
  refine ⟨?_, .inl cleaning, cleansUp.pauseLast_clean apart current allowed advance,
    cleansUp.recounted_clean distinct apart current advance,
    cleansUp.tallied.clean reading_failureEvents current advance, ?_⟩
  · rcases exists_cleanups_split current with ⟨earlier, later, split, replaced⟩
    have cleanups : ((state.withCleaner target after).record occurrences).cleanups =
        earlier ++ after :: later := replaced after
    rw [cleanups, ← cleansUp.named, split]
    simp [advance.container_eq]
  · rw [announcements_eq]
    have announcements : (state.history ++ occurrences).filterMap Occurrence.announced? =
        state.announcements ++ occurrences.filterMap Occurrence.announced? := by
      rw [List.filterMap_append, announcements_eq]
    exact announcements ▸ cleansUp.barrier_clean apart current allowed advance

theorem step (cleansUp : state.CleansUp applications pause verdict) (distinct : applications.Nodup)
    (apart : pause ∉ applications) (transition : Transition state event next) :
    next.CleansUp applications pause verdict := by
  have cleanup : state.stage = .cleaning verdict ∨ ∃ result, state.stage = .finished result :=
    cleansUp.ended.imp_right fun finished => ⟨_, finished.2⟩
  cases transition with
  | clean target result cleaner after event occurrences cleaning current allowed advance =>
      have same : state.stage = .cleaning verdict := by
        simpa [cleaning] using cleanup
      exact cleansUp.clean distinct apart same current allowed advance
  | finish result cleaning done =>
      have same : result = verdict := by simpa [cleaning] using cleanup
      subst result
      exact cleansUp.of_unseen rfl rfl rfl (by simp [Occurrence.isOfCleanup]) (.inr ⟨done, rfl⟩)
  | call target due =>
      exact cleansUp.of_unseen rfl rfl rfl (by simp [Occurrence.isOfCleanup]) cleansUp.ended
  | callReturns target result running =>
      exact cleansUp.of_unseen rfl rfl rfl (by simp [Occurrence.isOfCleanup]) cleansUp.ended
  | interrupt listening =>
      exact cleansUp.of_unseen rfl rfl rfl (by simp [Occurrence.isOfCleanup]) cleansUp.ended
  | cancel interrupting =>
      exact cleansUp.of_unseen rfl rfl (List.append_nil _).symm (by simp) cleansUp.ended
  | retire listening cancelled =>
      exact cleansUp.of_unseen rfl rfl (List.append_nil _).symm (by simp) cleansUp.ended
  | pauseEndsEarly result returned startup =>
      rcases cleanup with cleaning | ⟨_, finished⟩ <;> simp_all [Stage.isStartup]
  | _ => simp_all

theorem of_follow {start : State} {events : List Event}
    (begins : start.BeginsCleanup applications pause verdict) (distinct : applications.Nodup)
    (apart : pause ∉ applications) (path : follow Run.step start events = some state) :
    state.CleansUp applications pause verdict := by
  apply follow_induction (fun _ state => state.CleansUp applications pause verdict)
    (of_begins begins) ?_ path
  intro events state event next _ cleansUp taken
  exact cleansUp.step distinct apart (transition_of_step taken)

theorem announcementsOf_prefix (cleansUp : state.CleansUp applications pause verdict)
    (name : String) :
    ∃ stopFault removeFault,
      state.announcementsOf name <+: Event.tale name stopFault removeFault := by
  by_cases known : name ∈ state.cleanups.map Cleaner.container
  · rcases List.mem_map.mp known with ⟨cleaner, member, rfl⟩
    rcases cleansUp.recounted.told cleaner member with ⟨⟨stopFault, removeFault, told⟩, _⟩
    refine ⟨stopFault, removeFault, ?_⟩
    have begun : state.chronicle cleaner.container <+:
        (chapters cleaner.container stopFault removeFault).flatten := by
      rw [told]
      refine ⟨((chapters cleaner.container stopFault removeFault).drop
        cleaner.stage.past).flatten, ?_⟩
      rw [← List.flatten_append, List.take_append_drop]
    rw [announcementsOf_eq, ← tale_eq]
    exact begun.filterMap _
  · refine ⟨none, none, ?_⟩
    rw [announcementsOf_eq, cleansUp.recounted.silent name known]
    exact List.nil_prefix

theorem announcementsOf_eq_nil (cleansUp : state.CleansUp applications pause verdict)
    {name : String} (unknown : name ∉ applications ++ [pause]) :
    state.announcementsOf name = [] := by
  rw [← cleansUp.named] at unknown
  rw [announcementsOf_eq, cleansUp.recounted.silent name unknown]
  rfl

theorem failureEvents_perm (cleansUp : state.CleansUp applications pause verdict) :
    (state.cleanupFailures.map CleanupFailure.event).Perm
      (state.announcements.filter Event.isFailure) := by
  rw [← flatMap_failureEvents, filter_announcements]
  exact cleansUp.tallied

theorem cleanupFailures_eq (cleansUp : state.CleansUp applications pause verdict) :
    state.cleanupFailures = (applications ++ [pause]).flatMap fun name =>
      (state.chronicle name).filterMap Occurrence.failedStep? := by
  have each : state.cleanups.flatMap Cleaner.failures = state.cleanups.flatMap fun cleaner =>
      (state.chronicle cleaner.container).filterMap Occurrence.failedStep? :=
    List.flatMap_congr fun cleaner member => (cleansUp.recounted.told cleaner member).2
  rw [← cleansUp.named, List.flatMap_map, ← each]
  simp [cleanups, cleanupFailures]

theorem of_finished (cleansUp : state.CleansUp applications pause verdict)
    {result : Option RunError} (finished : state.result? = some result) :
    result = RunError.combine verdict state.cleanupFailures ∧
      ∀ cleaner ∈ state.cleanups, cleaner.stage = .cleaned := by
  rw [result?_eq_some] at finished
  rcases cleansUp.ended with cleaning | ⟨last, ended⟩
  · simp [cleaning] at finished
  · rw [ended, Stage.finished.injEq] at finished
    refine ⟨finished.symm, ?_⟩
    intro cleaner member
    rcases List.mem_append.mp member with application | pause
    · exact cleansUp.pauseLast (by simp [last]) cleaner application
    · rw [List.mem_singleton.mp pause]
      exact last

theorem exists_chronicle (cleansUp : state.CleansUp applications pause verdict)
    {result : Option RunError} (finished : state.result? = some result) {name : String}
    (known : name ∈ applications ++ [pause]) :
    ∃ stopFault removeFault,
      state.chronicle name = (chapters name stopFault removeFault).flatten := by
  rw [← cleansUp.named, List.mem_map] at known
  rcases known with ⟨cleaner, member, rfl⟩
  rcases cleansUp.recounted.told cleaner member with ⟨⟨stopFault, removeFault, told⟩, _⟩
  rw [(cleansUp.of_finished finished).2 cleaner member] at told
  exact ⟨stopFault, removeFault, told⟩

theorem exists_end (cleansUp : state.CleansUp applications pause verdict)
    (distinct : applications.Nodup) (apart : pause ∉ applications) :
    ∃ rest final result, follow Run.step state rest = some final ∧ final.result? = some result := by
  apply exists_completion_of (fun cleansUp transition => step cleansUp distinct apart transition)
    ?_ cleansUp
  intro state cleansUp ready
  rcases cleansUp.ended with cleaning | ⟨_, finished⟩ <;> simp_all

end CleansUp

end State

/-- Cleanup is not left again. -/
theorem Transition.isCleanup {state next : State} {event : Event}
    (transition : Transition state event next) (cleanup : state.stage.isCleanup) :
    next.stage.isCleanup := by
  cases transition with
  | clean target result cleaner after event occurrences cleaning current allowed advance =>
      exact cleanup
  | call target due => exact cleanup
  | callReturns target result running => exact cleanup
  | interrupt listening => exact cleanup
  | cancel interrupting => exact cleanup
  | retire listening cancelled => exact cleanup
  | finish result cleaning done => rfl
  | close result closing settled => rfl
  | pauseEndsEarly result returned startup =>
      cases stage : state.stage <;> simp_all [Stage.isStartup, Stage.isCleanup]
  | _ => simp_all [Stage.isCleanup]

theorem unseen_of_transition {state next : State} {event : Event}
    (transition : Transition state event next)
    (unseen : state.stage.isCleanup = false →
      ∀ occurrence ∈ state.history, occurrence.isOfCleanup = false)
    (later : next.stage.isCleanup = false) :
    ∀ occurrence ∈ next.history, occurrence.isOfCleanup = false := by
  have before : state.stage.isCleanup = false := by
    by_contra cleanup
    simp [transition.isCleanup (by simpa using cleanup)] at later
  have past := unseen before
  cases transition with
  | clean target result cleaner after event occurrences cleaning current allowed advance =>
      simp [cleaning, Stage.isCleanup] at before
  | _ =>
      simp_all [State.record, State.abandon, State.fail, State.proceed, State.confirm,
        State.cancelBy, State.withCall, Occurrence.isOfCleanup, or_imp]

namespace Reaches

variable {plan : Plan} {events : List Event} {state : State}

theorem containers_nodup (path : Reaches plan events state) (distinct : plan.containerNames.Nodup) :
    state.containers.Nodup ∧ plan.identity.pauseName ∉ state.containers := by
  have names := path.started.inOrder.sublist.map fun application : Application =>
    application.specification.container
  rw [path.plan_eq] at names
  have all := (names.cons_cons plan.identity.pauseName).nodup distinct
  exact (List.nodup_cons.mp all).symm

theorem unseen (path : Reaches plan events state) (before : state.stage.isCleanup = false) :
    ∀ occurrence ∈ state.history, occurrence.isOfCleanup = false := by
  refine path.invariant (fun state => state.stage.isCleanup = false →
    ∀ occurrence ∈ state.history, occurrence.isOfCleanup = false) ?_ ?_ before
  · simp [State.initial]
  · intro events state event next _ holds transition
    exact unseen_of_transition transition holds

/-- A run that ends its watcher begins to clean up everything that it has started. -/
theorem beginsCleanup (path : Reaches plan (events ++ [.close]) state) :
    ∃ verdict, state.BeginsCleanup state.containers plan.identity.pauseName verdict := by
  rcases path.split with ⟨middle, next, earlier, transition, _, rest⟩
  obtain rfl : next = state := by simpa [follow] using rest
  cases transition with
  | close result closing settled =>
      have before : middle.stage.isCleanup = false := by simp [closing, Stage.isCleanup]
      refine ⟨result, rfl, ?_, ?_, ?_⟩
      · simp only [State.containers, State.record, List.map_map]
        rfl
      · rw [← earlier.plan_eq]
        exact (earlier.cleaned.untouched before).2
      · intro occurrence member
        rcases List.mem_append.mp member with past | now
        · exact earlier.unseen before occurrence past
        · rw [List.mem_singleton.mp now]
          rfl
  | clean target result cleaner after event occurrences cleaning current allowed advance =>
      cases advance

end Reaches

/--
However the cleanups of any containers overlap, what is announced of each is the beginning of its
tale, as if there were no other, and of no other container anything is announced. When the run is
over it is the whole tale, which follows from the faults that the engine answered with, and so do
the failures that are reported. One failed step is reported for each that was announced, with the
same text. Before the pause container is stopped, the cleanup of every application is over, and
every cleanup can come to its end.
-/
theorem cleanup_announced_as_reported {applications : List String} {pause : String}
    {verdict : Option RunError} {start state : State} {events : List Event}
    (distinct : applications.Nodup) (apart : pause ∉ applications)
    (begins : start.BeginsCleanup applications pause verdict)
    (path : follow step start events = some state) :
    (∀ name, ∃ stopFault removeFault,
      state.announcementsOf name <+: Event.tale name stopFault removeFault) ∧
    (∀ name ∉ applications ++ [pause], state.announcementsOf name = []) ∧
    (state.cleanupFailures.map CleanupFailure.event).Perm
      (state.announcements.filter Event.isFailure) ∧
    (∀ before after, state.announcements = before ++ .stopBegin pause :: after →
      ∀ name ∈ applications, ∃ success, .cleaned name success ∈ before) ∧
    (∀ result, state.result? = some result →
      result = RunError.combine verdict state.cleanupFailures ∧
      ∃ stopFault removeFault : String → Option EngineError,
        (state.cleanupFailures = (applications ++ [pause]).flatMap fun name =>
          CleanupFailure.ofFaults name (stopFault name) (removeFault name)) ∧
        ∀ name ∈ applications ++ [pause],
          state.trail [.stop, .remove] name =
            [.called .stop name, .answered .stop name (stopFault name),
              .called .remove name, .answered .remove name (removeFault name)] ∧
          state.announcementsOf name = Event.tale name (stopFault name) (removeFault name)) ∧
    ∃ rest final result, follow step state rest = some final ∧ final.result? = some result := by
  have cleansUp := State.CleansUp.of_follow begins distinct apart path
  refine ⟨cleansUp.announcementsOf_prefix, fun _ => cleansUp.announcementsOf_eq_nil,
    cleansUp.failureEvents_perm, cleansUp.barrier, ?_, cleansUp.exists_end distinct apart⟩
  intro result finished
  refine ⟨(cleansUp.of_finished finished).1, ?_⟩
  have told (name : String) (known : name ∈ applications ++ [pause]) :=
    cleansUp.exists_chronicle finished known
  choose! stopFault removeFault told using told
  refine ⟨stopFault, removeFault, ?_, ?_⟩
  · rw [cleansUp.cleanupFailures_eq]
    apply List.flatMap_congr
    intro name known
    rw [told name known, ofFaults_eq]
  · intro name known
    rw [State.trail_eq, State.announcementsOf_eq, told name known, filter_chapters, tale_eq]
    exact ⟨rfl, rfl⟩

/-- A plan of two containers. -/
def Plan.paired : Plan :=
  { Plan.single with containers := [("web", "web:1"), ("db", "db:1")] }

/-- A run in which both containers are over. -/
def endedEvents : List Event :=
  [.begin, .call .pause, .poll, .pollAnswers (.ok true), .launch, .launch, .call (.application 0),
    .call (.application 1), .callReturns (.application 1) (.ok ()), .notice (.application 1),
    .callReturns (.application 0) (.ok ()), .notice (.application 0), .noticeAllEnded,
    .callReturns .pause (.error .cancelled), .drained]

/-- Two cleanups that overlap, of which one fails. -/
def overlappingEvents : List Event :=
  [.stop (.application 0), .stop (.application 1),
    .stopAnswers (.application 1) (.error .notInstalled), .remove (.application 1),
    .stopAnswers (.application 0) (.ok ()), .removeAnswers (.application 1) (.ok ()),
    .remove (.application 0), .removeAnswers (.application 0) (.ok ()), .stop .pause,
    .stopAnswers .pause (.ok ()), .remove .pause, .removeAnswers .pause (.ok ()), .finish]

theorem overlapping_cleanups_told_apart :
    ∃ start state verdict, Reaches .paired (endedEvents ++ [.close]) start ∧
      start.containers.Nodup ∧ Plan.paired.identity.pauseName ∉ start.containers ∧
      start.BeginsCleanup start.containers Plan.paired.identity.pauseName verdict ∧
      follow step start overlappingEvents = some state ∧
      state.announcements.filter Event.isFailure =
        [.stopFailed "db-shop-test-api" EngineError.notInstalled.message] ∧
      ∃ stopFault removeFault, state.announcementsOf "db-shop-test-api" =
        Event.tale "db-shop-test-api" stopFault removeFault := by
  have whole : Reaches .paired (endedEvents ++ .close :: overlappingEvents) _ := rfl
  rcases whole.split with ⟨_, start, _, _, reached, path⟩
  have names : Plan.paired.containerNames.Nodup :=
    Plan.containerNames_nodup (by decide) (by decide)
  rcases reached.beginsCleanup with ⟨verdict, begins⟩
  rcases reached.containers_nodup names with ⟨distinct, apart⟩
  have told := cleanup_announced_as_reported distinct apart begins path
  rcases (told.2.2.2.2.1 _ rfl).2 with ⟨stopFault, removeFault, _, each⟩
  refine ⟨start, _, verdict, reached, distinct, apart, begins, path,
    List.singleton_perm.mp told.2.2.1, stopFault _, removeFault _, (each _ ?_).2⟩
  have reached : follow step (.initial .paired) (endedEvents ++ [.close]) = some start := reached
  obtain rfl := Option.some.inj (Eq.symm reached)
  exact List.mem_append_left _ (List.mem_iff_getElem?.mpr ⟨1, rfl⟩)

end Run

end Workload
