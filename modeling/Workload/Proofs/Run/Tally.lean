import Workload.Proofs.Run.Containers

/-!
# What cleanup leaves behind in the history

Each step of a container's cleanup changes the record of that cleanup and is seen in the history of
the run. So whatever can be read off both, read off all cleanups and off the whole history it is the
same, in another order if cleanups overlap.
-/

namespace Workload.Run

/-- The occurrence belongs to the cleanup of a container. -/
def Occurrence.isOfCleanup : Occurrence → Bool
  | .called .stop _ => true
  | .called .remove _ => true
  | .answered .stop _ _ => true
  | .answered .remove _ _ => true
  | .announced _ => true
  | _ => false

/-- Two readings, one of a cleanup and one of what is seen of it, that go together. -/
structure Reading {Item : Type} (ofCleaner : Cleaner → List Item)
    (ofOccurrence : Occurrence → Option Item) : Prop where
  fresh : ∀ container, ofCleaner { container } = []
  other : ∀ occurrence : Occurrence, occurrence.isOfCleanup = false →
    ofOccurrence occurrence = none
  advance : ∀ {target cleaner after event occurrences},
    Cleaner.Advance target cleaner event after occurrences →
      ofCleaner after = ofCleaner cleaner ++ occurrences.filterMap ofOccurrence

section Tally

variable {Item : Type} {ofCleaner : Cleaner → List Item} {ofOccurrence : Occurrence → Option Item}
  {state next : State} {event : Event}

/-- What is read off the history agrees with what is read off the cleanups. -/
def State.Tallies (ofCleaner : Cleaner → List Item) (ofOccurrence : Occurrence → Option Item)
    (state : State) : Prop :=
  (state.cleanups.flatMap ofCleaner).Perm (state.history.filterMap ofOccurrence)

namespace State.Tallies

theorem of_record (tallies : state.Tallies ofCleaner ofOccurrence)
    (reading : Reading ofCleaner ofOccurrence) {seen : List Occurrence}
    (cleanups : next.cleanups.flatMap ofCleaner = state.cleanups.flatMap ofCleaner)
    (history : next.history = state.history ++ seen)
    (silent : ∀ occurrence ∈ seen, occurrence.isOfCleanup = false) :
    next.Tallies ofCleaner ofOccurrence := by
  have unseen : seen.filterMap ofOccurrence = [] := by
    rw [List.filterMap_eq_nil_iff]
    intro occurrence member
    exact reading.other occurrence (silent occurrence member)
  rw [Tallies, cleanups, history, List.filterMap_append, unseen, List.append_nil]
  exact tallies

theorem clean (tallies : state.Tallies ofCleaner ofOccurrence)
    (reading : Reading ofCleaner ofOccurrence) {target : Target} {cleaner after : Cleaner}
    {occurrences : List Occurrence} (current : state.cleaner? target = some cleaner)
    (advance : cleaner.Advance target event after occurrences) :
    ((state.withCleaner target after).record occurrences).Tallies ofCleaner ofOccurrence := by
  rcases exists_cleanups_split current with ⟨earlier, later, split, replaced⟩
  have now : ((state.withCleaner target after).record occurrences).cleanups =
      earlier ++ after :: later := replaced after
  have seen : ((state.withCleaner target after).record occurrences).history =
      state.history ++ occurrences := rfl
  rw [Tallies, now, seen, List.filterMap_append]
  refine List.Perm.trans ?_ (List.Perm.append_right _ tallies)
  rw [split]
  simp only [List.flatMap_append, List.flatMap_cons, reading.advance advance, List.append_assoc]
  exact (List.perm_append_comm.append_left _).append_left _

theorem step (tallies : state.Tallies ofCleaner ofOccurrence)
    (reading : Reading ofCleaner ofOccurrence) (cleaned : state.Cleaned)
    (transition : Transition state event next) : next.Tallies ofCleaner ofOccurrence := by
  cases transition with
  | close result closing settled =>
      have untouched := cleaned.untouched (by simp [closing, Stage.isCleanup])
      refine tallies.of_record reading ?_ rfl (by simp [Occurrence.isOfCleanup])
      simp [cleanups, record, cancelBy, untouched, Launched.cleaner, List.flatMap_map,
        reading.fresh]
  | clean target result cleaner after event occurrences cleaning current allowed advance =>
      exact tallies.clean reading current advance
  | confirmed polling =>
      refine tallies.of_record reading rfl ((List.append_assoc ..).trans (List.append_assoc ..)) ?_
      simp [Occurrence.isOfCleanup]
  | pollFails fault conclusive polling =>
      refine tallies.of_record reading rfl (List.append_assoc ..) ?_
      simp [Occurrence.isOfCleanup]
  | launch application rest launching =>
      refine tallies.of_record reading rfl (List.append_assoc ..) ?_
      simp [Occurrence.isOfCleanup]
  | noticeAllEnded supervising ended =>
      refine tallies.of_record reading rfl rfl ?_
      simp [Occurrence.isOfCleanup]
  | pollAgain waiting => exact tallies
  | abandoned fault abandoning returned => exact tallies
  | drained draining returned => exact tallies
  | cancel interrupting => exact tallies
  | retire listening cancelled => exact tallies
  | _ =>
      refine tallies.of_record reading rfl rfl ?_
      simp [Occurrence.isOfCleanup]

end State.Tallies

theorem Reaches.tallies {plan : Plan} {events : List Event} (path : Reaches plan events state)
    (reading : Reading ofCleaner ofOccurrence) : state.Tallies ofCleaner ofOccurrence := by
  apply path.invariant (State.Tallies ofCleaner ofOccurrence)
  · simp [State.Tallies, State.cleanups, State.initial, reading.fresh]
  · intro events state event next before tallies transition
    exact tallies.step reading before.cleaned transition

end Tally

end Workload.Run
