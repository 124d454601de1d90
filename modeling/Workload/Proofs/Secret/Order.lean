import Workload.Proofs.Secret.Outcome

/-!
# The order of the fetches

The fetches of a resolution take their steps in any order, and only its failures can tell. Lookups
are seen in the order in which they were completed, so those that come before the one that failed
were answered with values: `Queued`. A reference that no store serves waits until it ends the
resolution, whatever the stores answer meanwhile: `Explained`. A resolution that succeeds has one
table of values, which the references and the answers of their stores determine.
-/

namespace Workload.Secret

variable {answers : Answers} {references : List String} {events : List Resolution.Event}
  {resolution next : Resolution} {event : Resolution.Event}

theorem storeOf_eq_error {reference : String} {cause : SecretError}
    (unserved : storeOf reference = .error cause) : cause = .unsupportedStore reference := by
  simp only [storeOf] at unserved
  split at unserved
  · cases unserved
  · split at unserved
    · cases unserved
    · split at unserved
      · cases unserved
      · cases unserved
        rfl

namespace Resolution

/-- The lookups seen so far were the first to be completed, and their values are known. -/
def Queued (answers : Answers) (resolution : Resolution) : Prop :=
  ∃ seen, resolution.completed = seen ++ resolution.finished ∧
    (seen.map Prod.snd).Perm (Table.keys resolution.values) ∧
    ∀ lookup ∈ seen, (answers lookup.1 lookup.2).isOk

/-- An error that ended the resolution is due to an unserved reference or to the first failure. -/
def Explained (answers : Answers) (references : List String) (resolution : Resolution) : Prop :=
  ∀ fault, resolution.outcome = some (.error fault) →
    (∃ reference ∈ references, storeOf reference = .error (.unsupportedStore reference) ∧
      fault = .fetch reference (.unsupportedStore reference)) ∨
    resolution.waiting = [] ∧ ∃ store reference later cause,
      resolution.finished = (store, reference) :: later ∧
      answers store reference = .error cause ∧ fault = .fetch reference cause

theorem Queued.step (queued : Queued answers resolution) (tracked : Tracked references resolution)
    (transition : Transition answers resolution event next) : Queued answers next := by
  rcases queued with ⟨seen, order, known, answered⟩
  cases transition with
  | answer reference fetch found => exact ⟨seen, by simp [order], known, answered⟩
  | see store reference value rest started first valued =>
      refine ⟨seen ++ [(store, reference)], by simp [order, first], ?_, ?_⟩
      · rcases tracked.exists_answered first with ⟨fetch, member, _, rfl⟩
        have added := Table.keys_insert_perm (tracked.not_mem_keys member) value
        rw [List.map_append]
        exact (List.perm_append_singleton ..).trans ((known.cons _).trans added.symm)
      · intro lookup member
        rcases List.mem_append.mp member with earlier | now
        · exact answered lookup earlier
        · rw [List.mem_singleton.mp now, valued]
          rfl
  | _ => exact ⟨seen, order, known, answered⟩

theorem Transition.explained (transition : Transition answers resolution event next)
    (unsettled : resolution.outcome = none) (tracked : Tracked references resolution) :
    Explained answers references next := by
  intro fault failed
  cases transition with
  | refuse reference cause waiting unserved =>
      cases failed
      rcases storeOf_eq_error unserved
      exact Or.inl ⟨reference, tracked.mem_references_iff.mpr (Or.inl waiting), unserved, rfl⟩
  | fail store reference cause rest started first answered =>
      cases failed
      exact Or.inr ⟨started, store, reference, rest, cause, first, answered, rfl⟩
  | _ => simp [unsettled] at failed

namespace Reaches

theorem queued (path : Reaches answers references events resolution) :
    Queued answers resolution := by
  apply follow_induction (fun _ => Queued answers) ?_ ?_ path
  · exact ⟨[], rfl, List.Perm.refl _, by simp⟩
  · intro events middle event next before queued taken
    have tracked : Tracked references middle := Reaches.tracked before
    exact queued.step tracked (transition_of_step taken).2

theorem explained (path : Reaches answers references events resolution) :
    Explained answers references resolution := by
  apply follow_induction (fun _ => Explained answers references) ?_ ?_ path
  · intro fault failed
    cases failed
  · intro events middle event next before _ taken
    have tracked : Tracked references middle := Reaches.tracked before
    rcases transition_of_step taken with ⟨unsettled, transition⟩
    exact transition.explained unsettled tracked

theorem sorted_values (path : Reaches answers references events resolution) :
    Table.Sorted resolution.values := by
  apply follow_induction (fun _ resolution => Table.Sorted resolution.values) ?_ ?_ path
  · exact List.Pairwise.nil
  · intro events middle event next _ sorted taken
    cases (transition_of_step taken).2 with
    | see store reference value rest started first answered => exact sorted.insert reference value
    | _ => exact sorted

/-- A reference that no store serves waits as long as the resolution goes on. -/
theorem mem_waiting (path : Reaches answers references events resolution) {reference : String}
    {cause : SecretError} (member : reference ∈ references)
    (unserved : storeOf reference = .error cause) : reference ∈ resolution.waiting := by
  rcases path.tracked.mem_references_iff.mp member with
    waiting | ⟨fetch, fetched, rfl⟩ | valued
  · exact waiting
  · have served := path.tracked.fetchesServed fetch fetched
    rw [unserved] at served
    cases served
  · rcases Table.mem_keys_iff.mp valued with ⟨value, found⟩
    have answered := path.truthful.found reference value found
    rw [answerOf_eq_error unserved] at answered
    cases answered

theorem exists_values (path : Reaches answers references events resolution) {outcome : Outcome}
    (settled : resolution.outcome = some outcome)
    (answered : ∀ reference ∈ references, ∃ value, answerOf answers reference = .ok value) :
    ∃ values, outcome = .ok values := by
  have succeeded : outcome.isOk := by
    rw [path.isOk_iff settled]
    intro reference member
    rcases answered reference member with ⟨value, found⟩
    rw [found]
    rfl
  cases outcome with
  | ok values => exact ⟨values, rfl⟩
  | error fault => cases succeeded

theorem find?_values_of_ok (path : Reaches answers references events resolution)
    {values : List (String × String)} (succeeded : resolution.outcome = some (.ok values))
    {reference value : String} :
    Table.find? reference values = some value ↔
      reference ∈ references ∧ answerOf answers reference = .ok value := by
  constructor
  · intro found
    rcases path.truthful.concluded values succeeded with ⟨_, _, rfl⟩
    have known : reference ∈ Table.keys resolution.values := Table.mem_keys_iff.mpr ⟨value, found⟩
    exact ⟨path.tracked.mem_references_iff.mpr (Or.inr (Or.inr known)),
      path.truthful.found reference value found⟩
  · rintro ⟨member, answered⟩
    rcases path.values_of_ok succeeded member with ⟨other, found, otherAnswered⟩
    rw [answered] at otherAnswered
    cases otherAnswered
    exact found

/-- The answers of the stores to a set of references determine the values that are found. -/
theorem values_unique {others : List String} {otherEvents : List Event} {other : Resolution}
    (path : Reaches answers references events resolution)
    (otherPath : Reaches answers others otherEvents other)
    (same : ∀ reference, reference ∈ others ↔ reference ∈ references)
    {values otherValues : List (String × String)}
    (succeeded : resolution.outcome = some (.ok values))
    (otherSucceeded : other.outcome = some (.ok otherValues)) : otherValues = values := by
  have sorted : Table.Sorted values := by
    rw [(path.truthful.concluded values succeeded).2.2]
    exact path.sorted_values
  have otherSorted : Table.Sorted otherValues := by
    rw [(otherPath.truthful.concluded otherValues otherSucceeded).2.2]
    exact otherPath.sorted_values
  apply otherSorted.ext sorted
  intro reference
  apply Option.ext
  intro value
  rw [otherPath.find?_values_of_ok otherSucceeded, path.find?_values_of_ok succeeded, same]

/-- Every resolution ends after boundedly many events. -/
theorem length_add_work_le (path : Reaches answers references events resolution) :
    events.length + resolution.work ≤ 4 * references.eraseDups.length + 1 := by
  apply follow_induction (fun events resolution =>
    events.length + resolution.work ≤ 4 * references.eraseDups.length + 1) ?_ ?_ path
  · simp [Resolution.initial, work, fetchWork]
  · intro events middle event next before bounded taken
    have tracked : Tracked references middle := Reaches.tracked before
    rcases transition_of_step taken with ⟨unsettled, transition⟩
    have less := transition.work_lt tracked unsettled
    simp only [List.length_append, List.length_singleton]
    omega

/-- An outcome that is not one of an unserved reference is that of the first failure. -/
theorem first_failure (path : Reaches answers references events resolution)
    (served : ∀ reference ∈ references, ∃ store, storeOf reference = .ok store)
    {fault : SecretError} (failed : resolution.outcome = some (.error fault)) :
    ∃ before store reference after cause,
      resolution.completed = before ++ (store, reference) :: after ∧
      (∀ lookup ∈ before, (answers lookup.1 lookup.2).isOk) ∧
      reference ∈ references ∧ storeOf reference = .ok store ∧
      answers store reference = .error cause ∧ fault = .fetch reference cause := by
  rcases path.explained fault failed with
    ⟨reference, member, unserved, _⟩ | ⟨_, store, reference, later, cause, first, failure, rfl⟩
  · rcases served reference member with ⟨store, known⟩
    rw [unserved] at known
    cases known
  · rcases path.queued with ⟨seen, order, _, answered⟩
    have known := path.tracked.finishedServed (store, reference) (first ▸ List.mem_cons_self ..)
    exact ⟨seen, store, reference, later, cause, by rw [order, first], answered,
      path.tracked.finished_mem_references first, known, failure, rfl⟩

/-- A resolution with an unserved reference ends with the error of one. -/
theorem unserved_of_settled (path : Reaches answers references events resolution)
    {reference : String} {cause : SecretError} (member : reference ∈ references)
    (unserved : storeOf reference = .error cause) {outcome : Outcome}
    (settled : resolution.outcome = some outcome) :
    ∃ unsupported ∈ references,
      storeOf unsupported = .error (.unsupportedStore unsupported) ∧
      outcome = .error (.fetch unsupported (.unsupportedStore unsupported)) := by
  have waiting := path.mem_waiting member unserved
  cases outcome with
  | ok values =>
      have none := (path.truthful.concluded values settled).1
      simp [none] at waiting
  | error fault =>
      rcases path.explained fault settled with ⟨other, known, refused, rfl⟩ | ⟨none, _⟩
      · exact ⟨other, known, refused, rfl⟩
      · simp [none] at waiting

end Reaches

end Resolution

open Resolution

/--
What a resolution ends with depends on the order of its fetches only in which failure comes first.
If every reference is answered with a value, all orders end with the table of these values. If no
store serves some reference, one of those is blamed, whatever the stores answer. If all are served,
the first lookup to be completed that failed is blamed. Nothing is found in part, and every order
comes to an end.
-/
theorem outcome_independent_of_order {answers : Answers} {references : List String}
    {events : List Event} {resolution : Resolution}
    (path : Reaches answers references events resolution) :
    (∀ outcome, resolution.outcome = some outcome →
      ((∀ reference ∈ references, ∃ value, answerOf answers reference = .ok value) →
        ∃ values, outcome = .ok values ∧
          (∀ reference value, Table.find? reference values = some value ↔
            reference ∈ references ∧ answerOf answers reference = .ok value) ∧
          ∀ others otherEvents other otherOutcome,
            (∀ reference, reference ∈ others ↔ reference ∈ references) →
            Reaches answers others otherEvents other →
            other.outcome = some otherOutcome → otherOutcome = outcome) ∧
      ((∃ reference ∈ references, storeOf reference = .error (.unsupportedStore reference)) →
        ∃ reference ∈ references,
          storeOf reference = .error (.unsupportedStore reference) ∧
          outcome = .error (.fetch reference (.unsupportedStore reference))) ∧
      ((∀ reference ∈ references, ∃ store, storeOf reference = .ok store) →
        (∃ reference ∈ references, ∃ cause, answerOf answers reference = .error cause) →
        ∃ before store reference after cause,
          resolution.completed = before ++ (store, reference) :: after ∧
          (∀ lookup ∈ before, (answers lookup.1 lookup.2).isOk) ∧
          reference ∈ references ∧ storeOf reference = .ok store ∧
          answers store reference = .error cause ∧
          outcome = .error (.fetch reference cause)) ∧
      ∀ values, outcome = .ok values →
        ∀ reference ∈ references, ∃ value, Table.find? reference values = some value ∧
          answerOf answers reference = .ok value) ∧
    events.length ≤ 4 * references.eraseDups.length + 1 ∧
    ∃ rest final outcome, follow (step answers) resolution rest = some final ∧
      final.outcome = some outcome := by
  refine ⟨?_, ?_, exists_completion answers path.tracked⟩
  · intro outcome settled
    refine ⟨?_, ?_, ?_, ?_⟩
    · intro answered
      rcases path.exists_values settled answered with ⟨values, rfl⟩
      refine ⟨values, rfl, fun _ _ => path.find?_values_of_ok settled, ?_⟩
      intro others otherEvents other otherOutcome same otherPath otherSettled
      have otherAnswered : ∀ reference ∈ others, ∃ value,
          answerOf answers reference = .ok value := by
        intro reference member
        exact answered reference ((same reference).mp member)
      rcases otherPath.exists_values otherSettled otherAnswered with ⟨otherValues, rfl⟩
      rw [path.values_unique otherPath same settled otherSettled]
    · rintro ⟨reference, member, unserved⟩
      exact path.unserved_of_settled member unserved settled
    · rintro served ⟨reference, member, cause, failure⟩
      cases outcome with
      | ok values =>
          rcases path.values_of_ok settled member with ⟨value, _, answered⟩
          rw [failure] at answered
          cases answered
      | error fault =>
          rcases path.first_failure served settled with
            ⟨before, store, first, after, cause, order, answered, known, chosen, failed, rfl⟩
          exact ⟨before, store, first, after, cause, order, answered, known, chosen, failed, rfl⟩
    · rintro values rfl reference member
      exact path.values_of_ok settled member
  · have bounded := path.length_add_work_le
    omega

/-- Answers of stores that know one parameter only. -/
def oneAnswer : Answers := fun _ reference =>
  if reference = "known" then .ok "value" else .error (.store .notInstalled)

/-- A resolution whose lookup that was asked last fails, and is completed first. -/
def overtakingEvents : List Event :=
  [.start "known", .ask "known", .start "lost", .ask "lost", .answer "lost", .answer "known", .see]

/-- The end of that resolution. -/
def overtaken : Resolution where
  waiting := []
  fetches := [⟨"known", .parameters, .answered⟩, ⟨"lost", .parameters, .answered⟩]
  lookups := [(.parameters, "known"), (.parameters, "lost")]
  completed := [(.parameters, "lost"), (.parameters, "known")]
  finished := [(.parameters, "lost"), (.parameters, "known")]
  outcome := some (.error (.fetch "lost" (.store .notInstalled)))

theorem overtaking_failure_blamed :
    Reaches oneAnswer ["known", "lost"] overtakingEvents overtaken ∧
      ∃ before store reference after cause,
        overtaken.completed = before ++ (store, reference) :: after ∧
        (∀ lookup ∈ before, (oneAnswer lookup.1 lookup.2).isOk) ∧
        oneAnswer store reference = .error cause ∧
        overtaken.outcome = some (.error (.fetch reference cause)) := by
  have path : Reaches oneAnswer ["known", "lost"] overtakingEvents overtaken := rfl
  have served : ∀ reference ∈ ["known", "lost"], ∃ store, storeOf reference = .ok store := by
    intro reference member
    simp only [List.mem_cons, List.not_mem_nil, or_false] at member
    rcases member with rfl | rfl <;> exact ⟨.parameters, rfl⟩
  rcases ((outcome_independent_of_order path).1 _ rfl).2.2.1 served
    ⟨"lost", by simp, _, rfl⟩ with
    ⟨before, store, reference, after, cause, order, answered, _, _, failed, blamed⟩
  exact ⟨path, before, store, reference, after, cause, order, answered, failed,
    congrArg some blamed⟩

end Workload.Secret
