import Mathlib.Algebra.Ring.Nat
import Workload.Proofs.Secret.Resolution

/-!
# What a resolution ends with

A value that a resolution has found is the answer of the store that serves its reference, and an
error that ends it is the one of a reference that could not be fetched: `Truthful`. Since every
reference has one fetch, a resolution that succeeds has looked each up once. Every step brings the
end closer, and before the end there is always one left, so that each resolution can be completed.
-/

namespace Workload.Secret

/-- What the store that serves a reference answers for it. -/
def answerOf (answers : Answers) (reference : String) : Except SecretError String := do
  answers (← storeOf reference) reference

/-- How many steps a fetch has before it. -/
def Progress.work : Progress → Nat
  | .started => 3
  | .asked => 2
  | .answered => 1

namespace Resolution

/-- How many steps the fetches of a resolution have before them. -/
def fetchWork (fetches : List Fetch) : Nat :=
  (fetches.map fun fetch => fetch.progress.work).sum

/-- How many steps a resolution has before it at most. -/
def work (resolution : Resolution) : Nat :=
  match resolution.outcome with
  | some _ => 0
  | none => 4 * resolution.waiting.length + fetchWork resolution.fetches + 1

variable {answers : Answers} {references : List String} {events : List Event}
  {resolution next : Resolution} {event : Event}

theorem answerOf_eq_of_storeOf {reference : String} {store : Store}
    (served : storeOf reference = .ok store) :
    answerOf answers reference = answers store reference := by
  rw [answerOf, served]
  rfl

theorem answerOf_eq_error {reference : String} {cause : SecretError}
    (unserved : storeOf reference = .error cause) : answerOf answers reference = .error cause := by
  rw [answerOf, unserved]
  rfl

theorem isOk_answerOf_congr {first second : Answers}
    (same : ∀ store reference, (first store reference).isOk = (second store reference).isOk)
    (reference : String) :
    (answerOf first reference).isOk = (answerOf second reference).isOk := by
  cases served : storeOf reference with
  | error cause => rw [answerOf_eq_error served, answerOf_eq_error served]
  | ok store => rw [answerOf_eq_of_storeOf served, answerOf_eq_of_storeOf served, same]

/-- The values and the outcome of a resolution rest on the answers of the stores. -/
structure Truthful (answers : Answers) (references : List String) (resolution : Resolution) :
    Prop where
  found : ∀ reference value, Table.find? reference resolution.values = some value →
    answerOf answers reference = .ok value
  concluded : ∀ values, resolution.outcome = some (.ok values) →
    resolution.waiting = [] ∧ resolution.fetches = [] ∧ values = resolution.values
  failed : ∀ fault, resolution.outcome = some (.error fault) →
    ∃ reference ∈ references, ∃ cause, fault = .fetch reference cause ∧
      answerOf answers reference = .error cause

namespace Tracked

theorem mem_references_iff (tracked : Tracked references resolution) {reference : String} :
    reference ∈ references ↔ reference ∈ resolution.waiting ∨
      (∃ fetch ∈ resolution.fetches, fetch.reference = reference) ∨
      reference ∈ Table.keys resolution.values := by
  rw [← List.mem_eraseDups, ← tracked.parted.mem_iff, List.mem_append, List.mem_append,
    List.mem_map, or_assoc]

theorem fetch_mem_references (tracked : Tracked references resolution) {fetch : Fetch}
    (member : fetch ∈ resolution.fetches) : fetch.reference ∈ references :=
  tracked.mem_references_iff.mpr (Or.inr (Or.inl ⟨fetch, member, rfl⟩))

/-- Only the references of a resolution are looked up. -/
theorem lookup_mem_references (tracked : Tracked references resolution) {lookup : Store × String}
    (member : lookup ∈ resolution.lookups) : lookup.2 ∈ references := by
  have asked := tracked.asked.mem_iff.mp (List.mem_map_of_mem member)
  rcases List.mem_append.mp asked with fetched | known
  · rcases List.mem_map.mp fetched with ⟨fetch, started, same⟩
    rw [← same]
    exact tracked.fetch_mem_references (List.mem_of_mem_filter started)
  · exact tracked.mem_references_iff.mpr (Or.inr (Or.inr known))

theorem finished_mem_references (tracked : Tracked references resolution) {store : Store}
    {reference : String} {rest : List (Store × String)}
    (first : resolution.finished = (store, reference) :: rest) : reference ∈ references := by
  rcases tracked.exists_answered first with ⟨fetch, member, _, rfl⟩
  exact tracked.fetch_mem_references member

end Tracked

namespace Truthful

theorem initial (answers : Answers) (references : List String) :
    Truthful answers references (.initial references) := by
  constructor <;> simp [Resolution.initial, Table.find?]

theorem step (truthful : Truthful answers references resolution)
    (tracked : Tracked references resolution) (unsettled : resolution.outcome = none)
    (transition : Transition answers resolution event next) :
    Truthful answers references next := by
  rcases truthful with ⟨found, _, _⟩
  cases transition with
  | refuse reference cause waiting unserved =>
      refine ⟨found, by simp, ?_⟩
      rintro _ ⟨⟩
      exact ⟨reference, tracked.mem_references_iff.mpr (Or.inl waiting), cause, rfl,
        answerOf_eq_error unserved⟩
  | see store reference value rest started first answered =>
      refine ⟨?_, by simp [unsettled], by simp [unsettled]⟩
      intro other held here
      rw [Table.find?_insert] at here
      split at here
      · rename_i same
        cases here
        subst same
        have served := tracked.finishedServed (store, other) (first ▸ List.mem_cons_self ..)
        exact (answerOf_eq_of_storeOf served).trans answered
      · exact found other held here
  | fail store reference cause rest started first answered =>
      refine ⟨found, by simp, ?_⟩
      rintro _ ⟨⟩
      have served := tracked.finishedServed (store, reference) (first ▸ List.mem_cons_self ..)
      exact ⟨reference, tracked.finished_mem_references first, cause, rfl,
        (answerOf_eq_of_storeOf served).trans answered⟩
  | conclude started seen =>
      refine ⟨found, ?_, by simp⟩
      rintro _ ⟨⟩
      exact ⟨started, seen, rfl⟩
  | _ => exact ⟨found, by simp [unsettled], by simp [unsettled]⟩

end Truthful

/-! ## Completion -/

theorem fetchWork_withProgress_lt (distinct : (resolution.fetches.map Fetch.reference).Nodup)
    {fetch : Fetch} (member : fetch ∈ resolution.fetches) {progress : Progress}
    (less : progress.work < fetch.progress.work) :
    fetchWork (resolution.withProgress fetch.reference progress) <
      fetchWork resolution.fetches := by
  rcases exists_fetches_split distinct member with ⟨before, after, split, now, _⟩
  simp only [fetchWork, now, split, List.map_append, List.map_cons, List.sum_append, List.sum_cons]
  omega

theorem fetchWork_filter_lt (distinct : (resolution.fetches.map Fetch.reference).Nodup)
    {fetch : Fetch} (member : fetch ∈ resolution.fetches) :
    fetchWork (resolution.fetches.filter fun other => other.reference != fetch.reference) <
      fetchWork resolution.fetches := by
  rcases exists_fetches_split distinct member with ⟨before, after, split, _, left⟩
  have due : 0 < fetch.progress.work := by cases fetch.progress <;> decide
  rw [left, split]
  simp only [fetchWork, List.map_append, List.map_cons, List.sum_append, List.sum_cons]
  omega

/-- Every step of a resolution brings its end closer. -/
theorem Transition.work_lt (transition : Transition answers resolution event next)
    (tracked : Tracked references resolution) (unsettled : resolution.outcome = none) :
    next.work < resolution.work := by
  cases transition with
  | start reference store waiting served =>
      have shorter := List.length_erase_of_mem waiting
      have some := List.length_pos_of_mem waiting
      simp only [work, unsettled, shorter, fetchWork, List.map_append, List.sum_append,
        List.map_cons, List.map_nil, List.sum_singleton, Progress.work]
      omega
  | ask reference fetch found =>
      rcases fetch?_eq_some found with ⟨member, rfl, due⟩
      have less : fetchWork (resolution.withProgress fetch.reference .asked) < _ :=
        fetchWork_withProgress_lt tracked.nodup_fetches member (by simp [due, Progress.work])
      simp only [work, unsettled]
      omega
  | answer reference fetch found =>
      rcases fetch?_eq_some found with ⟨member, rfl, due⟩
      have less : fetchWork (resolution.withProgress fetch.reference .answered) < _ :=
        fetchWork_withProgress_lt tracked.nodup_fetches member (by simp [due, Progress.work])
      simp only [work, unsettled]
      omega
  | see store reference value rest started first answered =>
      rcases tracked.exists_answered first with ⟨fetch, member, _, rfl⟩
      have less := fetchWork_filter_lt tracked.nodup_fetches member
      simp only [work, unsettled]
      omega
  | _ => simp [work, unsettled]

/-- When all fetches were started, each of them can go on or have its answer seen. -/
theorem exists_transition_of_fetch (answers : Answers) (tracked : Tracked references resolution)
    (started : resolution.waiting = []) {fetch : Fetch} (member : fetch ∈ resolution.fetches) :
    ∃ event next, Transition answers resolution event next ∧
      ∀ reference, event = .answer reference →
        fetch.reference = reference ∧ fetch.progress = .asked := by
  have found : ∃ other, resolution.fetch? fetch.reference fetch.progress = some other := by
    rw [← Option.isSome_iff_exists, fetch?, List.find?_isSome]
    exact ⟨fetch, member, by simp⟩
  rcases found with ⟨other, found⟩
  cases progress : fetch.progress with
  | started => exact ⟨_, _, .ask fetch.reference other (progress ▸ found), by simp⟩
  | asked => exact ⟨_, _, .answer fetch.reference other (progress ▸ found), by simp⟩
  | answered =>
      have due : fetch.reference ∈ resolution.finished.map Prod.snd := by
        rw [tracked.answered.mem_iff]
        apply List.mem_map_of_mem
        simp [member, Fetch.isAnswered, progress]
      cases finished : resolution.finished with
      | nil => simp [finished] at due
      | cons lookup rest =>
          cases answered : answers lookup.1 lookup.2 with
          | ok value => exact ⟨_, _, .see _ _ value rest started finished answered, by simp⟩
          | error cause => exact ⟨_, _, .fail _ _ cause rest started finished answered, by simp⟩

/-- A resolution without an outcome can go on. -/
theorem exists_transition (answers : Answers) (tracked : Tracked references resolution) :
    ∃ event next, Transition answers resolution event next := by
  cases waiting : resolution.waiting with
  | cons reference others =>
      have member : reference ∈ resolution.waiting := by simp [waiting]
      cases served : storeOf reference with
      | ok store => exact ⟨_, _, .start reference store member served⟩
      | error cause => exact ⟨_, _, .refuse reference cause member served⟩
  | nil =>
      cases fetches : resolution.fetches with
      | nil => exact ⟨_, _, .conclude waiting fetches⟩
      | cons fetch others =>
          have member : fetch ∈ resolution.fetches := by simp [fetches]
          rcases exists_transition_of_fetch answers tracked waiting member with
            ⟨event, next, transition, _⟩
          exact ⟨event, next, transition⟩

/-- Whatever has happened, a resolution can still come to its end. -/
theorem exists_completion (answers : Answers) {resolution : Resolution}
    (tracked : Tracked references resolution) :
    ∃ events final outcome, follow (step answers) resolution events = some final ∧
      final.outcome = some outcome := by
  cases ended : resolution.outcome with
  | some outcome => exact ⟨[], resolution, outcome, rfl, ended⟩
  | none =>
      rcases exists_transition answers tracked with ⟨event, next, transition⟩
      have closer : next.work < resolution.work := transition.work_lt tracked ended
      rcases exists_completion answers (tracked.step transition) with
        ⟨events, final, outcome, path, finished⟩
      refine ⟨event :: events, final, outcome, ?_, finished⟩
      exact follow_cons_eq_some.mpr ⟨next, step_of_transition ended transition, path⟩
termination_by resolution.work

namespace Reaches

theorem truthful (path : Reaches answers references events resolution) :
    Truthful answers references resolution := by
  apply follow_induction (fun _ => Truthful answers references) (.initial answers references)
    ?_ path
  intro events middle event next before truthful taken
  have tracked : Tracked references middle := Reaches.tracked before
  rcases transition_of_step taken with ⟨unsettled, transition⟩
  exact truthful.step tracked unsettled transition

/-- A resolution that succeeds has looked every reference up once. -/
theorem lookups_of_ok (path : Reaches answers references events resolution)
    {values : List (String × String)} (succeeded : resolution.outcome = some (.ok values)) :
    (resolution.lookups.map Prod.snd).Perm references.eraseDups := by
  rcases path.truthful.concluded values succeeded with ⟨waiting, fetches, _⟩
  have parted := path.tracked.parted
  have asked := path.tracked.asked
  simp only [waiting, fetches, List.map_nil, List.filter_nil, List.nil_append] at parted asked
  exact asked.trans parted

/-- A resolution that succeeds has the answer for every reference. -/
theorem values_of_ok (path : Reaches answers references events resolution)
    {values : List (String × String)} (succeeded : resolution.outcome = some (.ok values))
    {reference : String} (member : reference ∈ references) :
    ∃ value, Table.find? reference values = some value ∧
      answerOf answers reference = .ok value := by
  rcases path.truthful.concluded values succeeded with ⟨waiting, fetches, rfl⟩
  have parted := path.tracked.parted
  simp only [waiting, fetches, List.map_nil, List.nil_append] at parted
  have known : reference ∈ Table.keys resolution.values :=
    parted.mem_iff.mpr (List.mem_eraseDups.mpr member)
  rcases Table.mem_keys_iff.mp known with ⟨value, found⟩
  exact ⟨value, found, path.truthful.found reference value found⟩

/-- A resolution that has ended has succeeded if every reference was answered with a value. -/
theorem isOk_iff (path : Reaches answers references events resolution) {outcome : Outcome}
    (settled : resolution.outcome = some outcome) :
    outcome.isOk ↔ ∀ reference ∈ references, (answerOf answers reference).isOk := by
  cases outcome with
  | ok values =>
      refine iff_of_true rfl ?_
      intro reference member
      rcases path.values_of_ok settled member with ⟨value, _, answered⟩
      rw [answered]
      rfl
  | error fault =>
      refine iff_of_false (by simp [Except.isOk, Except.toBool]) ?_
      intro answered
      rcases path.truthful.failed fault settled with ⟨reference, member, cause, _, failure⟩
      have succeeded := answered reference member
      rw [failure] at succeeded
      cases succeeded

end Reaches

end Resolution

end Workload.Secret
