import Workload.Proofs.Follow
import Workload.Proofs.Table
import Workload.Secret.Resolution

/-!
# Every reference has one fetch

Whatever the order in which the fetches of a resolution take their steps, each reference waits, is
fetched or has its value: `Tracked` says that these three make up the references, and that the
lookups made are those of the fetches that have asked.
-/

namespace Workload.Secret

/-- The fetch has asked its store. -/
def Fetch.hasAsked (fetch : Fetch) : Bool :=
  fetch.progress != .started

/-- The store of the fetch has answered. -/
def Fetch.isAnswered (fetch : Fetch) : Bool :=
  fetch.progress = .answered

namespace Resolution

/-- The events are one order in which the fetches of the references take their steps. -/
def Reaches (answers : Answers) (references : List String) (events : List Event)
    (resolution : Resolution) : Prop :=
  follow (step answers) (.initial references) events = some resolution

/-- What one event makes of a resolution, with one rule for each way in which it can happen. -/
inductive Transition (answers : Answers) (resolution : Resolution) : Event → Resolution → Prop where
  | start (reference : String) (store : Store) (waiting : reference ∈ resolution.waiting)
      (served : storeOf reference = .ok store) :
      Transition answers resolution (.start reference)
        { resolution with
          waiting := resolution.waiting.erase reference
          fetches := resolution.fetches ++ [{ reference, store }] }
  | refuse (reference : String) (cause : SecretError) (waiting : reference ∈ resolution.waiting)
      (unserved : storeOf reference = .error cause) :
      Transition answers resolution (.start reference)
        { resolution with outcome := some (.error (.fetch reference cause)) }
  | ask (reference : String) (fetch : Fetch)
      (found : resolution.fetch? reference .started = some fetch) :
      Transition answers resolution (.ask reference)
        { resolution with
          fetches := resolution.withProgress reference .asked
          lookups := resolution.lookups ++ [(fetch.store, reference)] }
  | answer (reference : String) (fetch : Fetch)
      (found : resolution.fetch? reference .asked = some fetch) :
      Transition answers resolution (.answer reference)
        { resolution with
          fetches := resolution.withProgress reference .answered
          completed := resolution.completed ++ [(fetch.store, reference)]
          finished := resolution.finished ++ [(fetch.store, reference)] }
  | see (store : Store) (reference value : String) (rest : List (Store × String))
      (started : resolution.waiting = [])
      (first : resolution.finished = (store, reference) :: rest)
      (answered : answers store reference = .ok value) :
      Transition answers resolution .see
        { resolution with
          finished := rest
          fetches := resolution.fetches.filter fun fetch => fetch.reference != reference
          values := Table.insert reference value resolution.values }
  | fail (store : Store) (reference : String) (cause : SecretError)
      (rest : List (Store × String)) (started : resolution.waiting = [])
      (first : resolution.finished = (store, reference) :: rest)
      (answered : answers store reference = .error cause) :
      Transition answers resolution .see
        { resolution with outcome := some (.error (.fetch reference cause)) }
  | conclude (started : resolution.waiting = []) (seen : resolution.fetches = []) :
      Transition answers resolution .conclude
        { resolution with outcome := some (.ok resolution.values) }

variable {answers : Answers} {references : List String} {events : List Event}
  {resolution next : Resolution} {event : Event}

theorem transition_of_step (taken : step answers resolution event = some next) :
    resolution.outcome = none ∧ Transition answers resolution event next := by
  unfold step at taken
  split at taken
  · cases taken
  · rename_i unsettled
    refine ⟨by simpa using unsettled, ?_⟩
    split at taken
    case h_1 reference =>
      split at taken
      · rename_i waiting
        split at taken
        · rename_i store served
          cases taken
          exact .start reference store waiting served
        · rename_i cause unserved
          cases taken
          exact .refuse reference cause waiting unserved
      · cases taken
    case h_2 reference =>
      split at taken
      · rename_i fetch found
        cases taken
        exact .ask reference fetch found
      · cases taken
    case h_3 reference =>
      split at taken
      · rename_i fetch found
        cases taken
        exact .answer reference fetch found
      · cases taken
    case h_4 =>
      split at taken
      · rename_i store reference rest started first
        split at taken
        · rename_i value answered
          cases taken
          exact .see store reference value rest started first answered
        · rename_i cause answered
          cases taken
          exact .fail store reference cause rest started first answered
      · cases taken
    case h_5 =>
      split at taken
      · rename_i ended
        simp only [Bool.and_eq_true, List.isEmpty_iff] at ended
        cases taken
        exact .conclude ended.1 ended.2
      · cases taken

theorem step_of_transition (unsettled : resolution.outcome = none)
    (transition : Transition answers resolution event next) :
    step answers resolution event = some next := by
  cases transition <;> simp_all [step]

/-! ## Where each reference is -/

/-- Each reference waits, is fetched or has its value. -/
structure Tracked (references : List String) (resolution : Resolution) : Prop where
  parted : (resolution.waiting ++ resolution.fetches.map Fetch.reference ++
    Table.keys resolution.values).Perm references.eraseDups
  asked : (resolution.lookups.map Prod.snd).Perm
    ((resolution.fetches.filter Fetch.hasAsked).map Fetch.reference ++
      Table.keys resolution.values)
  answered : (resolution.finished.map Prod.snd).Perm
    ((resolution.fetches.filter Fetch.isAnswered).map Fetch.reference)
  fetchesServed : ∀ fetch ∈ resolution.fetches, storeOf fetch.reference = .ok fetch.store
  lookupsServed : ∀ lookup ∈ resolution.lookups, storeOf lookup.2 = .ok lookup.1
  finishedServed : ∀ lookup ∈ resolution.finished, storeOf lookup.2 = .ok lookup.1

theorem fetch?_eq_some {reference : String} {progress : Progress} {fetch : Fetch}
    (found : resolution.fetch? reference progress = some fetch) :
    fetch ∈ resolution.fetches ∧ fetch.reference = reference ∧ fetch.progress = progress := by
  have matching := List.find?_some found
  simp only [Bool.and_eq_true, decide_eq_true_eq] at matching
  exact ⟨List.mem_of_find?_eq_some found, matching⟩

/-- The fetch of a reference stands in one place, in which alone it is changed or dropped. -/
theorem exists_fetches_split (distinct : (resolution.fetches.map Fetch.reference).Nodup)
    {fetch : Fetch} (member : fetch ∈ resolution.fetches) :
    ∃ before after, resolution.fetches = before ++ fetch :: after ∧
      (∀ progress, resolution.withProgress fetch.reference progress =
        before ++ { fetch with progress } :: after) ∧
      resolution.fetches.filter (fun other => other.reference != fetch.reference) =
        before ++ after := by
  rcases List.append_of_mem member with ⟨before, after, split⟩
  rw [split] at distinct
  simp only [List.map_append, List.map_cons, List.nodup_append, List.nodup_cons] at distinct
  have apartBefore : ∀ other ∈ before, other.reference ≠ fetch.reference := by
    intro other among
    exact distinct.2.2 _ (List.mem_map_of_mem among) _ (List.mem_cons_self ..)
  have apartAfter : ∀ other ∈ after, other.reference ≠ fetch.reference := by
    intro other among same
    exact distinct.2.1.1 (same ▸ List.mem_map_of_mem among)
  refine ⟨before, after, split, ?_, ?_⟩
  · intro progress
    have unchanged : ∀ others : List Fetch,
        (∀ other ∈ others, other.reference ≠ fetch.reference) →
        others.map (fun other =>
          if other.reference = fetch.reference then { other with progress } else other) =
            others := by
      intro others apart
      rw [List.map_congr_left fun other among => if_neg (apart other among), List.map_id']
    rw [withProgress, split, List.map_append, List.map_cons, unchanged before apartBefore,
      unchanged after apartAfter, if_pos rfl]
  · rw [split, List.filter_append, List.filter_cons_of_neg (by simp),
      List.filter_eq_self.mpr (by simpa using apartBefore),
      List.filter_eq_self.mpr (by simpa using apartAfter)]

/-- Changing how far a fetch has come leaves its reference and its store alone. -/
theorem served_withProgress (served : ∀ fetch ∈ resolution.fetches,
      storeOf fetch.reference = .ok fetch.store) (reference : String) (progress : Progress) :
    ∀ fetch ∈ resolution.withProgress reference progress,
      storeOf fetch.reference = .ok fetch.store := by
  intro fetch member
  rw [withProgress, List.mem_map] at member
  rcases member with ⟨earlier, earlierMember, rfl⟩
  have before := served earlier earlierMember
  split <;> exact before

theorem perm_concat_middle {Item : Type} (item : Item) (first second : List Item) :
    (first ++ second ++ [item]).Perm (first ++ item :: second) :=
  (List.perm_append_singleton ..).trans List.perm_middle.symm

theorem perm_move {Item : Type} (item : Item) (first second third : List Item) :
    (first ++ item :: second ++ third).Perm (first ++ second ++ item :: third) := by
  rw [List.append_assoc, List.cons_append]
  refine List.perm_middle.trans ?_
  rw [← List.append_assoc]
  exact List.perm_middle.symm

namespace Tracked

theorem nodup (tracked : Tracked references resolution) :
    (resolution.waiting ++ resolution.fetches.map Fetch.reference ++
      Table.keys resolution.values).Nodup :=
  (tracked.parted.nodup_iff).mpr (nodup_eraseDups references)

theorem nodup_fetches (tracked : Tracked references resolution) :
    (resolution.fetches.map Fetch.reference).Nodup :=
  (List.nodup_append.mp (List.nodup_append.mp tracked.nodup).1).2.1

theorem nodup_lookups (tracked : Tracked references resolution) :
    (resolution.lookups.map Prod.snd).Nodup := by
  rw [tracked.asked.nodup_iff]
  refine List.Nodup.sublist (List.Sublist.append_right ?_ _) tracked.nodup
  exact (List.filter_sublist.map _).trans (List.sublist_append_right ..)

/-- The reference of a fetch has no value yet. -/
theorem not_mem_keys (tracked : Tracked references resolution) {fetch : Fetch}
    (member : fetch ∈ resolution.fetches) : fetch.reference ∉ Table.keys resolution.values := by
  intro known
  have fetched := List.mem_append_right resolution.waiting
    (List.mem_map_of_mem (f := Fetch.reference) member)
  exact (List.nodup_append.mp tracked.nodup).2.2 _ fetched _ known rfl

theorem exists_answered (tracked : Tracked references resolution) {store : Store}
    {reference : String} {rest : List (Store × String)}
    (first : resolution.finished = (store, reference) :: rest) :
    ∃ fetch ∈ resolution.fetches, fetch.isAnswered ∧ fetch.reference = reference := by
  have member : reference ∈ resolution.finished.map Prod.snd := by simp [first]
  rw [tracked.answered.mem_iff, List.mem_map] at member
  rcases member with ⟨fetch, answered, same⟩
  rw [List.mem_filter] at answered
  exact ⟨fetch, answered.1, answered.2, same⟩

theorem initial (references : List String) : Tracked references (.initial references) := by
  constructor <;> simp [Resolution.initial, Table.keys]

theorem step (tracked : Tracked references resolution)
    (transition : Transition answers resolution event next) : Tracked references next := by
  have served := tracked.fetchesServed
  cases transition with
  | start reference store waiting served =>
      refine ⟨?_, ?_, ?_, ?_, tracked.lookupsServed, tracked.finishedServed⟩
      · refine List.Perm.trans ?_ tracked.parted
        refine List.Perm.append_right _ ?_
        have first := (List.perm_cons_erase waiting).symm
        rw [List.map_append, ← List.append_assoc]
        refine List.Perm.trans List.perm_append_comm ?_
        exact first.append_right (resolution.fetches.map Fetch.reference)
      · simpa [Fetch.hasAsked] using tracked.asked
      · simpa [Fetch.isAnswered] using tracked.answered
      · intro fetch member
        rcases List.mem_append.mp member with earlier | now
        · exact tracked.fetchesServed fetch earlier
        · rw [List.mem_singleton.mp now]
          exact served
  | refuse reference cause waiting unserved =>
      exact ⟨tracked.parted, tracked.asked, tracked.answered, served, tracked.lookupsServed,
        tracked.finishedServed⟩
  | ask reference fetch found =>
      rcases fetch?_eq_some found with ⟨member, rfl, due⟩
      rcases exists_fetches_split tracked.nodup_fetches member with ⟨before, after, split, now, _⟩
      rcases tracked with ⟨parted, asked, answered, _, lookupsServed, finishedServed⟩
      refine ⟨?_, ?_, ?_, served_withProgress served _ _, ?_, finishedServed⟩
      · simpa [now, split] using parted
      · have further := asked.append_right [fetch.reference]
        simp only [split, List.filter_append, List.filter_cons, Fetch.hasAsked, due,
          List.map_append, bne_self_eq_false, Bool.false_eq_true, if_false] at further
        have placed := perm_concat_middle fetch.reference
          ((before.filter Fetch.hasAsked).map Fetch.reference)
          ((after.filter Fetch.hasAsked).map Fetch.reference ++ Table.keys resolution.values)
        simpa [now, List.filter_cons, Fetch.hasAsked] using further.trans (by simpa using placed)
      · simpa [now, split, due, Fetch.isAnswered] using answered
      · intro lookup made
        rcases List.mem_append.mp made with earlier | last
        · exact lookupsServed lookup earlier
        · rw [List.mem_singleton.mp last]
          exact served fetch member
  | answer reference fetch found =>
      rcases fetch?_eq_some found with ⟨member, rfl, due⟩
      rcases exists_fetches_split tracked.nodup_fetches member with ⟨before, after, split, now, _⟩
      rcases tracked with ⟨parted, asked, answered, _, lookupsServed, finishedServed⟩
      refine ⟨?_, ?_, ?_, served_withProgress served _ _, lookupsServed, ?_⟩
      · simpa [now, split] using parted
      · simpa [now, split, due, Fetch.hasAsked, List.filter_cons] using asked
      · have further := answered.append_right [fetch.reference]
        simp only [split, List.filter_append, List.filter_cons, Fetch.isAnswered, due,
          List.map_append, reduceCtorEq, decide_false, Bool.false_eq_true, if_false] at further
        have placed := perm_concat_middle fetch.reference
          ((before.filter Fetch.isAnswered).map Fetch.reference)
          ((after.filter Fetch.isAnswered).map Fetch.reference)
        simpa [now, List.filter_cons, Fetch.isAnswered] using further.trans placed
      · intro lookup made
        rcases List.mem_append.mp made with earlier | last
        · exact finishedServed lookup earlier
        · rw [List.mem_singleton.mp last]
          exact served fetch member
  | see store reference value rest started first answered =>
      rcases tracked.exists_answered first with ⟨fetch, member, due, rfl⟩
      have fresh := Table.keys_insert_perm (tracked.not_mem_keys member) value
      rcases exists_fetches_split tracked.nodup_fetches member with ⟨before, after, split, _, left⟩
      rcases tracked with ⟨parted, asked, answers, _, lookupsServed, finishedServed⟩
      have hasAsked : fetch.hasAsked := by
        simp only [Fetch.isAnswered, decide_eq_true_eq] at due
        simp [Fetch.hasAsked, due]
      rw [split] at parted asked answers
      simp only [List.filter_append, List.filter_cons, hasAsked, due, if_true, List.map_append,
        List.map_cons, first] at parted asked answers
      -- The reference moves from the fetches to the values, in what there is and in what was asked.
      refine ⟨?_, ?_, ?_, ?_, lookupsServed, ?_⟩
      · rw [left, List.map_append, started, List.nil_append]
        rw [started, List.nil_append] at parted
        exact (fresh.append_left _).trans ((perm_move _ _ _ _).symm.trans parted)
      · rw [left, List.filter_append, List.map_append]
        exact asked.trans ((perm_move _ _ _ _).trans (fresh.symm.append_left _))
      · rw [left, List.filter_append, List.map_append]
        exact (answers.trans List.perm_middle).cons_inv
      · intro other kept
        exact served other (List.mem_of_mem_filter kept)
      · intro lookup later
        exact finishedServed lookup (first ▸ List.mem_cons_of_mem _ later)
  | fail store reference cause rest started first answered =>
      exact ⟨tracked.parted, tracked.asked, tracked.answered, served, tracked.lookupsServed,
        tracked.finishedServed⟩
  | conclude started seen =>
      exact ⟨tracked.parted, tracked.asked, tracked.answered, served, tracked.lookupsServed,
        tracked.finishedServed⟩

end Tracked

theorem Reaches.tracked (path : Reaches answers references events resolution) :
    Tracked references resolution :=
  follow_invariant (fun _ _ _ taken tracked => tracked.step (transition_of_step taken).2)
    (Tracked.initial references) path

end Resolution

end Workload.Secret
