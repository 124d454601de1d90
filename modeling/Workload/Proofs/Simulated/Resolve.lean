import Mathlib.Data.List.Perm.Subperm
import Workload.Proofs.Simulated.Schedule

/-!
# The simulated resolution is a schedule

`resolve` is one of the schedules on the clock. It tries events in an order of its own and leaves
out those that are impossible, and it jumps from each instant at which answers are due to the next
one. Both are harmless: what it takes is a schedule, and between two such instants every fetch
waits.
-/

namespace Workload.Simulated

open Secret

/-! ## Trying events in order -/

section TakeAll

variable {answers : Answers} {resolution : Resolution}

@[simp]
theorem takeAll_nil : takeAll answers resolution [] = resolution := rfl

@[simp]
theorem takeAll_cons {event : Resolution.Event} {events : List Resolution.Event} :
    takeAll answers resolution (event :: events) =
      takeAll answers ((resolution.step answers event).getD resolution) events := rfl

theorem takeAll_of_settled (settled : resolution.outcome.isSome)
    (events : List Resolution.Event) : takeAll answers resolution events = resolution := by
  induction events with
  | nil => rfl
  | cons event rest hypothesis =>
      have stuck : resolution.step answers event = none := by simp [Resolution.step, settled]
      rw [takeAll_cons, stuck]
      exact hypothesis

/-- All references are served and started. -/
theorem takeAll_starts (answers : Answers) {waiting : List String}
    (unsettled : resolution.outcome = none) (same : resolution.waiting = waiting)
    (supported : ∀ reference ∈ waiting, ∃ store, storeOf reference = .ok store)
    (fresh : ∀ fetch ∈ resolution.fetches, fetch.progress = .started) :
    (takeAll answers resolution (waiting.map .start)).outcome = none ∧
      (takeAll answers resolution (waiting.map .start)).waiting = [] ∧
      ∀ fetch ∈ (takeAll answers resolution (waiting.map .start)).fetches,
        fetch.progress = .started := by
  induction waiting generalizing resolution with
  | nil => exact ⟨unsettled, same, fresh⟩
  | cons reference rest hypothesis =>
      rcases supported reference (List.mem_cons_self ..) with ⟨store, served⟩
      have member : reference ∈ resolution.waiting := by simp [same]
      have taken : resolution.step answers (.start reference) = some _ :=
        Resolution.step_of_transition unsettled (.start reference store member served)
      rw [List.map_cons, takeAll_cons, taken, Option.getD_some]
      apply hypothesis
      · exact unsettled
      · simp [same]
      · intro other known
        exact supported other (List.mem_cons_of_mem _ known)
      · intro fetch known
        rcases List.mem_append.mp known with earlier | now
        · exact fresh fetch earlier
        · rw [List.mem_singleton.mp now]

/-- The events take fetches, each named by its reference, from one progress to another. -/
def Advances (answers : Answers) (act : String → Resolution.Event) (due done : Progress) : Prop :=
  ∀ (resolution : Resolution) (reference : String), resolution.outcome = none →
    match resolution.fetch? reference due with
    | some _ => ∃ next, resolution.step answers (act reference) = some next ∧
        next.outcome = none ∧ next.waiting = resolution.waiting ∧
        next.fetches = resolution.withProgress reference done
    | none => resolution.step answers (act reference) = none

theorem advances_ask (answers : Answers) : Advances answers .ask .started .asked := by
  intro resolution reference unsettled
  split
  · rename_i fetch found
    exact ⟨_, Resolution.step_of_transition unsettled (.ask reference fetch found), unsettled,
      rfl, rfl⟩
  · rename_i missing
    simp [Resolution.step, unsettled, missing]

theorem advances_answer (answers : Answers) : Advances answers .answer .asked .answered := by
  intro resolution reference unsettled
  split
  · rename_i fetch found
    exact ⟨_, Resolution.step_of_transition unsettled (.answer reference fetch found), unsettled,
      rfl, rfl⟩
  · rename_i missing
    simp [Resolution.step, unsettled, missing]

/-- Afterwards every fetch has advanced but those that were not named or not due. -/
theorem Advances.takeAll {act : String → Resolution.Event} {due done : Progress}
    (advances : Advances answers act due done) (named : List String)
    (unsettled : resolution.outcome = none) :
    (takeAll answers resolution (named.map act)).outcome = none ∧
      (takeAll answers resolution (named.map act)).waiting = resolution.waiting ∧
      ∀ fetch ∈ (takeAll answers resolution (named.map act)).fetches,
        ∃ earlier ∈ resolution.fetches,
          earlier.reference ∈ named ∧ fetch = { earlier with progress := done } ∨
          (earlier.reference ∈ named → earlier.progress ≠ due) ∧ fetch = earlier := by
  induction named generalizing resolution with
  | nil => exact ⟨unsettled, rfl, fun fetch member => ⟨fetch, member, Or.inr ⟨by simp, rfl⟩⟩⟩
  | cons reference rest hypothesis =>
      have moves := advances resolution reference unsettled
      split at moves
      · rcases moves with ⟨next, taken, nextUnsettled, waiting, fetches⟩
        rw [List.map_cons, takeAll_cons, taken, Option.getD_some]
        rcases hypothesis nextUnsettled with ⟨outcome, sameWaiting, advanced⟩
        refine ⟨outcome, sameWaiting.trans waiting, ?_⟩
        intro fetch member
        rcases advanced fetch member with ⟨middle, middleMember, cause⟩
        rw [fetches, Resolution.withProgress, List.mem_map] at middleMember
        rcases middleMember with ⟨earlier, earlierMember, rfl⟩
        refine ⟨earlier, earlierMember, ?_⟩
        split at cause
        · rename_i here
          -- If it is named again, it only advances to where it is.
          left
          refine ⟨here ▸ List.mem_cons_self .., ?_⟩
          rcases cause with ⟨_, rfl⟩ | ⟨_, rfl⟩ <;> rfl
        · rename_i apart
          rcases cause with ⟨known, rfl⟩ | ⟨undue, rfl⟩
          · exact Or.inl ⟨List.mem_cons_of_mem _ known, rfl⟩
          · refine Or.inr ⟨?_, rfl⟩
            intro known
            exact undue ((List.mem_cons.mp known).resolve_left apart)
      · rename_i missing
        rw [List.map_cons, takeAll_cons, moves, Option.getD_none]
        rcases hypothesis unsettled with ⟨outcome, waiting, advanced⟩
        refine ⟨outcome, waiting, ?_⟩
        intro fetch member
        rcases advanced fetch member with ⟨earlier, earlierMember, ⟨known, done⟩ | ⟨undue, same⟩⟩
        · exact ⟨earlier, earlierMember, Or.inl ⟨List.mem_cons_of_mem _ known, done⟩⟩
        · refine ⟨earlier, earlierMember, Or.inr ⟨?_, same⟩⟩
          intro known
          rcases List.mem_cons.mp known with here | later
          · simp only [Resolution.fetch?, List.find?_eq_none] at missing
            simpa [here] using missing earlier earlierMember
          · exact undue later

/-- Seen often enough, the finished fetches are all seen unless one of them failed. -/
theorem takeAll_sees (count : Nat) (started : resolution.waiting = [])
    (enough : resolution.finished.length ≤ count)
    (unsettled : (takeAll answers resolution (List.replicate count .see)).outcome = none) :
    (takeAll answers resolution (List.replicate count .see)).waiting = [] ∧
      (takeAll answers resolution (List.replicate count .see)).finished = [] ∧
      ∀ fetch ∈ (takeAll answers resolution (List.replicate count .see)).fetches,
        fetch ∈ resolution.fetches := by
  induction count generalizing resolution with
  | zero => exact ⟨started, List.eq_nil_of_length_eq_zero (Nat.le_zero.mp enough), fun _ => id⟩
  | succ count hypothesis =>
      rw [List.replicate_succ, takeAll_cons] at unsettled ⊢
      cases ended : resolution.outcome with
      | some outcome =>
          have settled : resolution.outcome.isSome := by simp [ended]
          rw [← takeAll_cons, takeAll_of_settled settled, ended] at unsettled
          cases unsettled
      | none =>
          cases finished : resolution.finished with
          | nil =>
              have stuck : resolution.step answers .see = none := by
                simp [Resolution.step, ended, started, finished]
              rw [stuck, Option.getD_none] at unsettled ⊢
              exact hypothesis started (by simp [finished]) unsettled
          | cons lookup others =>
              rw [finished, List.length_cons] at enough
              cases answered : answers lookup.1 lookup.2 with
              | ok value =>
                  have taken := Resolution.step_of_transition ended
                    (.see _ _ value others started finished answered)
                  rw [taken, Option.getD_some] at unsettled ⊢
                  have fewer := Nat.le_of_succ_le_succ enough
                  rcases hypothesis (by exact started) fewer unsettled with
                    ⟨waiting, seen, fetches⟩
                  exact ⟨waiting, seen,
                    fun fetch member => List.mem_of_mem_filter (fetches fetch member)⟩
              | error cause =>
                  have taken := Resolution.step_of_transition ended
                    (.fail _ _ cause others started finished answered)
                  rw [taken, Option.getD_some, takeAll_of_settled (by simp)] at unsettled
                  cases unsettled

end TakeAll

namespace Timed

variable {stores : Stores} {references : List String} {timed : Timed}

/-! ## Schedules that end with the resolution -/

/-- Some schedule leads here and does not wait once there is an outcome. -/
def Arrives (stores : Stores) (references : List String) (timed : Timed) : Prop :=
  ∃ events, Reaches stores references events timed ∧
    (timed.resolution.outcome.isSome → Returns stores references events timed)

namespace Arrives

theorem initial (stores : Stores) (references : List String) :
    Arrives stores references { resolution := .initial references } :=
  ⟨[], rfl, by simp [Resolution.initial]⟩

theorem next (arrives : Arrives stores references timed) {event : Event} {next : Timed}
    (unsettled : timed.resolution.outcome = none) (taken : step stores timed event = some next) :
    Arrives stores references next := by
  rcases arrives with ⟨events, path, _⟩
  exact ⟨events ++ [event], follow_concat_eq_some.mpr ⟨timed, path, taken⟩,
    fun settled => ⟨events, event, timed, rfl, path, unsettled, taken, settled⟩⟩

theorem takeAll (arrives : Arrives stores references timed) {events : List Resolution.Event}
    (due : ∀ event ∈ events, isDue stores timed.elapsed event) :
    Arrives stores references
      { timed with resolution := Simulated.takeAll stores.answers timed.resolution events } := by
  induction events generalizing timed with
  | nil => exact arrives
  | cons event rest hypothesis =>
      have now := due event (List.mem_cons_self ..)
      have later : ∀ event ∈ rest, isDue stores timed.elapsed event := by
        intro other member
        exact due other (List.mem_cons_of_mem _ member)
      rw [takeAll_cons]
      cases taken : timed.resolution.step stores.answers event with
      | none => exact hypothesis arrives later
      | some resolution =>
          have moved := Resolution.transition_of_step taken
          exact hypothesis (arrives.next moved.1 (step_own now taken)) later

theorem waitUntil (arrives : Arrives stores references timed) {time : Nat}
    (ahead : timed.elapsed ≤ time) (unsettled : timed.resolution.outcome = none)
    (pending : ∀ elapsed < time, timed.elapsed ≤ elapsed →
      Pending stores { timed with elapsed }) :
    Arrives stores references { timed with elapsed := time } := by
  induction time, ahead using Nat.le_induction with
  | base => exact arrives
  | succ time ahead hypothesis =>
      have earlier := hypothesis fun elapsed before =>
        pending elapsed (Nat.lt_succ_of_lt before)
      have idle := isIdle_eq_true_iff.mpr
        (Or.inr (pending time (Nat.lt_succ_self time) ahead))
      exact earlier.next unsettled (step_tick idle)

end Arrives

/-! ## From one instant to the next -/

/-- Every fetch has asked and waits for one of the given instants. -/
structure Awaiting (stores : Stores) (resolution : Resolution) (times : List Nat) : Prop where
  started : resolution.waiting = []
  asked : ∀ fetch ∈ resolution.fetches, fetch.progress = .asked
  foreseen : ∀ fetch ∈ resolution.fetches, stores.delay fetch.store ∈ times

/-- A reference whose answer is not due yet is still fetched. -/
theorem Reaches.exists_fetch {events : List Event} (path : Reaches stores references events timed)
    (started : timed.resolution.waiting = []) {reference : String} {store : Secret.Store}
    (member : reference ∈ references) (served : storeOf reference = .ok store)
    (early : timed.elapsed < stores.delay store) :
    ∃ fetch ∈ timed.resolution.fetches, fetch.reference = reference := by
  rcases path.tracked.mem_references_iff.mp member with waiting | fetched | known
  · simp [started] at waiting
  · exact fetched
  · have due := (path.punctual.due _ (path.mem_completed_of_mem_keys known served)).2
    exact absurd due (Nat.not_le_of_lt early)

/-- When the answers that are due have been seen, all other fetches wait for later instants. -/
theorem Awaiting.next {resolution arrived seen : Resolution} {time : Nat} {times : List Nat}
    {named : List String} (awaiting : Awaiting stores resolution (time :: times))
    (unsettled : resolution.outcome = none)
    (known : ∀ fetch ∈ resolution.fetches, stores.delay fetch.store = time →
      fetch.reference ∈ named)
    (arrivedIs : takeAll stores.answers resolution (named.map .answer) = arrived)
    (arrivedTracked : Resolution.Tracked references arrived)
    (seenIs : takeAll stores.answers arrived (List.replicate named.length .see) = seen)
    (seenTracked : Resolution.Tracked references seen) (seenUnsettled : seen.outcome = none) :
    Awaiting stores seen times := by
  rcases (advances_answer stores.answers).takeAll named unsettled with ⟨_, started, advanced⟩
  rw [arrivedIs] at started advanced
  have enough : arrived.finished.length ≤ named.length := by
    have distinct : ((arrived.fetches.filter Fetch.isAnswered).map Fetch.reference).Nodup :=
      arrivedTracked.nodup_fetches.sublist (List.filter_sublist.map _)
    have among : (arrived.fetches.filter Fetch.isAnswered).map Fetch.reference ⊆ named := by
      intro reference member
      rcases List.mem_map.mp member with ⟨fetch, answered, rfl⟩
      rw [List.mem_filter] at answered
      rcases advanced fetch answered.1 with ⟨earlier, earlierMember, ⟨here, rfl⟩ | ⟨_, rfl⟩⟩
      · exact here
      · simp [Fetch.isAnswered, awaiting.asked fetch earlierMember] at answered
    have count := arrivedTracked.answered.length_eq
    rw [List.length_map] at count
    rw [count]
    exact (distinct.subperm among).length_le
  rcases takeAll_sees named.length (started.trans awaiting.started) enough (seenIs ▸ seenUnsettled)
    with ⟨seenStarted, finished, fetches⟩
  rw [seenIs] at seenStarted finished fetches
  have unanswered : ∀ fetch ∈ seen.fetches, ¬fetch.isAnswered := by
    have none := seenTracked.answered
    rw [finished, List.map_nil, List.nil_perm, List.map_eq_nil_iff, List.filter_eq_nil_iff] at none
    exact none
  have unchanged : ∀ fetch ∈ seen.fetches, fetch ∈ resolution.fetches ∧
      stores.delay fetch.store ≠ time := by
    intro fetch member
    rcases advanced fetch (fetches fetch member) with
      ⟨earlier, earlierMember, ⟨_, rfl⟩ | ⟨undue, rfl⟩⟩
    · exact absurd rfl (unanswered _ member)
    · exact ⟨earlierMember, fun now =>
        undue (known fetch earlierMember now) (awaiting.asked fetch earlierMember)⟩
  refine ⟨seenStarted, ?_, ?_⟩
  · intro fetch member
    exact awaiting.asked fetch (unchanged fetch member).1
  · intro fetch member
    rcases unchanged fetch member with ⟨earlier, later⟩
    exact (List.mem_cons.mp (awaiting.foreseen fetch earlier)).resolve_left later

/-- What `resolve` does at one instant, with the wait for it. -/
theorem atInstant_arrives (arrives : Arrives stores references timed) {time : Nat}
    {times : List Nat} (unsettled : timed.resolution.outcome = none)
    (awaiting : Awaiting stores timed.resolution (time :: times))
    (ahead : timed.elapsed ≤ time) (ascending : ∀ later ∈ times, time ≤ later)
    (wanted : ∃ reference ∈ references, ∃ store, storeOf reference = .ok store ∧
      stores.delay store = time) :
    Arrives stores references (atInstant stores timed time) ∧
      (atInstant stores timed time).elapsed = time ∧
      ((atInstant stores timed time).resolution.outcome = none →
        Awaiting stores (atInstant stores timed time).resolution times) := by
  have waited : Arrives stores references { timed with elapsed := time } := by
    apply arrives.waitUntil ahead unsettled
    -- Until then some fetch waits, namely the one for which the instant was chosen.
    intro elapsed before after
    rcases wanted with ⟨reference, member, store, served, rfl⟩
    rcases arrives with ⟨events, path, _⟩
    rcases path.exists_fetch awaiting.started member served (Nat.lt_of_le_of_lt after before) with
      ⟨fetch, fetched, _⟩
    refine ⟨awaiting.started, List.ne_nil_of_mem fetched, awaiting.asked, ?_⟩
    intro other among
    rcases List.mem_cons.mp (awaiting.foreseen other among) with now | later
    · exact now ▸ before
    · exact Nat.lt_of_lt_of_le before (ascending _ later)
  generalize namedIs : (timed.resolution.fetches.filter fun fetch =>
    (stores.store fetch.store).delay = time).map Fetch.reference = named
  generalize arrivedIs : takeAll stores.answers timed.resolution (named.map .answer) = arrived
  generalize seenIs : takeAll stores.answers arrived (List.replicate named.length .see) = seen
  have result : atInstant stores timed time = { resolution := seen, elapsed := time } := by
    have unset : ¬timed.resolution.outcome.isSome := by simp [unsettled]
    rw [atInstant, if_neg unset, ← seenIs, ← arrivedIs, ← namedIs, List.length_map,
      List.map_map, ← List.map_const']
    rfl
  rw [result]
  have answered : Arrives stores references { resolution := arrived, elapsed := time } := by
    rw [← arrivedIs]
    apply waited.takeAll
    intro event member
    rcases List.mem_map.mp member with ⟨reference, due, rfl⟩
    rw [← namedIs] at due
    rcases List.mem_map.mp due with ⟨fetch, dueFetch, rfl⟩
    rcases List.mem_filter.mp dueFetch with ⟨fetched, delay⟩
    rcases arrives with ⟨events, path, _⟩
    rw [isDue_answer (path.tracked.fetchesServed fetch fetched), decide_eq_true_eq]
    exact Nat.le_of_eq (of_decide_eq_true delay)
  have final : Arrives stores references { resolution := seen, elapsed := time } := by
    rw [← seenIs]
    apply answered.takeAll
    intro event member
    rw [(List.mem_replicate.mp member).2]
    rfl
  refine ⟨final, rfl, ?_⟩
  rcases answered with ⟨_, answeredPath, _⟩
  rcases final with ⟨_, finalPath, _⟩
  apply awaiting.next unsettled ?_ arrivedIs answeredPath.tracked seenIs finalPath.tracked
  intro fetch member now
  rw [← namedIs]
  exact List.mem_map_of_mem (List.mem_filter.mpr ⟨member, decide_eq_true now⟩)

/-- From one instant to the next, until there is an outcome or nothing is left to wait for. -/
theorem foldl_atInstant_arrives {times : List Nat} (arrives : Arrives stores references timed)
    (ascending : times.Pairwise (· ≤ ·))
    (wanted : ∀ time ∈ times, ∃ reference ∈ references, ∃ store, storeOf reference = .ok store ∧
      stores.delay store = time)
    (ready : timed.resolution.outcome = none →
      Awaiting stores timed.resolution times ∧ ∀ time ∈ times, timed.elapsed ≤ time) :
    Arrives stores references (times.foldl (atInstant stores) timed) ∧
      ((times.foldl (atInstant stores) timed).resolution.outcome = none →
        Awaiting stores (times.foldl (atInstant stores) timed).resolution []) := by
  induction times generalizing timed with
  | nil => exact ⟨arrives, fun unsettled => (ready unsettled).1⟩
  | cons time rest hypothesis =>
      rw [List.pairwise_cons] at ascending
      have later : ∀ time ∈ rest, ∃ reference ∈ references, ∃ store,
          storeOf reference = .ok store ∧ stores.delay store = time := by
        intro other member
        exact wanted other (List.mem_cons_of_mem _ member)
      rw [List.foldl_cons]
      cases ended : timed.resolution.outcome with
      | some outcome =>
          have stays : atInstant stores timed time = timed := by simp [atInstant, ended]
          rw [stays]
          apply hypothesis arrives ascending.2 later
          intro unsettled
          rw [ended] at unsettled
          cases unsettled
      | none =>
          rcases ready ended with ⟨awaiting, ahead⟩
          rcases atInstant_arrives arrives ended awaiting (ahead time (List.mem_cons_self ..))
            ascending.1 (wanted time (List.mem_cons_self ..)) with ⟨next, elapsed, onward⟩
          apply hypothesis next ascending.2 later
          intro unsettled
          refine ⟨onward unsettled, ?_⟩
          rw [elapsed]
          exact ascending.1

theorem mem_dueTimes_iff {resolution : Resolution} {time : Nat} :
    time ∈ dueTimes stores resolution ↔
      ∃ fetch ∈ resolution.fetches, stores.delay fetch.store = time := by
  rw [dueTimes, List.mem_mergeSort, List.mem_eraseDups, List.mem_map]
  rfl

theorem dueTimes_ascending (stores : Stores) (resolution : Resolution) :
    (dueTimes stores resolution).Pairwise (· ≤ ·) := by
  have sorted : ∀ times : List Nat,
      (times.mergeSort (· ≤ ·)).Pairwise fun first second => decide (first ≤ second) := by
    apply List.pairwise_mergeSort
    · simpa using fun _ _ _ => Nat.le_trans
    · simpa using Nat.le_total
  exact (sorted _).imp of_decide_eq_true

/-- If every reference is served, all of them are asked for before time moves. -/
theorem exists_asked (stores : Stores)
    (supported : ∀ reference ∈ references, ∃ store, storeOf reference = .ok store) :
    ∃ asked, Arrives stores references { resolution := asked } ∧ asked.outcome = none ∧
      Awaiting stores asked (dueTimes stores asked) ∧
      resolve stores references =
        let final := (dueTimes stores asked).foldl (atInstant stores) { resolution := asked }
        { final with resolution := takeAll stores.answers final.resolution [.conclude] } := by
  generalize startedIs : takeAll stores.answers (Resolution.initial references)
    ((Resolution.initial references).waiting.map .start) = started
  generalize askedIs : takeAll stores.answers started
    ((started.fetches.map Fetch.reference).map .ask) = asked
  have unset : (Resolution.initial references).outcome = none := rfl
  have served : ∀ reference ∈ (Resolution.initial references).waiting,
      ∃ store, storeOf reference = .ok store := by
    intro reference member
    exact supported reference (List.mem_eraseDups.mp member)
  rcases takeAll_starts stores.answers unset rfl served (by simp [Resolution.initial]) with
    ⟨unsettled, waiting, fresh⟩
  rw [startedIs] at unsettled waiting fresh
  rcases (advances_ask stores.answers).takeAll (started.fetches.map Fetch.reference) unsettled with
    ⟨outcome, sameWaiting, advanced⟩
  rw [askedIs] at outcome sameWaiting advanced
  have startedArrives : Arrives stores references { resolution := started } := by
    rw [← startedIs]
    apply (Arrives.initial stores references).takeAll
    intro event member
    rcases List.mem_map.mp member with ⟨reference, _, rfl⟩
    rfl
  refine ⟨asked, ?_, outcome, ⟨sameWaiting.trans waiting, ?_, ?_⟩, ?_⟩
  · rw [← askedIs]
    apply startedArrives.takeAll
    intro event member
    rcases List.mem_map.mp member with ⟨reference, _, rfl⟩
    rfl
  · intro fetch member
    rcases advanced fetch member with ⟨earlier, earlierMember, ⟨_, rfl⟩ | ⟨undue, rfl⟩⟩
    · rfl
    · exact absurd (fresh fetch earlierMember) (undue (List.mem_map_of_mem earlierMember))
  · intro fetch member
    exact mem_dueTimes_iff.mpr ⟨fetch, member, rfl⟩
  · rw [← askedIs, ← startedIs, List.map_map]
    rfl

/-- If every reference is served, `resolve` follows one of the schedules to its outcome. -/
theorem exists_returns_resolve (stores : Stores)
    (supported : ∀ reference ∈ references, ∃ store, storeOf reference = .ok store) :
    ∃ events, Returns stores references events (resolve stores references) := by
  rcases exists_asked stores supported with ⟨asked, arrives, unsettled, awaiting, result⟩
  have wanted : ∀ time ∈ dueTimes stores asked, ∃ reference ∈ references, ∃ store,
      storeOf reference = .ok store ∧ stores.delay store = time := by
    intro time member
    rcases mem_dueTimes_iff.mp member with ⟨fetch, fetched, delay⟩
    rcases arrives with ⟨_, path, _⟩
    exact ⟨fetch.reference, path.tracked.fetch_mem_references fetched, fetch.store,
      path.tracked.fetchesServed fetch fetched, delay⟩
  rcases foldl_atInstant_arrives arrives (dueTimes_ascending stores asked) wanted
    (fun _ => ⟨awaiting, fun _ _ => Nat.zero_le _⟩) with ⟨finalArrives, exhausted⟩
  generalize (dueTimes stores asked).foldl (atInstant stores) { resolution := asked } = final
    at result finalArrives exhausted
  have concluded : Arrives stores references (resolve stores references) := by
    rw [result]
    apply finalArrives.takeAll
    intro event member
    rw [List.mem_singleton.mp member]
    rfl
  have settled : (resolve stores references).resolution.outcome.isSome := by
    rw [result]
    cases ended : final.resolution.outcome with
    | some outcome => simp [takeAll_of_settled, ended]
    | none =>
        rcases exhausted ended with ⟨started, _, foreseen⟩
        have seen : final.resolution.fetches = [] := by
          apply List.eq_nil_iff_forall_not_mem.mpr
          intro fetch member
          exact absurd (foreseen fetch member) (List.not_mem_nil)
        simp [Resolution.step, ended, started, seen]
  rcases concluded with ⟨events, _, returns⟩
  exact ⟨events, returns settled⟩

end Timed

end Workload.Simulated
