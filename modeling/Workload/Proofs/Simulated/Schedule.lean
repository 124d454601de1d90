import Mathlib.Order.Lattice
import Workload.Proofs.Secret.Order
import Workload.Simulated.Store

/-!
# Resolutions on a clock

Over simulated stores the fetches of a resolution take their steps in any order, but a store does
not answer before its delay is over, and time moves only when nothing else can happen
(`Reaches.isIdle_iff`). The schedules that this leaves are orders of the fetches with ticks between
them, so that all that is known of these orders holds here (`Reaches.own`). What time adds is that
no lookup is completed early and none is late: `Punctual`.
-/

namespace Workload.Simulated

open Secret

/-- How long the lookups in a store take. -/
def Stores.delay (stores : Stores) (store : Secret.Store) : Nat :=
  (stores.store store).delay

namespace Timed

/-- What can happen next on the clock. -/
inductive Event where
  /-- The resolution takes a step. -/
  | own (event : Resolution.Event)
  /-- A millisecond passes. -/
  | tick
deriving Repr, DecidableEq

/-- A store answers when its delay is over; everything else can happen at once. -/
def isDue (stores : Stores) (elapsed : Nat) : Resolution.Event → Bool
  | .answer reference =>
      match storeOf reference with
      | .ok store => stores.delay store ≤ elapsed
      | .error _ => false
  | _ => true

/-- The resolution is over, or all there is to do is to wait for answers that are not due. -/
def isIdle (stores : Stores) (timed : Timed) : Bool :=
  timed.resolution.outcome.isSome ||
    timed.resolution.waiting.isEmpty && !timed.resolution.fetches.isEmpty &&
      timed.resolution.fetches.all fun fetch =>
        fetch.progress = .asked && timed.elapsed < stores.delay fetch.store

/-- One step of a resolution on the clock. -/
def step (stores : Stores) (timed : Timed) : Event → Option Timed
  | .own event =>
      if isDue stores timed.elapsed event then
        (timed.resolution.step stores.answers event).map fun resolution =>
          { timed with resolution }
      else none
  | .tick =>
      if timed.isIdle stores then some { timed with elapsed := timed.elapsed + 1 } else none

/-- The events are the beginning of a schedule for the references. -/
def Reaches (stores : Stores) (references : List String) (events : List Event) (timed : Timed) :
    Prop :=
  follow (step stores) { resolution := .initial references } events = some timed

/-- The last one of the events ends the resolution. -/
def Returns (stores : Stores) (references : List String) (events : List Event) (timed : Timed) :
    Prop :=
  ∃ before event middle, events = before ++ [event] ∧ Reaches stores references before middle ∧
    middle.resolution.outcome = none ∧ step stores middle event = some timed ∧
    timed.resolution.outcome.isSome

/-- The steps that the resolution takes. -/
def ownEvents (events : List Event) : List Resolution.Event :=
  events.filterMap fun
    | .own event => some event
    | .tick => none

/-- Every fetch waits for an answer that is not due. -/
structure Pending (stores : Stores) (timed : Timed) : Prop where
  started : timed.resolution.waiting = []
  fetching : timed.resolution.fetches ≠ []
  asked : ∀ fetch ∈ timed.resolution.fetches, fetch.progress = .asked
  early : ∀ fetch ∈ timed.resolution.fetches, timed.elapsed < stores.delay fetch.store

/-- What an event makes of a resolution on the clock, with one rule for each way. -/
inductive Transition (stores : Stores) (timed : Timed) : Event → Timed → Prop where
  | own (event : Resolution.Event) (next : Resolution) (due : isDue stores timed.elapsed event)
      (unsettled : timed.resolution.outcome = none)
      (moved : Resolution.Transition stores.answers timed.resolution event next) :
      Transition stores timed (.own event) { timed with resolution := next }
  | wait (pending : timed.Pending stores) :
      Transition stores timed .tick { timed with elapsed := timed.elapsed + 1 }
  | rest (settled : timed.resolution.outcome.isSome) :
      Transition stores timed .tick { timed with elapsed := timed.elapsed + 1 }

variable {stores : Stores} {references : List String} {events : List Event} {event : Event}
  {timed next : Timed}

theorem isIdle_eq_true_iff :
    timed.isIdle stores ↔ timed.resolution.outcome.isSome ∨ timed.Pending stores := by
  rw [isIdle, Bool.or_eq_true]
  apply or_congr_right
  simp only [Bool.and_eq_true, List.isEmpty_iff, Bool.not_eq_true', List.isEmpty_eq_false_iff,
    List.all_eq_true, decide_eq_true_eq]
  constructor
  · rintro ⟨⟨started, fetching⟩, waits⟩
    exact ⟨started, fetching, fun fetch member => (waits fetch member).1,
      fun fetch member => (waits fetch member).2⟩
  · rintro ⟨started, fetching, asked, early⟩
    exact ⟨⟨started, fetching⟩, fun fetch member => ⟨asked fetch member, early fetch member⟩⟩

theorem transition_of_step (taken : step stores timed event = some next) :
    Transition stores timed event next := by
  cases event with
  | own event =>
      simp only [step] at taken
      split at taken
      · rename_i due
        rcases Option.map_eq_some_iff.mp taken with ⟨resolution, moved, rfl⟩
        rcases Resolution.transition_of_step moved with ⟨unsettled, moved⟩
        exact .own event resolution due unsettled moved
      · cases taken
  | tick =>
      simp only [step] at taken
      split at taken
      · rename_i idle
        cases taken
        rcases isIdle_eq_true_iff.mp idle with settled | pending
        · exact .rest settled
        · exact .wait pending
      · cases taken

theorem step_own {event : Resolution.Event} {next : Resolution}
    (due : isDue stores timed.elapsed event)
    (taken : timed.resolution.step stores.answers event = some next) :
    step stores timed (.own event) = some { timed with resolution := next } := by
  rw [step, if_pos due, taken]
  rfl

theorem step_tick (idle : timed.isIdle stores) :
    step stores timed .tick = some { timed with elapsed := timed.elapsed + 1 } := by
  rw [step, if_pos idle]

theorem isDue_answer {elapsed : Nat} {reference : String} {store : Secret.Store}
    (served : storeOf reference = .ok store) :
    isDue stores elapsed (.answer reference) = decide (stores.delay store ≤ elapsed) := by
  rw [isDue, served]

/-- No lookup is completed early, none is late, and all are made before time moves. -/
structure Punctual (stores : Stores) (references : List String) (timed : Timed) : Prop where
  due : ∀ lookup ∈ timed.resolution.completed,
    storeOf lookup.2 = .ok lookup.1 ∧ stores.delay lookup.1 ≤ timed.elapsed
  past : timed.resolution.outcome = none → ∀ reference ∈ references, ∀ store,
    storeOf reference = .ok store → stores.delay store < timed.elapsed →
      reference ∈ Table.keys timed.resolution.values
  needed : timed.resolution.outcome = none → timed.elapsed = 0 ∨
    ∃ reference ∈ references, ∃ store, storeOf reference = .ok store ∧
      timed.elapsed ≤ stores.delay store
  together : timed.resolution.outcome = none → 0 < timed.elapsed →
    timed.resolution.waiting = [] ∧ ∀ fetch ∈ timed.resolution.fetches, fetch.hasAsked

namespace Punctual

theorem initial (stores : Stores) (references : List String) :
    Punctual stores references { resolution := .initial references } := by
  constructor <;> simp [Resolution.initial]

/-- The resolution takes a step while time stands still. -/
theorem own (punctual : Punctual stores references timed)
    (tracked : Resolution.Tracked references timed.resolution) {event : Resolution.Event}
    {resolution : Resolution} (due : isDue stores timed.elapsed event)
    (unsettled : timed.resolution.outcome = none)
    (moved : Resolution.Transition stores.answers timed.resolution event resolution) :
    Punctual stores references { timed with resolution } := by
  rcases punctual with ⟨completed, past, needed, together⟩
  cases moved with
  | start reference store waiting served =>
      refine ⟨completed, past, needed, ?_⟩
      intro _ moved
      rw [(together unsettled moved).1] at waiting
      cases waiting
  | refuse reference cause waiting unserved =>
      exact ⟨completed, by simp, by simp, by simp⟩
  | ask reference fetch found =>
      rcases Resolution.fetch?_eq_some found with ⟨member, _, fresh⟩
      refine ⟨completed, past, needed, ?_⟩
      intro _ moved
      have asked := (together unsettled moved).2 fetch member
      simp [Fetch.hasAsked, fresh] at asked
  | answer reference fetch found =>
      rcases Resolution.fetch?_eq_some found with ⟨member, rfl, _⟩
      have served := tracked.fetchesServed fetch member
      refine ⟨?_, past, needed, ?_⟩
      · intro lookup known
        rcases List.mem_append.mp known with earlier | now
        · exact completed lookup earlier
        · rw [List.mem_singleton.mp now]
          exact ⟨served, by simpa [isDue_answer served] using due⟩
      · intro _ moved
        rcases together unsettled moved with ⟨started, asked⟩
        refine ⟨started, ?_⟩
        intro other among
        rcases List.mem_map.mp among with ⟨earlier, earlierMember, rfl⟩
        split
        · rfl
        · exact asked earlier earlierMember
  | see store reference value rest started first answered =>
      refine ⟨completed, ?_, needed, ?_⟩
      · intro _ other known otherStore served gone
        exact Table.mem_keys_insert.mpr
          (Or.inr (past unsettled other known otherStore served gone))
      · intro _ moved
        rcases together unsettled moved with ⟨started, asked⟩
        exact ⟨started, fun fetch kept => asked fetch (List.mem_of_mem_filter kept)⟩
  | fail store reference cause rest started first answered =>
      exact ⟨completed, by simp, by simp, by simp⟩
  | conclude started seen => exact ⟨completed, by simp, by simp, by simp⟩

/-- Time moves while all fetches wait for their answers. -/
theorem wait (punctual : Punctual stores references timed)
    (tracked : Resolution.Tracked references timed.resolution) (pending : timed.Pending stores) :
    Punctual stores references { timed with elapsed := timed.elapsed + 1 } := by
  refine ⟨?_, ?_, ?_, ?_⟩
  · intro lookup known
    rcases punctual.due lookup known with ⟨served, due⟩
    exact ⟨served, Nat.le_succ_of_le due⟩
  · intro _ reference member store served gone
    -- What is still fetched takes longer than this.
    rcases tracked.mem_references_iff.mp member with
      waiting | ⟨fetch, fetched, rfl⟩ | known
    · simp [pending.started] at waiting
    · have early := pending.early fetch fetched
      have same := tracked.fetchesServed fetch fetched
      rw [served] at same
      cases same
      exact absurd early (Nat.not_lt.mpr (Nat.le_of_lt_succ gone))
    · exact known
  · intro _
    rcases List.exists_mem_of_ne_nil _ pending.fetching with ⟨fetch, member⟩
    exact Or.inr ⟨fetch.reference, tracked.fetch_mem_references member, fetch.store,
      tracked.fetchesServed fetch member, pending.early fetch member⟩
  · intro _ _
    refine ⟨pending.started, ?_⟩
    intro fetch member
    simp [Fetch.hasAsked, pending.asked fetch member]

/-- Time moves while nothing happens any more. -/
theorem rest (punctual : Punctual stores references timed)
    (settled : timed.resolution.outcome.isSome) :
    Punctual stores references { timed with elapsed := timed.elapsed + 1 } := by
  have ended : timed.resolution.outcome ≠ none := Option.isSome_iff_ne_none.mp settled
  refine ⟨?_, fun none => absurd none ended, fun none => absurd none ended,
    fun none => absurd none ended⟩
  intro lookup known
  rcases punctual.due lookup known with ⟨served, due⟩
  exact ⟨served, Nat.le_succ_of_le due⟩

end Punctual

namespace Reaches

/-- Without its ticks a schedule is an order of the fetches, and its ticks are the time. -/
theorem own (path : Reaches stores references events timed) :
    Resolution.Reaches stores.answers references (ownEvents events) timed.resolution ∧
      events.length = (ownEvents events).length + timed.elapsed := by
  apply follow_induction (fun events timed =>
    Resolution.Reaches stores.answers references (ownEvents events) timed.resolution ∧
      events.length = (ownEvents events).length + timed.elapsed) ?_ ?_ path
  · exact ⟨rfl, rfl⟩
  rintro events middle event next _ ⟨path, length⟩ taken
  cases transition_of_step taken with
  | own event resolution due unsettled moved =>
      constructor
      · have both : ownEvents (events ++ [.own event]) = ownEvents events ++ [event] := by
          simp [ownEvents]
        rw [both]
        exact follow_concat_eq_some.mpr
          ⟨_, path, Resolution.step_of_transition unsettled moved⟩
      · simp only [ownEvents, List.filterMap_append, List.length_append] at length ⊢
        simp only [length, List.filterMap_cons, List.filterMap_nil, List.length_singleton]
        omega
  | wait _ | rest _ =>
      have same : ownEvents (events ++ [.tick]) = ownEvents events := by simp [ownEvents]
      rw [same]
      exact ⟨path, by simp [length, Nat.add_assoc]⟩

theorem tracked (path : Reaches stores references events timed) :
    Resolution.Tracked references timed.resolution :=
  path.own.1.tracked

theorem punctual (path : Reaches stores references events timed) :
    Punctual stores references timed := by
  apply follow_induction (fun _ => Punctual stores references) (.initial stores references) ?_ path
  intro events middle event next before punctual taken
  have tracked : Resolution.Tracked references middle.resolution := Reaches.tracked before
  cases transition_of_step taken with
  | own event resolution due unsettled moved => exact punctual.own tracked due unsettled moved
  | wait pending => exact punctual.wait tracked pending
  | rest settled => exact punctual.rest settled

theorem mem_completed_of_mem_keys (path : Reaches stores references events timed)
    {reference : String} (known : reference ∈ Table.keys timed.resolution.values)
    {store : Secret.Store} (served : storeOf reference = .ok store) :
    (store, reference) ∈ timed.resolution.completed := by
  rcases path.own.1.queued with ⟨seen, order, keys, _⟩
  rcases List.mem_map.mp (keys.mem_iff.mpr known) with ⟨⟨asked, _⟩, seenLookup, rfl⟩
  have completed : (asked, _) ∈ timed.resolution.completed :=
    order ▸ List.mem_append_left _ seenLookup
  have same := (path.punctual.due _ completed).1
  rw [served] at same
  cases same
  exact completed

/-- As long as there is no outcome, time moves just when nothing else can happen. -/
theorem isIdle_iff (path : Reaches stores references events timed)
    (unsettled : timed.resolution.outcome = none) :
    timed.isIdle stores ↔ ∀ event, step stores timed (.own event) = none := by
  have tracked := path.tracked
  rw [isIdle_eq_true_iff, or_iff_right (by simp [unsettled])]
  constructor
  · rintro ⟨started, fetching, asked, early⟩ event
    apply Option.eq_none_iff_forall_not_mem.mpr
    intro next taken
    cases transition_of_step taken with
    | own event resolution due unsettled moved =>
        cases moved with
        | start reference store waiting served => simp [started] at waiting
        | refuse reference cause waiting unserved => simp [started] at waiting
        | ask reference fetch found =>
            rcases Resolution.fetch?_eq_some found with ⟨member, _, fresh⟩
            simp [asked fetch member] at fresh
        | answer reference fetch found =>
            rcases Resolution.fetch?_eq_some found with ⟨member, rfl, _⟩
            have later := early fetch member
            rw [isDue_answer (tracked.fetchesServed fetch member), decide_eq_true_eq] at due
            omega
        | see _ _ _ _ _ first _ | fail _ _ _ _ _ first _ =>
            rcases tracked.exists_answered first with ⟨fetch, member, answered, _⟩
            simp [Fetch.isAnswered, asked fetch member] at answered
        | conclude started seen => exact fetching seen
  · intro stuck
    -- All steps but answers could be taken at once, so answers are what is left to wait for.
    have blocked : ∀ event next, isDue stores timed.elapsed event →
        ¬Resolution.Transition stores.answers timed.resolution event next := by
      intro event next due moved
      have taken := step_own due (Resolution.step_of_transition unsettled moved)
      rw [stuck] at taken
      cases taken
    have started : timed.resolution.waiting = [] := by
      apply List.eq_nil_iff_forall_not_mem.mpr
      intro reference waiting
      cases served : storeOf reference with
      | ok store => exact blocked _ _ rfl (.start reference store waiting served)
      | error cause => exact blocked _ _ rfl (.refuse reference cause waiting served)
    have waits : ∀ fetch ∈ timed.resolution.fetches, fetch.progress = .asked ∧
        timed.elapsed < stores.delay fetch.store := by
      intro fetch member
      rcases Resolution.exists_transition_of_fetch stores.answers tracked started member with
        ⟨event, next, moved, answers⟩
      have late : isDue stores timed.elapsed event ≠ true := fun due => blocked _ _ due moved
      cases event with
      | answer reference =>
          rcases answers reference rfl with ⟨rfl, asked⟩
          rw [isDue_answer (tracked.fetchesServed fetch member), ne_eq, decide_eq_true_eq] at late
          exact ⟨asked, Nat.lt_of_not_le late⟩
      | _ => exact absurd rfl late
    refine ⟨started, ?_, fun fetch member => (waits fetch member).1,
      fun fetch member => (waits fetch member).2⟩
    intro seen
    exact blocked _ _ rfl (.conclude started seen)

/-- A resolution without an outcome can go on, if only by waiting. -/
theorem exists_step (path : Reaches stores references events timed)
    (unsettled : timed.resolution.outcome = none) :
    ∃ event next, step stores timed event = some next := by
  by_cases idle : timed.isIdle stores
  · exact ⟨.tick, _, step_tick idle⟩
  · rw [path.isIdle_iff unsettled] at idle
    push Not at idle
    rcases idle with ⟨event, possible⟩
    rcases Option.ne_none_iff_exists'.mp possible with ⟨next, taken⟩
    exact ⟨.own event, next, taken⟩

/-- Nothing takes longer than the slower one of the stores. -/
theorem length_le (path : Reaches stores references events timed)
    (unsettled : timed.resolution.outcome = none) :
    events.length ≤ 4 * references.eraseDups.length +
      max stores.parameters.delay stores.vault.delay := by
  have elapsed : timed.elapsed ≤ max stores.parameters.delay stores.vault.delay := by
    rcases path.punctual.needed unsettled with fresh | ⟨_, _, store, _, bound⟩
    · omega
    · cases store with
      | parameters => exact le_sup_of_le_left bound
      | vault => exact le_sup_of_le_right bound
  rcases path.own with ⟨order, length⟩
  have bounded := order.length_add_work_le
  simp only [Resolution.work, unsettled] at bounded
  omega

/-- Once time has moved, all lookups were made. -/
theorem lookups_of_pos (path : Reaches stores references events timed)
    (unsettled : timed.resolution.outcome = none) (moved : 0 < timed.elapsed) :
    (timed.resolution.lookups.map Prod.snd).Perm references.eraseDups := by
  rcases path.punctual.together unsettled moved with ⟨started, asked⟩
  have parted := path.tracked.parted
  have lookups := path.tracked.asked
  rw [List.filter_eq_self.mpr asked] at lookups
  rw [started, List.nil_append] at parted
  exact lookups.trans parted

/-- A resolution with an outcome stays as it is, however long one waits. -/
theorem resolution_of_settled {rest : List Event} {later : Timed}
    (settled : timed.resolution.outcome.isSome)
    (onward : follow (step stores) timed rest = some later) :
    later.resolution = timed.resolution := by
  refine follow_induction (fun _ later => later.resolution = timed.resolution) rfl ?_ onward
  intro events middle event next _ same taken
  cases transition_of_step taken with
  | own event resolution due unsettled moved =>
      rw [same] at unsettled
      exact absurd unsettled (Option.isSome_iff_ne_none.mp settled)
  | wait _ | rest _ => exact same

end Reaches

end Timed

end Workload.Simulated
