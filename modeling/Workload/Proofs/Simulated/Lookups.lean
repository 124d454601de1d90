import Mathlib.Data.Set.Operations
import Mathlib.Order.Bounds.Defs
import Workload.Proofs.Simulated.Resolve

/-!
# When a resolution returns

All lookups of a resolution run at once. One that succeeds therefore takes as long as the slowest
of the stores that it asks, and one that fails as long as the fastest of the stores that fail. The
lookups of faster stores are completed by then, and those of slower stores never are.
-/

namespace Workload.Simulated

open Secret

/-- Some of the references are looked up in the store. -/
def Serves (references : List String) (store : Secret.Store) : Prop :=
  ∃ reference ∈ references, storeOf reference = .ok store

/-- Some of the references are looked up in the store, which fails for them. -/
def Stores.Fails (stores : Stores) (references : List String) (store : Secret.Store) : Prop :=
  ∃ reference ∈ references, storeOf reference = .ok store ∧
    ∃ cause, stores.answers store reference = .error cause

namespace Timed

variable {stores : Stores} {references : List String} {events : List Event} {timed : Timed}

namespace Reaches

theorem answered_of_mem_keys (path : Reaches stores references events timed)
    {reference : String} (known : reference ∈ Table.keys timed.resolution.values)
    {store : Secret.Store} (served : storeOf reference = .ok store) :
    ∃ value, stores.answers store reference = .ok value := by
  rcases Table.mem_keys_iff.mp known with ⟨value, found⟩
  have answered := path.own.1.truthful.found reference value found
  rw [Resolution.answerOf_eq_of_storeOf served] at answered
  exact ⟨value, answered⟩

end Reaches

namespace Returns

theorem reaches (returns : Returns stores references events timed) :
    Reaches stores references events timed := by
  rcases returns with ⟨before, event, middle, rfl, path, _, taken, _⟩
  exact follow_concat_eq_some.mpr ⟨middle, path, taken⟩

/-- The resolution returns by a step of its own, before which it had no outcome. -/
theorem exists_transition (returns : Returns stores references events timed) :
    ∃ before event middle, Reaches stores references before middle ∧
      middle.resolution.outcome = none ∧ middle.elapsed = timed.elapsed ∧
      Resolution.Transition stores.answers middle.resolution event timed.resolution := by
  rcases returns with ⟨before, event, middle, _, path, unsettled, taken, settled⟩
  cases transition_of_step taken with
  | own event resolution due _ moved =>
      exact ⟨before, event, middle, path, unsettled, rfl, moved⟩
  | wait _ | rest _ =>
      simp only [unsettled, Option.isSome_none] at settled
      cases settled

theorem completed_of_ok (returns : Returns stores references events timed)
    {values : List (String × String)} (succeeded : timed.resolution.outcome = some (.ok values)) :
    (timed.resolution.completed.map Prod.snd).Perm references.eraseDups := by
  have path := returns.reaches
  rcases path.own.1.truthful.concluded values succeeded with ⟨waiting, fetches, _⟩
  rcases path.own.1.queued with ⟨seen, order, keys, _⟩
  have parted := path.tracked.parted
  have answered := path.tracked.answered
  simp only [waiting, fetches, List.filter_nil, List.map_nil, List.nil_append, List.perm_nil,
    List.map_eq_nil_iff] at parted answered
  rw [order, answered, List.append_nil]
  exact keys.trans parted

theorem delay_le_of_ok (returns : Returns stores references events timed)
    {values : List (String × String)} (succeeded : timed.resolution.outcome = some (.ok values))
    {store : Secret.Store} (serves : Serves references store) :
    stores.delay store ≤ timed.elapsed := by
  rcases serves with ⟨reference, member, served⟩
  have completed := (returns.completed_of_ok succeeded).mem_iff.mpr (List.mem_eraseDups.mpr member)
  rcases List.mem_map.mp completed with ⟨lookup, known, rfl⟩
  rcases returns.reaches.punctual.due lookup known with ⟨same, due⟩
  rw [served] at same
  cases same
  exact due

/-- Time does not move beyond the delays of the stores that are asked. -/
theorem needed (returns : Returns stores references events timed) :
    timed.elapsed = 0 ∨ ∃ store, Serves references store ∧ timed.elapsed ≤ stores.delay store := by
  rcases returns.exists_transition with ⟨before, event, middle, path, unsettled, same, _⟩
  rw [← same]
  rcases path.punctual.needed unsettled with fresh | ⟨reference, member, store, served, bound⟩
  · exact Or.inl fresh
  · exact Or.inr ⟨store, ⟨reference, member, served⟩, bound⟩

theorem isGreatest_of_ok (returns : Returns stores references events timed)
    {values : List (String × String)} (succeeded : timed.resolution.outcome = some (.ok values))
    (supported : ∀ reference ∈ references, ∃ store, storeOf reference = .ok store)
    (some : references ≠ []) :
    IsGreatest (stores.delay '' {store | Serves references store}) timed.elapsed := by
  constructor
  · rcases returns.needed with fresh | ⟨store, serves, bound⟩
    · rcases List.exists_mem_of_ne_nil _ some with ⟨reference, member⟩
      rcases supported reference member with ⟨store, served⟩
      have serves : Serves references store := ⟨reference, member, served⟩
      have due := returns.delay_le_of_ok succeeded serves
      -- It returned at the start, so no store that was asked took any time.
      exact ⟨store, serves, by omega⟩
    · exact ⟨store, serves, Nat.le_antisymm (returns.delay_le_of_ok succeeded serves) bound⟩
  · rintro _ ⟨store, serves, rfl⟩
    exact returns.delay_le_of_ok succeeded serves

/-- When a resolution returns, the lookups that could have returned earlier have their values. -/
theorem mem_keys_of_lt (returns : Returns stores references events timed)
    {reference : String} (member : reference ∈ references) {store : Secret.Store}
    (served : storeOf reference = .ok store) (gone : stores.delay store < timed.elapsed) :
    reference ∈ Table.keys timed.resolution.values := by
  rcases returns.exists_transition with ⟨before, event, middle, path, unsettled, same, moved⟩
  rw [← same] at gone
  have known := path.punctual.past unsettled reference member store served gone
  generalize timed.resolution = final at moved ⊢
  cases moved with
  | see _ _ _ _ _ _ _ => exact Table.mem_keys_insert.mpr (Or.inr known)
  | _ => exact known

theorem isLeast_of_error (returns : Returns stores references events timed)
    (supported : ∀ reference ∈ references, ∃ store, storeOf reference = .ok store)
    {fault : SecretError} (failed : timed.resolution.outcome = some (.error fault)) :
    IsLeast (stores.delay '' {store | stores.Fails references store}) timed.elapsed := by
  have path := returns.reaches
  -- No store that fails has answered earlier.
  have notBefore : ∀ store, stores.Fails references store →
      timed.elapsed ≤ stores.delay store := by
    rintro store ⟨reference, member, served, cause, failure⟩
    apply Nat.le_of_not_lt
    intro gone
    have known := returns.mem_keys_of_lt member served gone
    rcases path.answered_of_mem_keys known served with ⟨value, answered⟩
    rw [failure] at answered
    cases answered
  constructor
  · rcases path.own.1.first_failure supported failed with
      ⟨before, store, reference, after, cause, order, _, member, served, failure, _⟩
    have fails : stores.Fails references store := ⟨reference, member, served, cause, failure⟩
    have completed : (store, reference) ∈ timed.resolution.completed := by simp [order]
    have due := (path.punctual.due _ completed).2
    exact ⟨store, fails, Nat.le_antisymm due (notBefore store fails)⟩
  · rintro _ ⟨store, fails, rfl⟩
    exact notBefore store fails

/-- However long one waits, no lookup is completed after the resolution has returned. -/
theorem delay_le_of_completed (returns : Returns stores references events timed)
    {rest : List Event} {later : Timed} (onward : follow (step stores) timed rest = some later)
    {lookup : Secret.Store × String} (completed : lookup ∈ later.resolution.completed) :
    stores.delay lookup.1 ≤ timed.elapsed := by
  have path := returns.reaches
  rcases returns with ⟨_, _, _, _, _, _, _, settled⟩
  rw [Reaches.resolution_of_settled settled onward] at completed
  exact (path.punctual.due lookup completed).2

end Returns

end Timed

/--
All lookups of a resolution run at once, and its first failure aborts those that are under way. In
every schedule each reference is looked up at most once, all of them before time moves, and the
resolution goes on until it returns. If it succeeds, it returns with all lookups completed when the
slowest of the stores that it asks answers, and at once if it asks none. If it fails, it returns
when the fastest of the stores that fail answers: lookups of faster stores are completed by then,
and those of slower stores are never completed afterwards. `resolve` follows one of the schedules.
-/
theorem returns_at_last_answer_or_first_failure {stores : Stores} {references : List String}
    (supported : ∀ reference ∈ references, ∃ store, storeOf reference = .ok store) :
    (∀ events timed, Timed.Reaches stores references events timed →
      (timed.resolution.lookups.map Prod.snd).Nodup ∧
      (timed.resolution.outcome = none →
        (0 < timed.elapsed →
          (timed.resolution.lookups.map Prod.snd).Perm references.eraseDups) ∧
        events.length ≤ 4 * references.eraseDups.length +
          max stores.parameters.delay stores.vault.delay ∧
        ∃ event next, Timed.step stores timed event = some next)) ∧
    (∀ events timed, Timed.Returns stores references events timed →
      (∀ values, timed.resolution.outcome = some (.ok values) →
        (timed.resolution.completed.map Prod.snd).Perm references.eraseDups ∧
        (references = [] → timed.elapsed = 0) ∧
        (references ≠ [] →
          IsGreatest (stores.delay '' {store | Serves references store}) timed.elapsed)) ∧
      ∀ fault, timed.resolution.outcome = some (.error fault) →
        IsLeast (stores.delay '' {store | stores.Fails references store}) timed.elapsed ∧
        (∀ reference ∈ references, ∀ store, storeOf reference = .ok store →
          stores.delay store < timed.elapsed →
            (store, reference) ∈ timed.resolution.completed) ∧
        ∀ rest later, follow (Timed.step stores) timed rest = some later →
          ∀ lookup ∈ later.resolution.completed, stores.delay lookup.1 ≤ timed.elapsed) ∧
    ∃ events, Timed.Returns stores references events (resolve stores references) := by
  refine ⟨?_, ?_, Timed.exists_returns_resolve stores supported⟩
  · intro events timed path
    refine ⟨path.tracked.nodup_lookups, ?_⟩
    intro unsettled
    exact ⟨path.lookups_of_pos unsettled, path.length_le unsettled, path.exists_step unsettled⟩
  · intro events timed returns
    refine ⟨?_, ?_⟩
    · intro values succeeded
      refine ⟨returns.completed_of_ok succeeded, ?_,
        returns.isGreatest_of_ok succeeded supported⟩
      rintro rfl
      rcases returns.needed with fresh | ⟨store, ⟨reference, member, _⟩, _⟩
      · exact fresh
      · cases member
    · intro fault failed
      refine ⟨returns.isLeast_of_error supported failed, ?_, ?_⟩
      · intro reference member store served gone
        have known := returns.mem_keys_of_lt member served gone
        exact returns.reaches.mem_completed_of_mem_keys known served
      · intro rest later onward lookup completed
        exact returns.delay_le_of_completed onward completed

/-- A reference that the vault serves. -/
def slowReference : String :=
  "arn:aws:secretsmanager:us-east-1:1:secret:slow"

/-- A parameter store that is denied after one millisecond, and a vault that takes two. -/
def deniedParameter : Stores where
  parameters := { failures := ["denied"], delay := 1 }
  vault := { values := [(slowReference, "late")], delay := 2 }

/-- A schedule that ends with the failure. -/
def abortingEvents : List Timed.Event :=
  [.own (.start slowReference), .own (.start "denied"), .own (.ask slowReference),
    .own (.ask "denied"), .tick, .own (.answer "denied"), .own .see]

/-- The end of that schedule. -/
def aborted : Timed where
  resolution :=
    { waiting := []
      fetches := [⟨slowReference, .vault, .asked⟩, ⟨"denied", .parameters, .answered⟩]
      lookups := [(.vault, slowReference), (.parameters, "denied")]
      completed := [(.parameters, "denied")]
      finished := [(.parameters, "denied")]
      outcome := some (.error (.fetch "denied" (.store (.command "access denied for denied")))) }
  elapsed := 1

theorem slow_lookup_never_completed :
    (∀ reference ∈ ["denied", slowReference], ∃ store, storeOf reference = .ok store) ∧
      Timed.Returns deniedParameter ["denied", slowReference] abortingEvents aborted ∧
      IsLeast (deniedParameter.delay ''
        {store | deniedParameter.Fails ["denied", slowReference] store}) 1 ∧
      ∀ rest later, follow (Timed.step deniedParameter) aborted rest = some later →
        (.vault, slowReference) ∉ later.resolution.completed := by
  have supported : ∀ reference ∈ ["denied", slowReference],
      ∃ store, storeOf reference = .ok store := by
    intro reference member
    simp only [List.mem_cons, List.not_mem_nil, or_false] at member
    rcases member with rfl | rfl
    · exact ⟨.parameters, rfl⟩
    · exact ⟨.vault, rfl⟩
  have returns : Timed.Returns deniedParameter ["denied", slowReference] abortingEvents
      aborted :=
    ⟨abortingEvents.dropLast, .own .see,
      { aborted with resolution := { aborted.resolution with outcome := none } },
      rfl, rfl, rfl, rfl, rfl⟩
  rcases ((returns_at_last_answer_or_first_failure supported).2.1 _ _ returns).2 _ rfl with
    ⟨least, _, never⟩
  refine ⟨supported, returns, least, ?_⟩
  intro rest later onward completed
  have early : 2 ≤ 1 := never rest later onward _ completed
  omega

end Workload.Simulated
