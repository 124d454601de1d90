import Workload.Simulated.Host

/-!
# Which containers exist on a simulated host

Of a simulated host nothing matters here but which containers exist and which of them run. Each
operation changes both for one name at most, and only a container that exists can run.
-/

namespace Workload.Simulated

namespace Host

/-- The container of the given name is never created. -/
def neverCreates (host : Host) (name : String) : Bool :=
  match host.behaviour name with
  | .failToStart _ => true
  | _ => false

@[simp]
theorem mem_addName {name other : String} {names : List String} :
    other ∈ addName name names ↔ other = name ∨ other ∈ names := by
  rw [addName]
  split
  · rename_i known
    constructor
    · exact Or.inr
    · rintro (rfl | member)
      · exact known
      · exact member
  · rw [List.mem_append, List.mem_singleton, or_comm]

namespace State

/-- Only containers that exist run. -/
def Sound (state : State) : Prop :=
  ∀ name ∈ state.running, name ∈ state.existing

variable {host : Host} {state : State} {name other : String}
  {specification : Container.Specification}

theorem begin_existing (host : Host) (state : State) (specification : Container.Specification) :
    (state.begin host specification).1.existing =
      if host.neverCreates specification.container then state.existing
      else addName specification.container state.existing := by
  rw [begin, neverCreates]
  split <;> simp_all [recordCall]

theorem begin_running (host : Host) (state : State) (specification : Container.Specification) :
    (state.begin host specification).1.running =
      if host.neverCreates specification.container then state.running
      else addName specification.container state.running := by
  rw [begin, neverCreates]
  split <;> simp_all [recordCall]

theorem begin_fault_isSome (host : Host) (state : State)
    (specification : Container.Specification) :
    (state.begin host specification).2.isSome = host.neverCreates specification.container := by
  rw [begin, neverCreates]
  split <;> simp_all

theorem stop_existing (host : Host) (state : State) (name : String) :
    (state.stop host name).1.existing = state.existing := by
  rw [stop]
  split
  · rfl
  · split <;> rfl

theorem remove_existing (host : Host) (state : State) (name : String) :
    (state.remove host name).1.existing =
      if host.refusesRemove name then state.existing
      else state.existing.filter (· != name) := by
  rw [remove]
  split
  · rfl
  · split
    · rfl
    · rename_i absent
      refine (List.filter_eq_self.mpr ?_).symm
      intro other known
      rw [bne_iff_ne]
      rintro rfl
      exact absent known

section Stoppable

variable (stoppable : host.stopFailures = [])

include stoppable

theorem stop_eq (state : State) (name : String) :
    state.stop host name =
      if name ∈ state.existing then
        ({ state.recordCall .stop name with
          running := state.running.filter (· != name) }, .ok ())
      else (state.recordCall .stop name, .error (.noSuchContainer name)) := by
  simp [stop, refusesStop, stoppable]

theorem stop_result (state : State) (name : String) :
    (state.stop host name).2 =
      if name ∈ state.existing then .ok () else .error (.noSuchContainer name) := by
  rw [stop_eq stoppable]
  split <;> rfl

theorem Sound.mem_running_stop (sound : state.Sound) :
    other ∈ (state.stop host name).1.running ↔ other ∈ state.running ∧ other ≠ name := by
  rw [stop_eq stoppable]
  split
  · simp
  · rename_i absent
    refine (and_iff_left_of_imp ?_).symm
    rintro running rfl
    exact absent (sound other running)

end Stoppable

section Removable

variable (removable : host.removeFailures = [])

include removable

theorem remove_eq (state : State) (name : String) :
    state.remove host name =
      if name ∈ state.existing then
        ({ state.recordCall .remove name with
          existing := state.existing.filter (· != name)
          running := state.running.filter (· != name) }, .ok ())
      else (state.recordCall .remove name, .error (.noSuchContainer name)) := by
  simp [remove, refusesRemove, removable]

theorem remove_result (state : State) (name : String) :
    (state.remove host name).2 =
      if name ∈ state.existing then .ok () else .error (.noSuchContainer name) := by
  rw [remove_eq removable]
  split <;> rfl

theorem mem_existing_remove :
    other ∈ (state.remove host name).1.existing ↔ other ∈ state.existing ∧ other ≠ name := by
  simp [remove_existing, refusesRemove, removable]

theorem Sound.mem_running_remove (sound : state.Sound) :
    other ∈ (state.remove host name).1.running ↔ other ∈ state.running ∧ other ≠ name := by
  rw [remove_eq removable]
  split
  · simp
  · rename_i absent
    refine (and_iff_left_of_imp ?_).symm
    rintro running rfl
    exact absent (sound other running)

end Removable

namespace Sound

theorem begin (sound : state.Sound) (host : Host) (specification : Container.Specification) :
    (state.begin host specification).1.Sound := by
  intro name running
  rw [begin_running] at running
  rw [begin_existing]
  cases never : host.neverCreates specification.container with
  | true =>
      rw [never] at running
      exact sound name running
  | false =>
      rw [never] at running
      exact mem_addName.mpr ((mem_addName.mp running).imp_right (sound name))

theorem ends (sound : state.Sound) (name : String) : (state.ends name).Sound := by
  intro other running
  exact sound other (List.mem_filter.mp running).1

theorem stop (sound : state.Sound) (host : Host) (name : String) :
    (state.stop host name).1.Sound := by
  rw [State.stop]
  split
  · exact sound
  · split
    · intro other running
      exact sound other (List.mem_filter.mp running).1
    · exact sound

theorem remove (sound : state.Sound) (host : Host) (name : String) :
    (state.remove host name).1.Sound := by
  rw [State.remove]
  split
  · exact sound
  · split
    · intro other running
      rcases List.mem_filter.mp running with ⟨before, apart⟩
      exact List.mem_filter.mpr ⟨sound other before, apart⟩
    · exact sound

theorem after (sound : state.Sound) (host : Host) (operation : Operation) :
    (host.after state operation).Sound := by
  cases operation with
  | addExisting name =>
      intro other running
      exact mem_addName.mpr (Or.inr (sound other running))
  | begin specification => exact sound.begin host specification
  | ends name => exact sound.ends name
  | isRunning name => exact sound
  | stop name => exact sound.stop host name
  | remove name => exact sound.remove host name

end Sound

/-- Whatever was done on a host, only containers that exist run. -/
theorem sound_of_operations (host : Host) (operations : List Operation) :
    (operations.foldl host.after {}).Sound := by
  have kept : ∀ state : State, state.Sound → (operations.foldl host.after state).Sound := by
    induction operations with
    | nil => exact fun _ sound => sound
    | cons operation rest hypothesis =>
        intro state sound
        exact hypothesis _ (sound.after host operation)
  apply kept
  intro name running
  cases running

end State

end Host

end Workload.Simulated
