import Mathlib.Data.List.Induction
import Workload.Proofs.Simulated.Host
import Workload.Proofs.Table

/-!
# What a simulated host guarantees

The runs of a simulated host go on side by side, and each is split at its wait. So all that happens
on a host is a list of operations, in which any others may stand between the two halves of a run,
also such that stop, remove or create its container again. Nothing is assumed of that list: it
covers every interleaving of the operations, for containers of any names.

What one operation does to the containers that exist, to the number of checks and to the record is
said once, and what holds after a list of operations follows by induction on it. A container exists
if an operation has created it and none has removed it since, and on this depends which operations
succeed.
-/

namespace Workload.Simulated.Host

/-- The call that an operation is recorded as; a run is recorded when it begins. -/
def Operation.call? : Operation → Option (Run.Verb × String)
  | .begin specification => some (.run, specification.container)
  | .isRunning name => some (.isRunning, name)
  | .stop name => some (.stop, name)
  | .remove name => some (.remove, name)
  | .addExisting _ => none
  | .ends _ => none

/-- The specification of the run that an operation begins. -/
def Operation.specification? : Operation → Option Container.Specification
  | .begin specification => some specification
  | _ => none

/-- Whether an operation lets the container of the given name exist. -/
def creates (host : Host) (name : String) : Operation → Bool
  | .addExisting other => other = name
  | .begin specification => specification.container = name && !host.neverCreates name
  | _ => false

/-- Whether after an operation the container of the given name does not exist, if it did. -/
def takesAway (host : Host) (name : String) (operation : Operation) : Bool :=
  operation = .remove name && !host.refusesRemove name

/-- The state of a host, on which there was nothing at first, after operations. -/
def reached (host : Host) (operations : List Operation) : State :=
  operations.foldl host.after {}

/-- Some operation has created a container, and none has taken it away since. -/
def Stands (host : Host) (operations : List Operation) (name : String) : Prop :=
  ∃ before operation after, operations = before ++ operation :: after ∧
    host.creates name operation ∧ ∀ later ∈ after, host.takesAway name later = false

/-- What a host guarantees in the state that it has reached by operations. -/
structure Guarantees (host : Host) (operations : List Operation) (state : State) : Prop where
  /-- Every container that runs exists. -/
  sound : ∀ name ∈ state.running, name ∈ state.existing
  /-- The containers that exist are those that were created and not taken away since. -/
  stands : ∀ name, name ∈ state.existing ↔ host.Stands operations name
  /-- A check confirms a container that exists and runs, unless it comes during its start-up. -/
  confirms : ∀ name, (state.isRunning host name).2 = true ↔
    (name ∈ state.existing ∧ name ∈ state.running) ∧
      host.startupPolls < operations.count (.isRunning name) + 1
  /-- A container can be stopped if it exists and the host does not refuse. -/
  stops : ∀ name, (state.stop host name).2 = .ok () ↔
    host.refusesStop name = false ∧ host.Stands operations name
  /-- A container can be removed if it exists and the host does not refuse. -/
  removes : ∀ name, (state.remove host name).2 = .ok () ↔
    host.refusesRemove name = false ∧ host.Stands operations name
  /-- A stop that fails changes neither which containers exist nor which run. -/
  stopFails : ∀ name, (state.stop host name).2 ≠ .ok () →
    (state.stop host name).1.existing = state.existing ∧
      (state.stop host name).1.running = state.running
  /-- A removal that fails changes neither which containers exist nor which run. -/
  removeFails : ∀ name, (state.remove host name).2 ≠ .ok () →
    (state.remove host name).1.existing = state.existing ∧
      (state.remove host name).1.running = state.running
  /-- Once a container is removed, it can neither be stopped nor removed until it is created. -/
  gone : ∀ name, (state.remove host name).2 = .ok () →
    ∀ later : List Operation, (∀ operation ∈ later, host.creates name operation = false) →
      ((later.foldl host.after (state.remove host name).1).stop host name).2 ≠ .ok () ∧
      ((later.foldl host.after (state.remove host name).1).remove host name).2 ≠ .ok ()
  /-- The calls are the operations that were begun, in order. -/
  calls : state.calls = operations.filterMap Operation.call?
  /-- The specifications are those of the runs that were begun, in order. -/
  specifications : state.specifications = operations.filterMap Operation.specification?
  /-- For each run among the calls there is the specification of its container. -/
  specified : (state.calls.filter fun call => call.1 = .run).map Prod.snd =
    state.specifications.map Container.Specification.container

/-! ## What one operation does -/

section Operation

variable {host : Host} {state : State} {name other : String} {operation : Operation}

namespace State

theorem stop_eq_ok_iff :
    (state.stop host name).2 = .ok () ↔
      host.refusesStop name = false ∧ name ∈ state.existing := by
  rw [stop]
  split
  · simp_all
  · split <;> simp_all

theorem remove_eq_ok_iff :
    (state.remove host name).2 = .ok () ↔
      host.refusesRemove name = false ∧ name ∈ state.existing := by
  rw [remove]
  split
  · simp_all
  · split <;> simp_all

/-- A stop that fails is recorded, and that is all. -/
theorem stop_of_ne_ok (failed : (state.stop host name).2 ≠ .ok ()) :
    (state.stop host name).1 = state.recordCall .stop name := by
  rw [stop] at failed ⊢
  split
  · rfl
  · split
    · simp_all
    · rfl

/-- A removal that fails is recorded, and that is all. -/
theorem remove_of_ne_ok (failed : (state.remove host name).2 ≠ .ok ()) :
    (state.remove host name).1 = state.recordCall .remove name := by
  rw [remove] at failed ⊢
  split
  · rfl
  · split
    · simp_all
    · rfl

theorem not_mem_existing_remove (removed : (state.remove host name).2 = .ok ()) :
    name ∉ (state.remove host name).1.existing := by
  rw [remove_existing, (remove_eq_ok_iff.mp removed).1]
  simp

end State

theorem mem_existing_after :
    name ∈ (host.after state operation).existing ↔
      host.creates name operation ∨
        name ∈ state.existing ∧ host.takesAway name operation = false := by
  cases operation with
  | addExisting other => simp [after, State.addExisting, creates, takesAway, eq_comm]
  | begin specification =>
      rw [after, State.begin_existing]
      cases never : host.neverCreates specification.container with
      | true =>
          have apart : ¬ (specification.container = name ∧ host.neverCreates name = false) := by
            rintro ⟨rfl, created⟩
            rw [never] at created
            cases created
          simp [creates, takesAway, apart]
      | false =>
          by_cases here : specification.container = name
          · subst here
            simp [creates, never]
          · simp [creates, takesAway, here, Ne.symm here]
  | ends other => simp [after, State.ends, creates, takesAway]
  | isRunning other => simp [after, State.isRunning, State.recordCall, creates, takesAway]
  | stop other => simp [after, State.stop_existing, creates, takesAway]
  | remove other =>
      rw [after, State.remove_existing]
      by_cases here : other = name
      · subst here
        cases refuses : host.refusesRemove other <;> simp [creates, takesAway, refuses]
      · split <;> simp [creates, takesAway, here, Ne.symm here]

theorem pollsOf_after (host : Host) (state : State) (operation : Operation) (name : String) :
    (host.after state operation).pollsOf name =
      state.pollsOf name + if operation = .isRunning name then 1 else 0 := by
  cases operation with
  | isRunning other =>
      rw [after, State.isRunning, State.pollsOf, Table.find?_insert]
      by_cases here : other = name
      · subst here
        simp
      · simp [here, Ne.symm here, State.pollsOf]
  | begin specification =>
      rw [after, State.begin]
      split <;> rfl
  | stop other =>
      rw [after, State.stop]
      split
      · rfl
      · split <;> rfl
  | remove other =>
      rw [after, State.remove]
      split
      · rfl
      · split <;> rfl
  | addExisting other => rfl
  | ends other => rfl

/-- Whatever comes of an operation, it is recorded when it begins. -/
theorem record_after (host : Host) (state : State) (operation : Operation) :
    (host.after state operation).calls = state.calls ++ operation.call?.toList ∧
      (host.after state operation).specifications =
        state.specifications ++ operation.specification?.toList := by
  cases operation with
  | begin specification =>
      rw [after, State.begin]
      split <;> exact ⟨rfl, rfl⟩
  | stop other =>
      rw [after, State.stop]
      split
      · exact ⟨rfl, (List.append_nil _).symm⟩
      · split <;> exact ⟨rfl, (List.append_nil _).symm⟩
  | remove other =>
      rw [after, State.remove]
      split
      · exact ⟨rfl, (List.append_nil _).symm⟩
      · split <;> exact ⟨rfl, (List.append_nil _).symm⟩
  | isRunning other => exact ⟨rfl, (List.append_nil _).symm⟩
  | addExisting other => exact ⟨(List.append_nil _).symm, (List.append_nil _).symm⟩
  | ends other => exact ⟨(List.append_nil _).symm, (List.append_nil _).symm⟩

end Operation

/-! ## What holds after operations -/

section Operations

variable {host : Host} {operations : List Operation} {operation : Operation} {name : String}

theorem reached_concat (host : Host) (operations : List Operation) (operation : Operation) :
    host.reached (operations ++ [operation]) = host.after (host.reached operations) operation :=
  List.foldl_concat ..

theorem stands_concat :
    host.Stands (operations ++ [operation]) name ↔
      host.creates name operation ∨
        host.Stands operations name ∧ host.takesAway name operation = false := by
  constructor
  · rintro ⟨before, created, after, split, creates, kept⟩
    rcases List.eq_nil_or_concat after with rfl | ⟨between, last, rfl⟩
    · rcases List.append_inj' split rfl with ⟨rfl, same⟩
      cases same
      exact Or.inl creates
    · rw [List.concat_eq_append, ← List.cons_append, ← List.append_assoc] at split
      rcases List.append_inj' split rfl with ⟨rfl, same⟩
      cases same
      refine Or.inr ⟨⟨before, created, between, rfl, creates, ?_⟩, kept operation (by simp)⟩
      intro later member
      exact kept later (by simp [member])
  · rintro (creates | ⟨⟨before, created, after, rfl, creates, kept⟩, spared⟩)
    · exact ⟨operations, operation, [], rfl, creates, List.forall_mem_nil _⟩
    · refine ⟨before, created, after ++ [operation], by simp, creates, ?_⟩
      intro later member
      rcases List.mem_append.mp member with earlier | last
      · exact kept later earlier
      · rw [List.mem_singleton.mp last]
        exact spared

theorem mem_existing_reached :
    name ∈ (host.reached operations).existing ↔ host.Stands operations name := by
  induction operations using List.reverseRecOn with
  | nil => simp [reached, Stands]
  | append_singleton operations operation hypothesis =>
      rw [reached_concat, mem_existing_after, hypothesis, stands_concat]

theorem pollsOf_reached :
    (host.reached operations).pollsOf name = operations.count (.isRunning name) := by
  induction operations using List.reverseRecOn with
  | nil => rfl
  | append_singleton operations operation hypothesis =>
      rw [reached_concat, pollsOf_after, hypothesis, List.count_append, List.count_singleton]
      simp

theorem record_reached (host : Host) (operations : List Operation) :
    (host.reached operations).calls = operations.filterMap Operation.call? ∧
      (host.reached operations).specifications =
        operations.filterMap Operation.specification? := by
  induction operations using List.reverseRecOn with
  | nil => exact ⟨rfl, rfl⟩
  | append_singleton operations operation hypothesis =>
      rcases record_after host (host.reached operations) operation with ⟨calls, specifications⟩
      rw [reached_concat, calls, specifications, hypothesis.1, hypothesis.2, List.filterMap_append,
        List.filterMap_append]
      constructor <;> cases operation <;> rfl

/-- Runs and specifications are recorded by the same operations. -/
theorem runs_specified (operations : List Operation) :
    ((operations.filterMap Operation.call?).filter fun call => call.1 = .run).map Prod.snd =
      (operations.filterMap Operation.specification?).map Container.Specification.container := by
  induction operations with
  | nil => rfl
  | cons operation rest hypothesis =>
      cases operation <;>
        simp [List.filterMap_cons, Operation.call?, Operation.specification?, hypothesis]

/-- A container that does not exist is not brought back by operations that do not create it. -/
theorem not_mem_existing_foldl {state : State} (absent : name ∉ state.existing)
    (uncreated : ∀ operation ∈ operations, host.creates name operation = false) :
    name ∉ (operations.foldl host.after state).existing := by
  induction operations generalizing state with
  | nil => exact absent
  | cons operation rest hypothesis =>
      refine hypothesis ?_ fun later member => uncreated later (List.mem_cons_of_mem _ member)
      rw [mem_existing_after]
      rintro (creates | ⟨known, _⟩)
      · rw [uncreated operation (List.mem_cons_self ..)] at creates
        cases creates
      · exact absent known

/--
Whatever was done on a host, and in whatever order, only containers that exist run or are confirmed,
what fails changes nothing, what was removed stays so until it is created again, and the record
tells what was begun.
-/
theorem guarantees_after_operations (host : Host) (operations : List Operation) :
    Guarantees host operations (host.reached operations) where
  sound := State.sound_of_operations host operations
  stands := fun _ => mem_existing_reached
  confirms := by
    intro name
    rw [State.isRunning, pollsOf_reached, Bool.and_eq_true, decide_eq_true_eq, decide_eq_true_eq]
    constructor
    · rintro ⟨checked, running⟩
      exact ⟨⟨State.sound_of_operations host operations name running, running⟩, checked⟩
    · rintro ⟨⟨_, running⟩, checked⟩
      exact ⟨checked, running⟩
  stops := by
    intro name
    rw [State.stop_eq_ok_iff, mem_existing_reached]
  removes := by
    intro name
    rw [State.remove_eq_ok_iff, mem_existing_reached]
  stopFails := by
    intro name failed
    rw [State.stop_of_ne_ok failed]
    exact ⟨rfl, rfl⟩
  removeFails := by
    intro name failed
    rw [State.remove_of_ne_ok failed]
    exact ⟨rfl, rfl⟩
  gone := by
    intro name removed later uncreated
    have absent := not_mem_existing_foldl (State.not_mem_existing_remove removed) uncreated
    exact ⟨fun stopped => absent (State.stop_eq_ok_iff.mp stopped).2,
      fun removed => absent (State.remove_eq_ok_iff.mp removed).2⟩
  calls := (record_reached host operations).1
  specifications := (record_reached host operations).2
  specified := by
    rw [(record_reached host operations).1, (record_reached host operations).2]
    exact runs_specified operations

/-- A host that denies the first check of each container. -/
def slowHost : Host where
  startupPolls := 1

/-- A run is overtaken: its container is removed while it waits, and ends only then. -/
theorem overtaken_run_stays_removed :
    let state := slowHost.reached
      [.begin { image := "web:1", container := "web" }, .isRunning "web"]
    (state.isRunning slowHost "web").2 = true ∧
      (state.remove slowHost "web").2 = .ok () ∧
      (([Operation.ends "web", .addExisting "db"].foldl slowHost.after
        (state.remove slowHost "web").1).stop slowHost "web").2 ≠ .ok () := by
  intro state
  have guarantees := guarantees_after_operations slowHost
    [.begin { image := "web:1", container := "web" }, .isRunning "web"]
  have removed : (state.remove slowHost "web").2 = .ok () := rfl
  refine ⟨?_, removed, ?_⟩
  · exact (guarantees.confirms "web").mpr (by decide)
  · exact (guarantees.gone "web" removed [.ends "web", .addExisting "db"] (by decide)).1

end Operations

end Workload.Simulated.Host
