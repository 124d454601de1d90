import Mathlib.Data.List.Nodup
import Workload.Proofs.Run.Order

/-!
# The containers of a run and their names

An event is about one container, which it names by its position. Here the containers that were
started, and the cleanups that are due, are lists in which the container of an event is found at
one place and changed there. If the plan names its containers apart, so do both lists.
-/

namespace Workload.Run

theorem exists_split_of_getElem? {Item : Type} {items : List Item} {index : Nat} {item : Item}
    (found : items[index]? = some item) :
    ∃ before after, items = before ++ item :: after ∧
      (∀ change, items.modify index change = before ++ change item :: after) ∧
      ∀ other, items.set index other = before ++ other :: after := by
  rcases List.getElem?_eq_some_iff.mp found with ⟨inside, rfl⟩
  refine ⟨items.take index, items.drop (index + 1), ?_, ?_, ?_⟩
  · rw [List.getElem_cons_drop, List.take_append_drop]
  · intro change
    exact List.modify_eq_take_cons_drop inside
  · intro other
    rw [List.set_eq_take_append_cons_drop, if_pos inside]

theorem Identity.containerName_injective (identity : Identity) :
    Function.Injective identity.containerName := by
  intro first second same
  simpa [containerName] using same

namespace Plan

/-- The names of all containers of a plan at the engine, that of the pause container first. -/
def containerNames (plan : Plan) : List String :=
  plan.identity.pauseName ::
    plan.applications.map fun application => application.specification.container

theorem containerNames_eq (plan : Plan) :
    plan.containerNames =
      (Identity.pauseRole :: plan.containers.map Prod.fst).map plan.identity.containerName := by
  have names : (plan.applications.map fun application => application.specification.container) =
      (plan.containers.map Prod.fst).map plan.identity.containerName := by
    apply List.ext_getElem?
    intro index
    simp only [applications, List.getElem?_map, List.getElem?_mapIdx, Option.map_map]
    rfl
  rw [containerNames, names]
  rfl

theorem containerNames_nodup {plan : Plan} (distinct : (plan.containers.map Prod.fst).Nodup)
    (unreserved : Identity.pauseRole ∉ plan.containers.map Prod.fst) :
    plan.containerNames.Nodup := by
  rw [containerNames_eq]
  exact (List.nodup_cons.mpr ⟨unreserved, distinct⟩).map plan.identity.containerName_injective

end Plan

namespace State

/-- The containers that were started and the calls that run them. -/
def runs (state : State) : List (String × Call) :=
  state.pause.toList.map (fun call => (state.plan.identity.pauseName, call)) ++
    state.launched.map fun launched =>
      (launched.application.specification.container, launched.call)

/-- The cleanups of all containers that were started, that of the pause container last. -/
def cleanups (state : State) : List Cleaner :=
  state.cleaners ++ [state.pauseCleaner]

variable {state : State}

theorem exists_runs_split {target : Target} {call : Call}
    (current : state.call? target = some call) :
    ∃ before after, state.runs = before ++ (state.containerOf target, call) :: after ∧
      ∀ other, (state.withCall target other).runs =
        before ++ (state.containerOf target, other) :: after := by
  cases target with
  | pause =>
      simp only [call?] at current
      exact ⟨[], _, by rw [runs, current]; rfl, fun _ => rfl⟩
  | application index =>
      simp only [call?, Option.map_eq_some_iff] at current
      rcases current with ⟨launched, found, rfl⟩
      rcases exists_split_of_getElem? found with ⟨before, after, split, modified, _⟩
      have named : state.containerOf (.application index) =
          launched.application.specification.container := by
        simp [containerOf, found]
      refine ⟨state.pause.toList.map (fun call => (state.plan.identity.pauseName, call)) ++
        before.map fun launched =>
          (launched.application.specification.container, launched.call),
        after.map fun launched =>
          (launched.application.specification.container, launched.call), ?_, ?_⟩
      · rw [runs, split, named]
        simp
      · intro other
        rw [runs, withCall, named]
        simp [modified]

theorem mem_runs {target : Target} {call : Call} (current : state.call? target = some call) :
    (state.containerOf target, call) ∈ state.runs := by
  rcases exists_runs_split current with ⟨before, after, split, _⟩
  rw [split]
  exact List.mem_append_right _ (List.mem_cons_self ..)

theorem call_of_mem_runs_withCall {target : Target} {old new : Call}
    (current : state.call? target = some old) {run : String × Call}
    (member : run ∈ (state.withCall target new).runs) : run ∈ state.runs ∨ run.2 = new := by
  rcases exists_runs_split current with ⟨before, after, split, replaced⟩
  rw [replaced, List.mem_append, List.mem_cons] at member
  rw [split, List.mem_append, List.mem_cons]
  rcases member with earlier | rfl | later
  · exact Or.inl (Or.inl earlier)
  · exact Or.inr rfl
  · exact Or.inl (Or.inr (Or.inr later))

theorem runs_launch (state : State) (application : Application) :
    { state with launched := state.launched ++ [Launched.mk application .due] }.runs =
      state.runs ++ [(application.specification.container, .due)] := by
  simp [runs]

theorem exists_cleanups_split {target : Target} {cleaner : Cleaner}
    (current : state.cleaner? target = some cleaner) :
    ∃ before after, state.cleanups = before ++ cleaner :: after ∧
      ∀ other, (state.withCleaner target other).cleanups = before ++ other :: after := by
  cases target with
  | pause =>
      simp only [cleaner?, Option.some.injEq] at current
      subst cleaner
      exact ⟨state.cleaners, [], rfl, fun _ => rfl⟩
  | application index =>
      rcases exists_split_of_getElem? current with ⟨before, after, split, _, replaced⟩
      refine ⟨before, after ++ [state.pauseCleaner], ?_, ?_⟩
      · rw [cleanups, split]
        simp
      · intro other
        simp [cleanups, withCleaner, replaced]

theorem runs_names_sublist (started : state.Started) :
    (state.runs.map Prod.fst).Sublist state.plan.containerNames := by
  have launchedNames : (state.launched.map fun launched =>
      launched.application.specification.container).Sublist
      (state.plan.applications.map fun application => application.specification.container) := by
    simpa [Function.comp_def] using started.inOrder.sublist.map
      fun application : Application => application.specification.container
  cases pause : state.pause with
  | none =>
      simp only [runs, pause, Plan.containerNames]
      simpa [Function.comp_def] using launchedNames.cons _
  | some call =>
      simp only [runs, pause, Plan.containerNames]
      simpa [Function.comp_def] using launchedNames

theorem cleanups_names_nodup (started : state.Started) (cleaned : state.Cleaned)
    (distinct : state.plan.containerNames.Nodup) :
    (state.cleanups.map Cleaner.container).Nodup := by
  cases begun : state.stage.isCleanup with
  | false =>
      have fresh := cleaned.untouched begun
      simp [cleanups, fresh.1]
  | true =>
      have names := cleaned.named begun
      have first := started.inOrder.sublist.map
        fun application : Application => application.specification.container
      rw [← names] at first
      simp only [cleanups, List.map_append, List.map_cons, List.map_nil, cleaned.pauseNamed]
      exact (first.cons_cons state.plan.identity.pauseName |>.nodup distinct).perm
        (List.perm_append_singleton _ _).symm

end State

end Workload.Run
