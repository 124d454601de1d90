import Workload.Image
import Workload.Proofs.Run.Containers
import Workload.Task.Document

/-!
# The names that a task definition gives to containers

A definition that was read has passed its check: it has containers, and their names are distinct
and not empty. At the engine a container is called after its name in the definition, so no two
application containers of a run are called the same. The check does not know the role of the pause
container, though. A container that is declared under the name of that role is called like the pause
container, and nothing else makes two containers of a run share a name.
-/

namespace Workload.Task

section Check

variable {seen names : List String}

theorem checkNames_cons_eq_ok_iff {name : String} :
    checkNames seen (name :: names) = .ok () ↔
      (name ≠ "" ∧ name ∉ seen) ∧ checkNames (name :: seen) names = .ok () := by
  simp only [checkNames]
  split
  · rename_i empty
    simp [empty]
  · rename_i named
    split
    · rename_i known
      simp [known]
    · rename_i fresh
      simp [named, fresh]

theorem checkNames_eq_ok_iff :
    checkNames seen names = .ok () ↔
      names.Nodup ∧ "" ∉ names ∧ ∀ name ∈ names, name ∉ seen := by
  induction names generalizing seen with
  | nil => simp [checkNames]
  | cons name rest hypothesis =>
      rw [checkNames_cons_eq_ok_iff, hypothesis, List.nodup_cons]
      simp only [List.mem_cons, not_or, forall_eq_or_imp]
      -- Not to be the name just seen is what makes it differ from the rest.
      constructor
      · rintro ⟨⟨named, fresh⟩, distinct, allNamed, unseen⟩
        refine ⟨⟨?_, distinct⟩, ⟨Ne.symm named, allNamed⟩, fresh,
          fun other later => (unseen other later).2⟩
        intro again
        exact (unseen name again).1 rfl
      · rintro ⟨⟨once, distinct⟩, ⟨named, allNamed⟩, fresh, unseen⟩
        refine ⟨⟨Ne.symm named, fresh⟩, distinct, allNamed,
          fun other later => ⟨?_, unseen other later⟩⟩
        rintro rfl
        exact once later

end Check

namespace Definition

variable {definition : Definition} {text : String}

theorem check_eq_ok_iff :
    definition.check = .ok () ↔
      definition.containers ≠ [] ∧ definition.names.Nodup ∧ "" ∉ definition.names := by
  simp only [check, List.isEmpty_iff]
  split
  · rename_i none
    simp [none]
  · rename_i some
    simp [some, checkNames_eq_ok_iff]

/-- Only a definition that passes its check is read. -/
theorem check_of_ofText (read : ofText text = .ok definition) : definition.check = .ok () := by
  simp only [ofText] at read
  split at read
  · cases read
  · split at read
    · cases read
    · rename_i decoded _
      cases checked : decoded.check with
      | error fault =>
          rw [checked] at read
          cases read
      | ok passed =>
          rw [checked] at read
          cases read
          exact checked

theorem names_nodup_of_ofText (read : ofText text = .ok definition) : definition.names.Nodup :=
  (check_eq_ok_iff.mp (check_of_ofText read)).2.1

end Definition

/-- Every container of a definition has its image, and keeps its name and its place. -/
theorem names_resolve (built : Image.Built) (definition : Definition) :
    (Image.resolve built definition).map Prod.fst = definition.names := by
  simp [Image.resolve, Definition.names]

open Run in
/--
In a run of a task definition that was read, the application containers have distinct names at the
engine. The name of the pause container is another one if no container is declared under its role,
and only then.
-/
theorem names_distinct_iff_pause_undeclared {text : String} {definition : Definition} {plan : Plan}
    {built : Image.Built} (read : Definition.ofText text = .ok definition)
    (planned : plan.containers = Image.resolve built definition) :
    plan.containerNames =
      plan.identity.pauseName :: definition.names.map plan.identity.containerName ∧
    (definition.names.map plan.identity.containerName).Nodup ∧
    (plan.containerNames.Nodup ↔ Identity.pauseRole ∉ definition.names) := by
  have names : plan.containers.map Prod.fst = definition.names := by
    rw [planned, names_resolve]
  have distinct := Definition.names_nodup_of_ofText read
  have injective := plan.identity.containerName_injective
  refine ⟨?_, distinct.map injective, ?_⟩
  · rw [Plan.containerNames_eq, names]
    rfl
  · rw [Plan.containerNames_eq, names, List.nodup_map_iff injective, List.nodup_cons]
    exact and_iff_left distinct

/-- A document whose second container is declared under the role of the pause container. -/
def pauseDeclared : String :=
  "\x7b\"containerDefinitions\":[\x7b\"name\":\"web\"\x7d,\x7b\"name\":\"pause\"\x7d]\x7d"

theorem ofText_pauseDeclared :
    Definition.ofText pauseDeclared =
      .ok { containers := [{ name := "web" }, { name := "pause" }] } :=
  rfl

/-- A plan for the containers of that document. -/
def pauseDeclaredPlan : Run.Plan :=
  { Run.Plan.single with containers := [("web", ""), ("pause", "")] }

theorem declared_pause_apart_from_web :
    ∃ definition, Definition.ofText pauseDeclared = .ok definition ∧
      pauseDeclaredPlan.containers = Image.resolve [] definition ∧
      (definition.names.map pauseDeclaredPlan.identity.containerName).Nodup ∧
      ¬ pauseDeclaredPlan.containerNames.Nodup := by
  have planned : pauseDeclaredPlan.containers =
      Image.resolve [] { containers := [{ name := "web" }, { name := "pause" }] } :=
    rfl
  rcases names_distinct_iff_pause_undeclared ofText_pauseDeclared planned with
    ⟨_, distinct, apart⟩
  exact ⟨_, ofText_pauseDeclared, planned, distinct, fun all => apart.mp all (by decide)⟩

/-- A definition that is read may have a container that is called like the pause container. -/
theorem declared_pause_collides :
    ∃ definition, Definition.ofText pauseDeclared = .ok definition ∧
      ∀ identity : Run.Identity,
        ¬ (identity.pauseName :: definition.names.map identity.containerName).Nodup := by
  refine ⟨_, ofText_pauseDeclared, ?_⟩
  intro identity distinct
  apply (List.nodup_cons.mp distinct).1
  exact List.mem_map_of_mem (f := identity.containerName) (by decide)

end Workload.Task
