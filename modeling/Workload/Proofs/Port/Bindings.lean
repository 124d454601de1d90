import Workload.Preparation
import Workload.Proofs.Table

/-!
# Which host port a container port is published on

The bindings of a task definition are a table into which every declared mapping and then every
override is put, so the last one for a container port decides. A mapping that gives only one of its
two ports means it on both sides, and one that gives neither is not in the table. The pause container
publishes the table entry by entry, with the host port first.
-/

namespace Workload

namespace Task

/-- The container port that a mapping is for. -/
def PortMapping.containerPort? (mapping : PortMapping) : Option UInt16 :=
  mapping.container.or mapping.host

/-- All declared mappings, container by container. -/
def Definition.mappings (definition : Definition) : List PortMapping :=
  definition.containers.flatMap Container.ports

end Task

namespace Port

open Workload.Task

theorem getLast?_filter {Item : Type} (chosen : Item → Bool) (items : List Item) :
    (items.filter chosen).getLast? = items.reverse.find? chosen := by
  rw [List.getLast?_eq_head?_reverse, ← List.filter_reverse, List.head?_filter]

theorem effective?_eq (mapping : PortMapping) :
    effective? mapping =
      mapping.containerPort?.map fun container => (container, mapping.host.getD container) := by
  rcases mapping with ⟨_ | container, _ | host⟩ <;> rfl

theorem declared_eq (definition : Definition) :
    declared definition = definition.mappings.filterMap effective? := by
  rw [declared, Definition.mappings, List.filterMap_flatMap]

/-- The last mapping of a container port is the one that is found among the declared pairs. -/
theorem find?_declared (definition : Definition) (port : UInt16) :
    Table.find? port (declared definition).reverse =
      (definition.mappings.filter (·.containerPort? = some port)).getLast?.map fun mapping =>
        mapping.host.getD port := by
  rw [Table.find?_eq, declared_eq, ← List.filterMap_reverse, List.find?_filterMap, getLast?_filter]
  have same : (fun mapping => (effective? mapping).any fun entry => entry.1 = port) =
      fun mapping : PortMapping => decide (mapping.containerPort? = some port) := by
    funext mapping
    rw [effective?_eq]
    cases mapping.containerPort? <;> simp
  rw [same]
  cases found : definition.mappings.reverse.find? (·.containerPort? = some port) with
  | none => rfl
  | some mapping =>
      have chosen : mapping.containerPort? = some port := by simpa using List.find?_some found
      simp [effective?_eq, chosen]

theorem find?_overrides (overrides : List Override) (port : UInt16) :
    Table.find? port
        (overrides.map fun override => (override.container, override.host)).reverse =
      (overrides.filter (·.container = port)).getLast?.map Override.host := by
  rw [Table.find?_eq, ← List.map_reverse, List.find?_map, getLast?_filter, Option.map_map]
  rfl

/-- The last override of a container port decides, and the last mapping if there is none. -/
theorem hostPort?_resolve (definition : Definition) (overrides : List Override) (port : UInt16) :
    (Bindings.resolve definition overrides).hostPort? port =
      ((overrides.filter (·.container = port)).getLast?.map Override.host).or
        ((definition.mappings.filter (·.containerPort? = some port)).getLast?.map fun mapping =>
          mapping.host.getD port) := by
  rw [← find?_overrides, ← find?_declared, Bindings.hostPort?, Bindings.resolve,
    Table.find?_ofList, List.reverse_append]
  simp only [Table.find?_eq, List.find?_append, Option.map_or]

theorem sorted_resolve (definition : Definition) (overrides : List Override) :
    Table.Sorted (Bindings.resolve definition overrides).entries :=
  Table.sorted_ofList _

theorem isSome_getLast?_filter {Item : Type} (chosen : Item → Bool) (items : List Item) :
    (items.filter chosen).getLast?.isSome ↔ ∃ item ∈ items, chosen item := by
  rw [getLast?_filter, List.find?_isSome]
  simp

theorem mem_keys_resolve {definition : Definition} {overrides : List Override} {port : UInt16} :
    port ∈ Table.keys (Bindings.resolve definition overrides).entries ↔
      (∃ override ∈ overrides, override.container = port) ∨
        ∃ mapping ∈ definition.mappings, mapping.containerPort? = some port := by
  rw [Table.mem_keys_iff, ← Option.isSome_iff_exists]
  change ((Bindings.resolve definition overrides).hostPort? port).isSome ↔ _
  rw [hostPort?_resolve, Option.isSome_or, Option.isSome_map, Option.isSome_map, Bool.or_eq_true,
    isSome_getLast?_filter, isSome_getLast?_filter]
  simp

/-- The arguments that publish a container port on a host port. -/
def publication (binding : UInt16 × UInt16) : List String :=
  ["--publish", toString binding.2 ++ ":" ++ toString binding.1]

theorem arguments_pause (plan : Run.Plan) :
    plan.pause.arguments =
      ["run", "--name", plan.identity.pauseName] ++ plan.ports.entries.flatMap publication ++
        [plan.pauseImage, "sleep", "infinity"] := by
  have published : plan.pause.portArguments = plan.ports.entries.flatMap publication := by
    simp only [Container.Specification.portArguments, Run.Plan.pause, List.flatMap_map]
    rfl
  simp only [Container.Specification.arguments, published]
  simp [Container.Specification.networkArguments, Container.Specification.variableArguments,
    Container.Specification.secretArguments, Run.Plan.pause, Run.Plan.pauseCommand]

/--
The container ports that are bound are those of the overrides and of the mappings, each is bound
once, and the last override of a port decides about its host port, or else its last mapping. A run
publishes exactly the bindings, in ascending order of the container ports.
-/
theorem bindings_by_last_declaration (definition : Definition) (overrides : List Override) :
    (∀ port, port ∈ Table.keys (Bindings.resolve definition overrides).entries ↔
      (∃ override ∈ overrides, override.container = port) ∨
        ∃ mapping ∈ definition.mappings, mapping.containerPort? = some port) ∧
    (∀ port, (Bindings.resolve definition overrides).hostPort? port =
      ((overrides.filter (·.container = port)).getLast?.map Override.host).or
        ((definition.mappings.filter (·.containerPort? = some port)).getLast?.map fun mapping =>
          mapping.host.getD port)) ∧
    (Table.keys (Bindings.resolve definition overrides).entries).Pairwise (· < ·) ∧
    (∀ port host, (port, host) ∈ (Bindings.resolve definition overrides).entries ↔
      (Bindings.resolve definition overrides).hostPort? port = some host) ∧
    ∀ (request : Request) (settings : Settings) (environment : Environment),
      (Preparation.plan { request with portOverrides := overrides } settings definition
          environment).pause.arguments =
        ["run", "--name", request.identity.pauseName] ++
          (Bindings.resolve definition overrides).entries.flatMap publication ++
          [request.pauseImage.getD settings.pauseImage, "sleep", "infinity"] := by
  have sorted := sorted_resolve definition overrides
  refine ⟨fun port => mem_keys_resolve, hostPort?_resolve definition overrides, sorted, ?_, ?_⟩
  · intro port host
    exact (Table.find?_eq_some_iff sorted.nodup_keys).symm
  · intro request settings environment
    exact arguments_pause _

/-- A mapping stands for both ports if it gives one, and an override replaces all of a port. -/
example :
    Bindings.resolve
      { containers := [
          { name := "web", ports := [⟨some 443, some 8443⟩, ⟨some 80, none⟩, ⟨none, none⟩] },
          { name := "worker", ports := [⟨none, some 443⟩, ⟨some 80, some 9000⟩] }] }
      [⟨80, 8080⟩] = ⟨[(80, 8080), (443, 443)]⟩ := by decide

end Port

end Workload
