import Workload.Port.Override
import Workload.Table
import Workload.Task.Definition

/-!
# Port bindings

All containers share the network of the pause container, which therefore publishes every declared
port. A mapping that gives one port only uses it on both sides, a later mapping of a container port
replaces an earlier one, and the operator's overrides come last.
-/

namespace Workload.Port

/-- Which host port each container port is published on, in ascending order of container ports. -/
structure Bindings where
  entries : List (UInt16 × UInt16) := []
deriving Repr, DecidableEq

/-- The container port and host port that a mapping stands for. -/
def effective? (mapping : Task.PortMapping) : Option (UInt16 × UInt16) :=
  match mapping.container, mapping.host with
  | some container, some host => some (container, host)
  | some container, none => some (container, container)
  | none, some host => some (host, host)
  | none, none => none

/-- The effective pairs of all declared mappings, in declared order. -/
def declared (definition : Task.Definition) : List (UInt16 × UInt16) :=
  definition.containers.flatMap fun container => container.ports.filterMap effective?

/-- The bindings of a task definition under the operator's overrides. -/
def Bindings.resolve (definition : Task.Definition) (overrides : List Override) : Bindings :=
  ⟨Table.ofList (declared definition ++
    overrides.map fun override => (override.container, override.host))⟩

/-- The host port that a container port is published on. -/
def Bindings.hostPort? (bindings : Bindings) (container : UInt16) : Option UInt16 :=
  Table.find? container bindings.entries

/--
The overrides that replace a host port, each with the port it replaces; `earlier` came before.
-/
def replaced (definition : Task.Definition) :
    List Override → List Override → List (Override × UInt16)
  | _, [] => []
  | earlier, override :: rest =>
      let others := replaced definition (earlier ++ [override]) rest
      match (Bindings.resolve definition earlier).hostPort? override.container with
      | some host => (override, host) :: others
      | none => others

end Workload.Port
