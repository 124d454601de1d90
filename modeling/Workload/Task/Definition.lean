import Workload.Error

/-!
# Task definitions

A task definition lists the containers of a deployed workload. A valid one has at least one
container, and its containers have distinct, non-empty names.
-/

namespace Workload.Task

/-- A declared pair of container port and host port; either may be absent. -/
structure PortMapping where
  container : Option UInt16 := none
  host : Option UInt16 := none
deriving Repr, DecidableEq

/-- A plain environment variable of a container. -/
structure Variable where
  name : String
  value : String := ""
deriving Repr, DecidableEq

/-- A secret of a container: the variable it fills and the reference of its value. -/
structure Secret where
  name : String
  reference : String
deriving Repr, DecidableEq

/-- One container of a task definition. -/
structure Container where
  name : String
  image : String := ""
  ports : List PortMapping := []
  environment : List Variable := []
  secrets : List Secret := []
deriving Repr, DecidableEq

/-- The containers of a workload, in declared order. -/
structure Definition where
  containers : List Container := []
deriving Repr, DecidableEq

/-- A declaration together with the container that makes it. -/
structure Declared where
  container : String
  name : String
  value : String
deriving Repr, DecidableEq

namespace Definition

/-- The container of the given name. -/
def container? (definition : Definition) (name : String) : Option Container :=
  definition.containers.find? fun container => container.name = name

/-- The names of the containers, in declared order. -/
def names (definition : Definition) : List String :=
  definition.containers.map Container.name

/-- All plain variables, each with its container. -/
def plainVariables (definition : Definition) : List Declared :=
  definition.containers.flatMap fun container =>
    container.environment.map fun plain => ⟨container.name, plain.name, plain.value⟩

/-- All secrets, each with its container; the value is the reference. -/
def secrets (definition : Definition) : List Declared :=
  definition.containers.flatMap fun container =>
    container.secrets.map fun secret => ⟨container.name, secret.name, secret.reference⟩

end Definition

/-- The error for a task definition without containers. -/
def noContainers : InputError :=
  .validation "task definition has no container definitions"

/-- The error for a container without a name. -/
def namelessContainer : InputError :=
  .validation "container definition without a name"

/-- The error for a second container of the same name. -/
def duplicateContainer (name : String) : InputError :=
  .validation ("duplicate container name " ++ Text.quoted name)

/-- Checks container names in order, given those seen before. -/
def checkNames (seen : List String) : List String → Except InputError Unit
  | [] => .ok ()
  | name :: rest =>
      if name = "" then .error namelessContainer
      else if name ∈ seen then .error (duplicateContainer name)
      else checkNames (name :: seen) rest

/-- Checks that a definition is valid, and says what the first fault is. -/
def Definition.check (definition : Definition) : Except InputError Unit :=
  if definition.containers.isEmpty then .error noContainers
  else checkNames [] definition.names

end Workload.Task
