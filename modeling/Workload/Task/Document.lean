import Workload.Json.Decode
import Workload.Json.Reader
import Workload.Json.Writer
import Workload.Task.Definition

/-!
# Task definitions as JSON documents

A document holds a task definition either bare or as the member `taskDefinition` of an envelope.
Ports, variables and secrets may be left out; the name of a container, variable or secret and the
reference of a secret may not.
-/

namespace Workload.Task

open Json

/-- Decodes a port mapping. -/
def PortMapping.decode : Value → Except DataError PortMapping
  | .object members => do
      let container ← memberAs? members "containerPort" (Value.asOptional Value.asPort)
      let host ← memberAs? members "hostPort" (Value.asOptional Value.asPort)
      return ⟨container.join, host.join⟩
  | .array elements => do
      let container ← elementAs? elements 0 (Value.asOptional Value.asPort)
      let host ← elementAs? elements 1 (Value.asOptional Value.asPort)
      noMoreThan 2 elements
      return ⟨container.join, host.join⟩
  | other => wrongType "struct PortMapping" other

/-- Decodes a plain variable. -/
def Variable.decode : Value → Except DataError Variable
  | .object members => do
      let name ← memberAs? members "name" Value.asString
      let value ← memberAs? members "value" Value.asString
      return ⟨← required "name" name, value.getD ""⟩
  | .array elements => do
      let name ← elementAs? elements 0 Value.asString
      let name ← requiredElement 0 "struct EnvironmentVariable with 2 elements" name
      let value ← elementAs? elements 1 Value.asString
      noMoreThan 2 elements
      return ⟨name, value.getD ""⟩
  | other => wrongType "struct EnvironmentVariable" other

/-- Decodes a secret. -/
def Secret.decode : Value → Except DataError Secret
  | .object members => do
      let name ← memberAs? members "name" Value.asString
      let reference ← memberAs? members "valueFrom" Value.asString
      let name ← required "name" name
      return ⟨name, ← required "valueFrom" reference⟩
  | .array elements => do
      let name ← elementAs? elements 0 Value.asString
      let name ← requiredElement 0 "struct SecretDeclaration with 2 elements" name
      let reference ← elementAs? elements 1 Value.asString
      let reference ← requiredElement 1 "struct SecretDeclaration with 2 elements" reference
      noMoreThan 2 elements
      return ⟨name, reference⟩
  | other => wrongType "struct SecretDeclaration" other

/-- Decodes a container. -/
def Container.decode : Value → Except DataError Container
  | .object members => do
      let environment ← memberAs? members "environment" (Value.asList Variable.decode)
      let image ← memberAs? members "image" Value.asString
      let name ← memberAs? members "name" Value.asString
      let ports ← memberAs? members "portMappings" (Value.asList PortMapping.decode)
      let secrets ← memberAs? members "secrets" (Value.asList Secret.decode)
      let name ← required "name" name
      return ⟨name, image.getD "", ports.getD [], environment.getD [], secrets.getD []⟩
  | .array elements => do
      let name ← elementAs? elements 0 Value.asString
      let name ← requiredElement 0 "struct ContainerSpec with 5 elements" name
      let image ← elementAs? elements 1 Value.asString
      let ports ← elementAs? elements 2 (Value.asList PortMapping.decode)
      let environment ← elementAs? elements 3 (Value.asList Variable.decode)
      let secrets ← elementAs? elements 4 (Value.asList Secret.decode)
      noMoreThan 5 elements
      return ⟨name, image.getD "", ports.getD [], environment.getD [], secrets.getD []⟩
  | other => wrongType "struct ContainerSpec" other

/-- Decodes a task definition in its bare form, without checking it. -/
def Definition.decode : Value → Except DataError Definition
  | .object members => do
      let containers ← memberAs? members "containerDefinitions" (Value.asList Container.decode)
      return ⟨containers.getD []⟩
  | .array elements => do
      let containers ← elementAs? elements 0 (Value.asList Container.decode)
      noMoreThan 1 elements
      return ⟨containers.getD []⟩
  | other => wrongType "struct TaskDescriptor" other

/-- Decodes the task definition in an envelope, whose other members are ignored. -/
def Definition.decodeEnvelope : Value → Except DataError Definition
  | .object members => do
      let definition ← memberAs? members "taskDefinition" Definition.decode
      required "taskDefinition" definition
  | .array elements => do
      let definition ← elementAs? elements 0 Definition.decode
      let definition ←
        requiredElement 0 "struct DescribeTaskDefinitionOutput with 1 element" definition
      noMoreThan 1 elements
      return definition
  | other => wrongType "struct DescribeTaskDefinitionOutput" other

/-- Decodes a document, which is an envelope if it has the member `taskDefinition`. -/
def Definition.ofDocument (document : Value) : Except DataError Definition :=
  if (document.member? "taskDefinition").isSome then Definition.decodeEnvelope document
  else Definition.decode document

/-- Reads a task definition from a document and checks it. -/
def Definition.ofText (text : String) : Except InputError Definition :=
  match Value.parse text.toList with
  | .error fault => .error (.definitionSyntax (fault.message text.toList))
  | .ok document =>
      match Definition.ofDocument document with
      | .error fault => .error (.definitionSyntax fault.message)
      | .ok definition => do
          definition.check
          return definition

/-! ## Writing -/

/-- A port as a JSON value. -/
def encodePort : Option UInt16 → Value
  | none => .null
  | some port => .number (.natural port.toNat)

/-- A port mapping as a JSON value. -/
def PortMapping.encode (mapping : PortMapping) : Value :=
  .object [("containerPort", encodePort mapping.container), ("hostPort", encodePort mapping.host)]

/-- A plain variable as a JSON value. -/
def Variable.encode (plain : Variable) : Value :=
  .object [("name", .string plain.name), ("value", .string plain.value)]

/-- A secret as a JSON value. -/
def Secret.encode (secret : Secret) : Value :=
  .object [("name", .string secret.name), ("valueFrom", .string secret.reference)]

/-- A container as a JSON value. -/
def Container.encode (container : Container) : Value :=
  .object
    [("name", .string container.name),
      ("image", .string container.image),
      ("portMappings", .array (container.ports.map PortMapping.encode)),
      ("environment", .array (container.environment.map Variable.encode)),
      ("secrets", .array (container.secrets.map Secret.encode))]

/-- A task definition as a JSON value in its bare form. -/
def Definition.encode (definition : Definition) : Value :=
  .object [("containerDefinitions", .array (definition.containers.map Container.encode))]

end Workload.Task
