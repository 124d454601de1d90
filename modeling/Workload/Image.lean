import Workload.Error
import Workload.Table
import Workload.Task.Definition
import Workload.Text.Split

/-!
# Images

A container runs the image the operator built for it, if there is one, and otherwise the image that
the task definition declares.
-/

namespace Workload.Image

open Text

/-- Reads an image override, written `name=uri` with both parts non-empty. -/
def parseOverride (text : String) : Except InputError (String × String) :=
  match splitFirst '=' text with
  | some (name, uri) =>
      if name = "" ∨ uri = "" then .error (.imageOverride text) else .ok (name, uri)
  | none => .error (.imageOverride text)

/-- The built images by container name; of several for one container the last one counts. -/
abbrev Built := List (String × String)

/-- The image of every container, in declared order. -/
def resolve (built : Built) (definition : Task.Definition) : List (String × String) :=
  definition.containers.map fun container =>
    (container.name, (Table.find? container.name built).getD container.image)

/-- The built images whose container the task definition does not have. -/
def ignored (built : Built) (definition : Task.Definition) : List String :=
  (Table.keys built).filter fun name => (definition.container? name).isNone

/-- The warning about a built image without a container. -/
def ignoredWarning (name : String) : String :=
  "Ignoring image for " ++ name ++ ": no such container in the task definition"

end Workload.Image
