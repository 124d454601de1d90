import Workload.Engine
import Workload.Environment.Override
import Workload.Image
import Workload.Port.Override
import Workload.Run.Plan

/-!
# What the operator asks for
-/

namespace Workload

/-- A request to run a deployed workload on this machine. -/
structure Request where
  identity : Run.Identity
  portOverrides : List Port.Override := []
  variableOverrides : List Environment.Override := []
  /-- Locally built images by container. -/
  images : Image.Built := []
  /-- The file of the task definition; absent, the deployed one is asked for. -/
  definitionPath : Option String := none
  pauseImage : Option String := none
  engine : Option Engine := none

namespace Request

/-- The names that a request cannot do without, and what they are called. -/
def requiredNames (request : Request) : List (String × String) :=
  [("application name", request.identity.application),
    ("environment name", request.identity.environment),
    ("workload name", request.identity.workload)]

/-- Whether a text holds nothing but blanks. -/
def isEmptyName (name : String) : Bool :=
  Text.trim name = ""

/-- Refuses a request that lacks a name; the first one that is missing is reported. -/
def validate (request : Request) : Except InputError Unit :=
  match request.requiredNames.find? fun (_, name) => isEmptyName name with
  | some (what, _) => .error (.missing what)
  | none => .ok ()

end Request

end Workload
