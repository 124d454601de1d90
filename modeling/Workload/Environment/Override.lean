import Workload.Error
import Workload.Text.Split

/-!
# Variable overrides

The operator may set a variable, written `KEY=VALUE` for every container or `CONTAINER:KEY=VALUE`
for one. The first equals sign ends the target, and the first colon of the target ends the
container.
-/

namespace Workload.Environment

open Text

/-- A variable that the operator sets, in one container or in all. -/
structure Override where
  container : Option String
  key : String
  value : String
deriving Repr, DecidableEq

/-- Reads a variable override. -/
def Override.parse (text : String) : Except InputError Override :=
  match splitFirst '=' text with
  | none => .error (.variableOverride text "expected [container:]KEY=VALUE")
  | some (target, value) =>
      match splitFirst ':' target with
      | some (container, key) =>
          if container = "" then .error (.variableOverride text "empty container name")
          else if key = "" then .error (.variableOverride text "empty variable name")
          else .ok ⟨some container, key, value⟩
      | none =>
          if target = "" then .error (.variableOverride text "empty variable name")
          else .ok ⟨none, target, value⟩

/-- What an override sets, as the operator wrote it. -/
def Override.target (override : Override) : String :=
  match override.container with
  | some container => container ++ ":" ++ override.key
  | none => override.key

/-- Whether an override sets the given variable of the given container. -/
def Override.sets (override : Override) (container key : String) : Bool :=
  override.key = key && override.container.all (· = container)

end Workload.Environment
