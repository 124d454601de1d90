import Workload.Task.Document
import Workload.Text.Utf8

/-!
# Task definitions from files
-/

namespace Workload.Task

/-- What stands at a path. -/
inductive FileContent where
  | missing
  | directory
  | bytes (content : List UInt8)
deriving Repr, DecidableEq

/-- Reads a task definition from what stands at a path. -/
def Definition.ofFile (path : String) : FileContent → Except InputError Definition
  | .missing => .error (.definitionNotFound path)
  | .directory => .error (.definitionUnreadable "Is a directory (os error 21)")
  | .bytes content =>
      match Text.decode? content with
      | none => .error (.definitionUnreadable "stream did not contain valid UTF-8")
      | some text => Definition.ofText text

end Workload.Task
