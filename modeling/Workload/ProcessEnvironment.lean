import Workload.Table
import Workload.Text.Utf8

/-!
# The environment of the process

A variable of the process environment holds bytes. Its text is readable only if they are well-formed
UTF-8; otherwise the variable counts as unset, except where only its presence matters.
-/

namespace Workload

/-- The variables of the process with their bytes. -/
abbrev ProcessEnvironment := List (String × List UInt8)

namespace ProcessEnvironment

/-- Whether a variable is set, readable or not. -/
def isSet (environment : ProcessEnvironment) (name : String) : Bool :=
  (Table.find? name environment).isSome

/-- The text of a variable that is set and readable. -/
def text? (environment : ProcessEnvironment) (name : String) : Option String :=
  (Table.find? name environment).bind Text.decode?

end ProcessEnvironment

end Workload
