import Workload.Error
import Workload.Text.Blank
import Workload.Text.Numeral
import Workload.Text.Split

/-!
# Port overrides

The operator may publish a container port on another host port, written `container:host`. Each half
is trimmed and has to be a numeral of a port from 1 to 65535.
-/

namespace Workload.Port

open Text

/-- A container port and the host port it is published on. -/
structure Override where
  container : UInt16
  host : UInt16
deriving Repr, DecidableEq

/-- The port that a numeral with blanks around it stands for; zero is none. -/
def readPort? (text : List Char) : Option UInt16 :=
  match readNumeral? 65535 (trimChars text) with
  | some 0 => none
  | some port => some port.toUInt16
  | none => none

/-- Reads a port override. A missing colon is blamed first, then the container half. -/
def Override.parse (text : String) : Except InputError Override :=
  match splitFirstChars ':' text.toList with
  | none => .error (.portOverride text "expected containerPort:hostPort")
  | some (containerHalf, hostHalf) =>
      match readPort? containerHalf, readPort? hostHalf with
      | some container, some host => .ok ⟨container, host⟩
      | none, _ => .error (.portOverride text "invalid container port")
      | some _, none => .error (.portOverride text "invalid host port")

/-- The text of a port override. -/
def Override.text (override : Override) : String :=
  decimal override.container.toNat ++ ":" ++ decimal override.host.toNat

end Workload.Port
