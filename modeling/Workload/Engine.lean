import Workload.Error
import Workload.ProcessEnvironment
import Workload.Text.LowerCase

/-!
# Container engines

Two engines are supported. They take the same commands and differ only in the tool that is called.
-/

namespace Workload

/-- A container engine. -/
inductive Engine where
  | docker
  | podman
deriving Repr, DecidableEq

namespace Engine

/-- The name of an engine, which is also the name of its tool. -/
def name : Engine → String
  | .docker => "docker"
  | .podman => "podman"

/-- The name of an engine as a description of settings shows it. -/
def title : Engine → String
  | .docker => "Docker"
  | .podman => "Podman"

/-- Reads the name of an engine, in any case. -/
def parse (text : String) : Except RunError Engine :=
  let word := Text.lowerCase text
  if word = "docker" then .ok .docker
  else if word = "podman" then .ok .podman
  else .error (.internal ("Unknown runtime: " ++ text ++ ". Supported runtimes: docker, podman"))

/-- The variable that names the engine when the operator does not. -/
def variableName : String := "LOCALRUN_RUNTIME"

/-- The engine to use: the operator's choice, else a valid name in the environment, else docker. -/
def detect (environment : ProcessEnvironment) (chosen : Option Engine) : Engine :=
  match chosen with
  | some engine => engine
  | none =>
      match (environment.text? variableName).map parse with
      | some (.ok engine) => engine
      | _ => .docker

end Engine

end Workload
