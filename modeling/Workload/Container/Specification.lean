import Workload.Text.Numeral

/-!
# Run specifications

A run specification is everything the engine needs to start one container. Values of secrets go
through the environment of the engine's client and never onto its command line, which only names
them.
-/

namespace Workload.Container

/-- A container port published on a host port. -/
structure PublishedPort where
  host : UInt16
  container : UInt16
deriving Repr, DecidableEq

/-- The colour of a container's label on a terminal. -/
inductive Color where
  | cyan
  | magenta
  | yellow
  | green
  | blue
  | red
  | white
deriving Repr, DecidableEq

/-- The name of a colour. -/
def Color.name : Color → String
  | .cyan => "Cyan"
  | .magenta => "Magenta"
  | .yellow => "Yellow"
  | .green => "Green"
  | .blue => "Blue"
  | .red => "Red"
  | .white => "White"

/-- The colours that containers receive in turn. -/
def palette : List Color := [.cyan, .magenta, .yellow, .green, .blue, .red]

/-- The colour of the container at a position; colours repeat when all are used. -/
def colorAt (index : Nat) : Color :=
  palette.getD (index % palette.length) .cyan

/-- What stands before every line of a container's output. -/
def linePrefix (label : String) : String :=
  "[" ++ label ++ "] "

/-- Everything the engine needs to start one container. -/
structure Specification where
  image : String
  container : String
  /-- The container whose network is joined. -/
  network : Option String := none
  ports : List PublishedPort := []
  command : List String := []
  plainVariables : List (String × String) := []
  secrets : List (String × String) := []
  label : String := ""
  color : Color := .cyan
deriving Repr, DecidableEq

namespace Specification

/-- The arguments that join the network of another container. -/
def networkArguments (specification : Specification) : List String :=
  match specification.network with
  | some container => ["--network", "container:" ++ container]
  | none => []

/-- The arguments that publish ports. -/
def portArguments (specification : Specification) : List String :=
  specification.ports.flatMap fun port =>
    ["--publish", Text.decimal port.host.toNat ++ ":" ++ Text.decimal port.container.toNat]

/-- The arguments that set variables. -/
def variableArguments (specification : Specification) : List String :=
  specification.plainVariables.flatMap fun (key, value) => ["--env", key ++ "=" ++ value]

/-- The arguments that name the secrets to take from the client's environment. -/
def secretArguments (specification : Specification) : List String :=
  specification.secrets.flatMap fun (key, _) => ["--env", key]

/-- The engine's arguments that run a container. -/
def arguments (specification : Specification) : List String :=
  ["run", "--name", specification.container] ++ specification.networkArguments ++
    specification.portArguments ++ specification.variableArguments ++
    specification.secretArguments ++ specification.image :: specification.command

end Specification

end Workload.Container
