import Workload.Attempt
import Workload.Container.Specification
import Workload.Error
import Workload.Text.Blank
import Workload.Text.Lines
import Workload.Text.LowerCase

/-!
# The command line tool of a container engine

Both engines are driven through their command line tools, which take the same arguments. This module
says with which arguments a tool is called and what its replies mean.
-/

namespace Workload.Engine

open Container

/-! ## Arguments -/

/-- The arguments that ask whether a container runs. -/
def inspectArguments (container : String) : List String :=
  ["inspect", "--type", "container", "--format", "\x7b\x7b.State.Running\x7d\x7d", container]

/-- The arguments that stop or remove a container. -/
def cleanupArguments (step : CleanupStep) (container : String) : List String :=
  [step.word, container]

/-- Everything that is handed to the process that runs a container, its environment included. -/
def handedOver (specification : Specification) : List String :=
  specification.arguments ++
    specification.secrets.flatMap fun (key, value) => [key, value]

/-! ## Replies -/

/-- The error of a process that was not started. -/
def launchError (action : String) : Tool.LaunchFailure → EngineError
  | .notFound => .notInstalled
  | .refused detail => .command ("Failed to " ++ action ++ ": " ++ detail)

/-- What the reply to running a container means. -/
def runResult : Tool.Reply → Except EngineError Unit
  | .error failure => .error (launchError "spawn runtime run" failure)
  | .ok output => if output.succeeded then .ok () else .error (.exitStatus output.status)

/-- Whether the tool says that there is no such container. -/
def saysNotFound (message : String) : Bool :=
  let lower := (Text.lowerCase message).toList
  Text.occursIn "no such container".toList lower || Text.occursIn "no such object".toList lower

/-- What the reply to the question whether a container runs means. -/
def runningResult : Tool.Reply → Except EngineError Bool
  | .error failure => .error (launchError "execute runtime command" failure)
  | .ok output =>
      if output.succeeded then .ok (Text.trim (Text.decodeLossy output.stdout) = "true")
      else
        let message := Text.decodeLossy output.stderr
        if saysNotFound message then .ok false
        else .error (.command ("Runtime inspect failed: " ++ Text.trim message))

/-- What the reply to stopping or removing a container means. -/
def cleanupResult (step : CleanupStep) (container : String) :
    Tool.Reply → Except EngineError Unit
  | .error failure => .error (launchError "execute runtime command" failure)
  | .ok output =>
      if output.succeeded then .ok ()
      else
        let message := Text.decodeLossy output.stderr
        if saysNotFound message then .error (.noSuchContainer container)
        else
          .error (.command
            ("Runtime " ++ step.word ++ " command failed: " ++ Text.trim message))

/-! ## Output of containers -/

/-- The lines shown for what a container writes, each behind the container's label. -/
def labelledLines (specification : Specification) (written : List UInt8) : List String :=
  (Text.shownLines [written]).map fun line =>
    Container.linePrefix specification.label ++ line

end Workload.Engine
