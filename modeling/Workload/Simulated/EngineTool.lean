import Workload.Engine.Client
import Workload.Simulated.Tool

/-!
# Requests to the tool of an engine

Requests are made one after the other, to a stand-in or to a tool that cannot be started. A
container run that never ends can only be cancelled.
-/

namespace Workload.Simulated

open Container

/-- A request to the tool of an engine. -/
inductive EngineRequest where
  /-- Runs a container; if it never ends, the run may be cancelled once its call was noted. -/
  | run (specification : Specification) (cancelled : Bool)
  | isRunning (container : String)
  | cleanup (step : CleanupStep) (container : String)
deriving Repr

/-- What a request gives. -/
inductive EngineAnswer where
  | ran (result : Except EngineError Unit)
  | checked (result : Except EngineError Bool)
  | cleaned (result : Except EngineError Unit)
deriving Repr

/-- How the tool of an engine is played: by rules, or not at all. -/
abbrev Cast := Except Tool.LaunchFailure (List Rule)

/-- A request that was made: its answer, the calls noted for it and the lines shown. -/
structure EngineVisit where
  answer : EngineAnswer
  calls : List Invocation := []
  stdout : List String := []
  stderr : List String := []
deriving Repr

namespace EngineRequest

/-- The arguments of a request. -/
def arguments : EngineRequest → List String
  | .run specification _ => specification.arguments
  | .isRunning container => Engine.inspectArguments container
  | .cleanup step container => Engine.cleanupArguments step container

/-- Everything that is handed to the process of a request. -/
def handedOver : EngineRequest → List String
  | .run specification _ => Engine.handedOver specification
  | request => request.arguments

/-- The secrets that are handed to the process of a request. -/
def secrets : EngineRequest → List (String × String)
  | .run specification _ => specification.secrets
  | _ => []

/-- What a reply means for a request. -/
def interpret (reply : Tool.Reply) : EngineRequest → EngineAnswer
  | .run _ _ => .ran (Engine.runResult reply)
  | .isRunning _ => .checked (Engine.runningResult reply)
  | .cleanup step container => .cleaned (Engine.cleanupResult step container reply)

/-- The answer of a process that was started; one that never ends can only be cancelled. -/
def answer (rule : Rule) (request : EngineRequest) : EngineAnswer :=
  match request with
  | .run _ true =>
      if rule.hangs then .ran (.error .cancelled) else request.interpret (.ok rule.output)
  | _ => request.interpret (.ok rule.output)

/-- Makes a request. -/
def make (tool : String) (cast : Cast) (request : EngineRequest) : EngineVisit :=
  match Tool.refusal? request.handedOver, cast with
  | some failure, _ => { answer := request.interpret (.error failure) }
  | none, .error failure => { answer := request.interpret (.error failure) }
  | none, .ok rules =>
      let rule := ruleFor rules request.arguments
      let visit : EngineVisit :=
        { answer := request.answer rule
          calls := [.ofRun tool request.arguments request.secrets] }
      match request with
      | .run specification _ =>
          { visit with
            stdout := Engine.labelledLines specification rule.output.stdout
            stderr := Engine.labelledLines specification rule.output.stderr }
      | _ => visit

end EngineRequest

end Workload.Simulated
