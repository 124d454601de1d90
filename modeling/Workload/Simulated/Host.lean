import Workload.Container.Specification
import Workload.Error
import Workload.Run.Machine

/-!
# A simulated host

A simulated host keeps track of which containers exist and which of them run. How a container
behaves once it is run is fixed by its name; the run of a container is split at its wait, into
`begin` and `ends`, and a run that is cancelled while it waits leaves the container as it is.
-/

namespace Workload.Simulated

open Container

/-- What a simulated container does once it is run. -/
inductive Behaviour where
  | untilCancelled
  /-- Ends well after the given time. -/
  | exit (delay : Nat)
  /-- Ends with an error after the given time. -/
  | fail (delay : Nat) (detail : String)
  /-- Is never created. -/
  | failToStart (detail : String)
deriving Repr, DecidableEq

/-- The rules of a simulated host. -/
structure Host where
  /-- Behaviours by container name, or by what stands before a dash in it. -/
  behaviours : List (String × Behaviour) := []
  otherwise : Behaviour := .untilCancelled
  /-- How many checks of each container say that it does not run yet. -/
  startupPolls : Nat := 0
  /-- Containers whose name begins with one of these cannot be stopped. -/
  stopFailures : List String := []
  /-- Containers whose name begins with one of these cannot be removed. -/
  removeFailures : List String := []
deriving Repr, DecidableEq

/-- The state of a simulated host. -/
structure Host.State where
  existing : List String := []
  running : List String := []
  calls : List (Run.Verb × String) := []
  specifications : List Specification := []
  /-- How often each container was checked. -/
  polls : List (String × Nat) := []
deriving Repr, DecidableEq

namespace Host

/-- Whether a text begins with another one. -/
def beginsWith (start text : String) : Bool :=
  start.toList.isPrefixOf text.toList

/-- The behaviour of the container of the given name. -/
def behaviour (host : Host) (name : String) : Behaviour :=
  match host.behaviours.find? fun (key, _) => name = key || beginsWith (key ++ "-") name with
  | some (_, behaviour) => behaviour
  | none => host.otherwise

/-- Whether a container cannot be stopped. -/
def refusesStop (host : Host) (name : String) : Bool :=
  host.stopFailures.any fun start => beginsWith start name

/-- Whether a container cannot be removed. -/
def refusesRemove (host : Host) (name : String) : Bool :=
  host.removeFailures.any fun start => beginsWith start name

/-- Adds a name to a list of distinct names. -/
def addName (name : String) (names : List String) : List String :=
  if name ∈ names then names else names ++ [name]

namespace State

/-- Adds a call to the record. -/
def recordCall (state : State) (verb : Run.Verb) (name : String) : State :=
  { state with calls := state.calls ++ [(verb, name)] }

/-- Lets a container exist without running it. -/
def addExisting (state : State) (name : String) : State :=
  { state with existing := addName name state.existing }

/-- Begins to run a container, and gives the error of one that is never created. -/
def begin (host : Host) (state : State) (specification : Specification) :
    State × Option EngineError :=
  let name := specification.container
  let recorded := { state.recordCall .run name with
    specifications := state.specifications ++ [specification] }
  match host.behaviour name with
  | .failToStart detail => (recorded, some (.command detail))
  | _ =>
      ({ recorded with
        existing := addName name recorded.existing
        running := addName name recorded.running }, none)

/-- A container has ended by itself. -/
def ends (state : State) (name : String) : State :=
  { state with running := state.running.filter (· != name) }

/-- How often a container was checked. -/
def pollsOf (state : State) (name : String) : Nat :=
  (Table.find? name state.polls).getD 0

/-- Checks whether a container runs. -/
def isRunning (host : Host) (state : State) (name : String) : State × Bool :=
  let polls := state.pollsOf name + 1
  let recorded := { state.recordCall .isRunning name with
    polls := Table.insert name polls state.polls }
  (recorded, host.startupPolls < polls && name ∈ state.running)

/-- Stops a container. -/
def stop (host : Host) (state : State) (name : String) : State × Except EngineError Unit :=
  let recorded := state.recordCall .stop name
  if host.refusesStop name then (recorded, .error (.command ("cannot stop " ++ name)))
  else if name ∈ state.existing then
    ({ recorded with running := state.running.filter (· != name) }, .ok ())
  else (recorded, .error (.noSuchContainer name))

/-- Removes a container. -/
def remove (host : Host) (state : State) (name : String) : State × Except EngineError Unit :=
  let recorded := state.recordCall .remove name
  if host.refusesRemove name then (recorded, .error (.command ("cannot remove " ++ name)))
  else if name ∈ state.existing then
    ({ recorded with
      existing := state.existing.filter (· != name)
      running := state.running.filter (· != name) }, .ok ())
  else (recorded, .error (.noSuchContainer name))

end State

/-- An operation on a simulated host. -/
inductive Operation where
  | addExisting (name : String)
  | begin (specification : Specification)
  | ends (name : String)
  | isRunning (name : String)
  | stop (name : String)
  | remove (name : String)
deriving Repr, DecidableEq

/-- The state of a host after an operation. -/
def after (host : Host) (state : State) : Operation → State
  | .addExisting name => state.addExisting name
  | .begin specification => (state.begin host specification).1
  | .ends name => state.ends name
  | .isRunning name => (state.isRunning host name).1
  | .stop name => (state.stop host name).1
  | .remove name => (state.remove host name).1

end Host

/-- How a run that waited for the given behaviour ends by itself; `none` if it never does. -/
def Behaviour.ending : Behaviour → Option (Nat × Except EngineError Unit)
  | .exit delay => some (delay, .ok ())
  | .fail delay detail => some (delay, .error (.command detail))
  | _ => none

end Workload.Simulated
