import Workload.Cancellation
import Workload.Cleanup.Event
import Workload.Run.Phase
import Workload.Run.Plan
import Workload.Transition

/-!
# A run and its interleavings

A run starts the pause container, asks until it is running, starts every application container,
waits until all of them ended, one fails, the pause container ends or the operator interrupts, and
then stops and removes what it started: the application containers at once, the pause container
after them.

The state machine below has one event for everything that can come in any order: the calls and
answers of the engine, what the run notices of them, and the steps of the watcher. Each list of
events that `follow` accepts is one interleaving. `State.history` records what an observer sees.
-/

namespace Workload.Run

open Cleanup

/-- The container that an event is about: the pause container, or an application by its position. -/
inductive Target where
  | pause
  | application (index : Nat)
deriving Repr, DecidableEq

/-- How far the engine's call that runs one container has come. -/
inductive Call where
  /-- The call is to be made by the task of the container. -/
  | due
  /-- The engine runs the container. -/
  | running
  /-- The engine's call has returned and the run has not noticed. -/
  | returned (result : Except EngineError Unit)
  /-- The run has noticed the end of the container. -/
  | noticed
deriving Repr

def Call.hasReturned : Call → Bool
  | .returned _ => true
  | .noticed => true
  | _ => false

def Call.wasNoticed : Call → Bool
  | .noticed => true
  | _ => false

/-- How far the cleanup of one container has come. -/
inductive CleanupStage where
  | stopDue
  | stopping
  | removeDue
  | removing
  | cleaned
deriving Repr, DecidableEq

structure Cleaner where
  container : String
  stage : CleanupStage := .stopDue
  failures : List CleanupFailure := []
deriving Repr, DecidableEq

/-- What the run itself is doing. -/
inductive Stage where
  | ready
  /-- The engine is to be asked whether the pause container runs. -/
  | pollDue
  | polling
  /-- The time between two polls passes. -/
  | waiting
  /-- Start-up has failed, and the call of the pause container has not returned yet. -/
  | abandoning (fault : RunError)
  /-- Applications are being started; the first of the list is next. -/
  | launching (next : Application) (rest : List Application)
  | supervising
  /-- All applications have ended, and the call of the pause container has not returned yet. -/
  | draining
  /-- All calls have returned, and the watcher is being ended. -/
  | closing (result : Option RunError)
  | cleaning (result : Option RunError)
  | finished (result : Option RunError)
deriving Repr

/-- What the run does while the given applications are still to be started. -/
def Stage.startingWith : List Application → Stage
  | [] => .supervising
  | next :: rest => .launching next rest

/-- Who cancelled the run first. -/
inductive Canceller where
  | operator
  | run
deriving Repr, DecidableEq

inductive Verb where
  | run
  | isRunning
  | stop
  | remove
deriving Repr, DecidableEq

def Verb.word : Verb → String
  | .run => "run"
  | .isRunning => "is_running"
  | .stop => "stop"
  | .remove => "rm"

/-- What an observer sees of a run. -/
inductive Occurrence where
  | published (phase : Phase)
  | called (verb : Verb) (container : String)
  /-- A call has returned, with the error it returned if any. -/
  | answered (verb : Verb) (container : String) (fault : Option EngineError)
  /-- The engine has confirmed that the pause container runs. -/
  | confirmed
  | launched (container : String)
  /-- An application container has ended well. -/
  | ended (name : String)
  /-- The run has noticed an error. -/
  | noticed (fault : RunError)
  | announced (event : Cleanup.Event)
  | interrupted
deriving Repr

structure Launched where
  application : Application
  call : Call := .due
deriving Repr

/-- The cleanup of an application container before it begins. -/
def Launched.cleaner (launched : Launched) : Cleaner :=
  { container := launched.application.specification.container }

structure State where
  plan : Plan
  stage : Stage := .ready
  cancelled : Option Canceller := none
  interrupted : Bool := false
  watcher : Watcher := .listening
  pause : Option Call := none
  launched : List Launched := []
  /-- The run has noticed its cancellation while it supervised the applications. -/
  cancelling : Bool := false
  firstError : Option RunError := none
  cleaners : List Cleaner := []
  pauseCleaner : Cleaner
  history : List Occurrence := []
deriving Repr

/-- What can happen next in a run. -/
inductive Event where
  | begin
  /-- The task of a container calls the engine. -/
  | call (target : Target)
  /-- The engine's call for a container returns. -/
  | callReturns (target : Target) (result : Except EngineError Unit)
  | poll
  | pollAnswers (answer : Except EngineError Bool)
  /-- The time between two polls is over. -/
  | pollAgain
  /-- The run is cancelled while the time between two polls passes. -/
  | stopPolling
  | launch
  /-- The run notices that a container's call has returned. -/
  | notice (target : Target)
  | noticeCancellation
  /-- The run notices that all applications have ended. -/
  | noticeAllEnded
  /-- The call of the pause container has returned, which was all that was waited for. -/
  | drained
  /-- The watcher is ended and cleanup begins. -/
  | close
  | stop (target : Target)
  | stopAnswers (target : Target) (result : Except EngineError Unit)
  | remove (target : Target)
  | removeAnswers (target : Target) (result : Except EngineError Unit)
  | finish
  /-- The watcher receives an interrupt and records it. -/
  | interrupt
  /-- The watcher cancels the run after an interrupt. -/
  | cancel
  /-- The watcher notices that the run was cancelled. -/
  | retire
deriving Repr

def faultOf {α : Type} : Except EngineError α → Option EngineError
  | .ok _ => none
  | .error fault => some fault

/-- The error that the end of the pause container means: it only ends when something is wrong. -/
def pauseEnded : Except EngineError Unit → RunError
  | .ok () => .pause (.exitStatus (some 0))
  | .error fault => .pause fault

namespace State

/-- The state of a run of the given plan before anything has happened. -/
def initial (plan : Plan) : State where
  plan := plan
  pauseCleaner := { container := plan.identity.pauseName }

/-- Adds to what an observer sees. -/
def record (state : State) (occurrences : List Occurrence) : State :=
  { state with history := state.history ++ occurrences }

/-- Cancels the run; who cancelled it first is kept. -/
def cancelBy (state : State) (canceller : Canceller) : State :=
  { state with cancelled := state.cancelled.or (some canceller) }

/-- What is reported of an error: nothing if shutdown alone explains it. -/
def reported (state : State) (fault : RunError) : Option RunError :=
  if fault.isCancellation || state.interrupted then none else some fault

/-- The call that runs a container. -/
def call? (state : State) : Target → Option Call
  | .pause => state.pause
  | .application index => (state.launched[index]?).map Launched.call

def withCall (state : State) (target : Target) (call : Call) : State :=
  { state with
    pause :=
      match target with
      | .pause => some call
      | .application _ => state.pause
    launched :=
      match target with
      | .pause => state.launched
      | .application index =>
          state.launched.modify index fun launched => { launched with call } }

/-- The name of a container at the engine. -/
def containerOf (state : State) : Target → String
  | .pause => state.plan.identity.pauseName
  | .application index =>
      ((state.launched[index]?).map fun launched =>
        launched.application.specification.container).getD ""

/-- What the engine is handed with the call that runs a container. -/
def specification? (state : State) : Target → Option Container.Specification
  | .pause => some state.plan.pause
  | .application index =>
      (state.launched[index]?).map fun launched => launched.application.specification

/-- Start-up has failed: the run is cancelled and the pause container's call waited for. -/
def abandon (state : State) (fault : RunError) : State :=
  { state.cancelBy .run with stage := .abandoning fault }.record [.noticed fault]

/-- Goes on with the applications that are still to be started. -/
def proceed (state : State) (rest : List Application) : State :=
  { state with stage := .startingWith rest }.record
    (if rest.isEmpty then [.published .running] else [])

/-- The pause container is confirmed: the applications can be started. -/
def confirm (state : State) : State :=
  (state.record [.confirmed, .published .pauseConfirmed, .published .applicationsStarting]).proceed
    state.plan.applications

/-- An error was noticed while the applications were supervised. -/
def fail (state : State) (fault : RunError) : State :=
  { state.cancelBy .run with
    firstError := state.firstError.or (state.reported fault) }.record [.noticed fault]

/-- The cleanup of a container that was started. -/
def cleaner? (state : State) : Target → Option Cleaner
  | .pause => some state.pauseCleaner
  | .application index => state.cleaners[index]?

def withCleaner (state : State) (target : Target) (cleaner : Cleaner) : State :=
  { state with
    cleaners :=
      match target with
      | .pause => state.cleaners
      | .application index => state.cleaners.set index cleaner
    pauseCleaner :=
      match target with
      | .pause => cleaner
      | .application _ => state.pauseCleaner }

/-- Whether the cleanup of a container may begin: that of the pause container comes last. -/
def mayClean (state : State) : Target → Bool
  | .pause => state.cleaners.all fun cleaner => cleaner.stage = .cleaned
  | .application _ => true

/--
The failed cleanup steps: those of the applications in order, then those of the pause container.
-/
def cleanupFailures (state : State) : List CleanupFailure :=
  state.cleaners.flatMap Cleaner.failures ++ state.pauseCleaner.failures

end State

/-- The failure that a cleanup step adds, if it failed. -/
def stepFailures (container : String) (step : CleanupStep) :
    Except EngineError Unit → List CleanupFailure
  | .ok () => []
  | .error cause => [{ container, step, cause }]

open State in
/-- One step of a run; `none` if the event cannot happen in the state. -/
def step (state : State) (event : Event) : Option State :=
  match event, state.stage with
  | .begin, .ready =>
      some ({ state with stage := .pollDue, pause := some .due }.record
        [.published .pauseStarting])
  | .call target, _ =>
      match state.call? target with
      | some .due =>
          some ((state.withCall target .running).record [.called .run (state.containerOf target)])
      | _ => none
  | .callReturns target result, _ =>
      match state.call? target with
      | some .running =>
          some ((state.withCall target (.returned result)).record
            [.answered .run (state.containerOf target) (faultOf result)])
      | _ => none
  | .poll, .pollDue =>
      some ({ state with stage := .polling }.record
        [.called .isRunning state.plan.identity.pauseName])
  | .pollAnswers answer, .polling =>
      let answered := state.record
        [.answered .isRunning state.plan.identity.pauseName (faultOf answer)]
      match answer with
      | .ok true => some answered.confirm
      | .ok false => some { answered with stage := .waiting }
      | .error (.noSuchContainer _) => some { answered with stage := .waiting }
      | .error fault => some (answered.abandon (.pause fault))
  | .pollAgain, .waiting => some { state with stage := .pollDue }
  | .stopPolling, .waiting =>
      if state.cancelled.isSome then some (state.abandon .cancelled) else none
  | .launch, .launching next rest =>
      some (({ state with launched := state.launched ++ [Launched.mk next .due] }.record
        [.launched next.specification.container]).proceed rest)
  | .notice .pause, stage =>
      match state.pause with
      | some (.returned result) =>
          let noticed := state.withCall .pause .noticed
          match stage with
          | .pollDue => some (noticed.abandon (pauseEnded result))
          | .polling => some (noticed.abandon (pauseEnded result))
          | .waiting => some (noticed.abandon (pauseEnded result))
          | .supervising => some (noticed.fail (pauseEnded result))
          | _ => none
      | _ => none
  | .notice (.application index), .supervising =>
      match state.launched[index]? with
      | some ⟨application, .returned result⟩ =>
          let noticed := state.withCall (.application index) .noticed
          match result with
          | .ok () => some (noticed.record [.ended application.name])
          | .error fault => some (noticed.fail (.container application.name fault))
      | _ => none
  | .noticeCancellation, .supervising =>
      if state.cancelled.isSome && !state.cancelling then
        some ({ state with cancelling := true }.record [.published .cancelling])
      else none
  | .noticeAllEnded, .supervising =>
      if state.launched.all fun launched => launched.call.wasNoticed then
        some ({ state.cancelBy .run with stage := .draining }.record
          (if state.cancelling then [] else [.published .completed]))
      else none
  | .drained, .abandoning fault =>
      if state.pause.all Call.hasReturned then
        some { state with stage := .closing (state.reported fault) }
      else none
  | .drained, .draining =>
      if state.pause.all Call.hasReturned then
        some { state with stage := .closing state.firstError }
      else none
  | .close, .closing result =>
      if state.watcher = .interrupting then none
      else
        some ({ state.cancelBy .run with
          stage := .cleaning result
          watcher := .ended
          cleaners := state.launched.map Launched.cleaner }.record
          [.published .cleaningUp])
  | .stop target, .cleaning _ =>
      match state.cleaner? target with
      | some cleaner =>
          if cleaner.stage = .stopDue && state.mayClean target then
            some ((state.withCleaner target { cleaner with stage := .stopping }).record
              [.announced (.stopBegin cleaner.container), .called .stop cleaner.container])
          else none
      | none => none
  | .stopAnswers target result, .cleaning _ =>
      match state.cleaner? target with
      | some cleaner =>
          if cleaner.stage = .stopping then
            some ((state.withCleaner target { cleaner with
                stage := .removeDue
                failures := cleaner.failures ++
                  stepFailures cleaner.container .stop result }).record
              (.answered .stop cleaner.container (faultOf result) ::
                (faultOf result).toList.map fun fault =>
                  .announced (.stopFailed cleaner.container fault.message)))
          else none
      | none => none
  | .remove target, .cleaning _ =>
      match state.cleaner? target with
      | some cleaner =>
          if cleaner.stage = .removeDue then
            some ((state.withCleaner target { cleaner with stage := .removing }).record
              [.announced (.removeBegin cleaner.container), .called .remove cleaner.container])
          else none
      | none => none
  | .removeAnswers target result, .cleaning _ =>
      match state.cleaner? target with
      | some cleaner =>
          if cleaner.stage = .removing then
            let failures :=
              cleaner.failures ++ stepFailures cleaner.container .remove result
            some ((state.withCleaner target { cleaner with stage := .cleaned, failures }).record
              (.answered .remove cleaner.container (faultOf result) ::
                ((faultOf result).toList.map fun fault =>
                  .announced (.removeFailed cleaner.container fault.message)) ++
                [.announced (.cleaned cleaner.container failures.isEmpty)]))
          else none
      | none => none
  | .finish, .cleaning result =>
      if state.pauseCleaner.stage = .cleaned then
        some ({ state with
          stage := .finished (RunError.combine result state.cleanupFailures) }.record
          [.published .done])
      else none
  | .interrupt, _ =>
      if state.watcher = .listening then
        some ({ state with watcher := .interrupting, interrupted := true }.record [.interrupted])
      else none
  | .cancel, _ =>
      if state.watcher = .interrupting then
        some { state.cancelBy .operator with watcher := .ended }
      else none
  | .retire, _ =>
      if state.watcher = .listening && state.cancelled.isSome then
        some { state with watcher := .ended }
      else none
  | _, _ => none

namespace State

/-- The phases published so far, in order. -/
def phases (state : State) : List Phase :=
  state.history.filterMap fun
    | .published phase => some phase
    | _ => none

/-- The events announced so far, in order. -/
def announcements (state : State) : List Cleanup.Event :=
  state.history.filterMap fun
    | .announced event => some event
    | _ => none

/-- The result of a finished run: its error, if there is one. -/
def result? (state : State) : Option (Option RunError) :=
  match state.stage with
  | .finished result => some result
  | _ => none

end State

end Workload.Run
