import Workload.Run.Machine

/-!
# The transitions of a run

`step` decides which events are possible in a state. `Transition` says the same as a relation with
one rule for each way in which an event can happen, so that what a run keeps is shown rule by rule
and the step function is opened only here.

The cleanup of a container goes through the same four rules whatever the container is. They stand
in `Cleaner.Advance`, and a run has a single rule for all of them.
-/

namespace Workload.Run

namespace Cleaner

/-- What the next event of a container's cleanup makes of it, and what an observer sees of that. -/
inductive Advance (target : Target) (cleaner : Cleaner) :
    Event → Cleaner → List Occurrence → Prop where
  | stop (due : cleaner.stage = .stopDue) :
      Advance target cleaner (.stop target) { cleaner with stage := .stopping }
        [.announced (.stopBegin cleaner.container), .called .stop cleaner.container]
  | stopAnswers (result : Except EngineError Unit) (stopping : cleaner.stage = .stopping) :
      Advance target cleaner (.stopAnswers target result)
        { cleaner with
          stage := .removeDue
          failures := cleaner.failures ++ stepFailures cleaner.container .stop result }
        (.answered .stop cleaner.container (faultOf result) ::
          (faultOf result).toList.map fun fault =>
            .announced (.stopFailed cleaner.container fault.message))
  | remove (due : cleaner.stage = .removeDue) :
      Advance target cleaner (.remove target) { cleaner with stage := .removing }
        [.announced (.removeBegin cleaner.container), .called .remove cleaner.container]
  | removeAnswers (result : Except EngineError Unit) (removing : cleaner.stage = .removing) :
      Advance target cleaner (.removeAnswers target result)
        { cleaner with
          stage := .cleaned
          failures := cleaner.failures ++ stepFailures cleaner.container .remove result }
        (.answered .remove cleaner.container (faultOf result) ::
          ((faultOf result).toList.map fun fault =>
            .announced (.removeFailed cleaner.container fault.message)) ++
          [.announced (.cleaned cleaner.container
            (cleaner.failures ++ stepFailures cleaner.container .remove result).isEmpty)])

variable {target : Target} {cleaner after : Cleaner} {event : Event}
  {occurrences : List Occurrence}

theorem Advance.container_eq (advance : Advance target cleaner event after occurrences) :
    after.container = cleaner.container := by
  cases advance <;> rfl

theorem Advance.not_cleaned (advance : Advance target cleaner event after occurrences) :
    cleaner.stage ≠ .cleaned := by
  cases advance <;> simp_all

end Cleaner

/-- The run still waits for the pause container to be confirmed. -/
def Stage.isStartup : Stage → Bool
  | .pollDue => true
  | .polling => true
  | .waiting => true
  | _ => false

/-- An answer that leaves open whether the pause container will run. -/
def isInconclusive : Except EngineError Bool → Bool
  | .ok running => !running
  | .error (.noSuchContainer _) => true
  | .error _ => false

/-- What one event makes of a run, with one rule for each way in which it can happen. -/
inductive Transition (state : State) : Event → State → Prop where
  | begin (ready : state.stage = .ready) :
      Transition state .begin
        ({ state with stage := .pollDue, pause := some .due }.record [.published .pauseStarting])
  | call (target : Target) (due : state.call? target = some .due) :
      Transition state (.call target)
        ((state.withCall target .running).record [.called .run (state.containerOf target)])
  | callReturns (target : Target) (result : Except EngineError Unit)
      (running : state.call? target = some .running) :
      Transition state (.callReturns target result)
        ((state.withCall target (.returned result)).record
          [.answered .run (state.containerOf target) (faultOf result)])
  | poll (due : state.stage = .pollDue) :
      Transition state .poll
        ({ state with stage := .polling }.record
          [.called .isRunning state.plan.identity.pauseName])
  | confirmed (polling : state.stage = .polling) :
      Transition state (.pollAnswers (.ok true))
        (state.record [.answered .isRunning state.plan.identity.pauseName none]).confirm
  | inconclusive (answer : Except EngineError Bool) (unclear : isInconclusive answer = true)
      (polling : state.stage = .polling) :
      Transition state (.pollAnswers answer)
        { state.record [.answered .isRunning state.plan.identity.pauseName (faultOf answer)] with
          stage := .waiting }
  | pollFails (fault : EngineError)
      (conclusive : isInconclusive (.error fault) = false)
      (polling : state.stage = .polling) :
      Transition state (.pollAnswers (.error fault))
        ((state.record
          [.answered .isRunning state.plan.identity.pauseName (some fault)]).abandon
            (.pause fault))
  | pollAgain (waiting : state.stage = .waiting) :
      Transition state .pollAgain { state with stage := .pollDue }
  | stopPolling (waiting : state.stage = .waiting) (cancelled : state.cancelled.isSome) :
      Transition state .stopPolling (state.abandon .cancelled)
  | launch (next : Application) (rest : List Application)
      (launching : state.stage = .launching next rest) :
      Transition state .launch
        (({ state with launched := state.launched ++ [Launched.mk next .due] }.record
          [.launched next.specification.container]).proceed rest)
  | pauseEndsEarly (result : Except EngineError Unit)
      (returned : state.pause = some (.returned result)) (startup : state.stage.isStartup) :
      Transition state (.notice .pause)
        ((state.withCall .pause .noticed).abandon (pauseEnded result))
  | pauseEnds (result : Except EngineError Unit)
      (returned : state.pause = some (.returned result))
      (supervising : state.stage = .supervising) :
      Transition state (.notice .pause)
        ((state.withCall .pause .noticed).fail (pauseEnded result))
  | applicationEnds (index : Nat) (application : Application)
      (returned : state.launched[index]? = some ⟨application, .returned (.ok ())⟩)
      (supervising : state.stage = .supervising) :
      Transition state (.notice (.application index))
        ((state.withCall (.application index) .noticed).record [.ended application.name])
  | applicationFails (index : Nat) (application : Application) (fault : EngineError)
      (returned : state.launched[index]? = some ⟨application, .returned (.error fault)⟩)
      (supervising : state.stage = .supervising) :
      Transition state (.notice (.application index))
        ((state.withCall (.application index) .noticed).fail (.container application.name fault))
  | noticeCancellation (supervising : state.stage = .supervising)
      (cancelled : state.cancelled.isSome) (first : state.cancelling = false) :
      Transition state .noticeCancellation
        ({ state with cancelling := true }.record [.published .cancelling])
  | noticeAllEnded (supervising : state.stage = .supervising)
      (ended : state.launched.all fun launched => launched.call.wasNoticed) :
      Transition state .noticeAllEnded
        ({ state.cancelBy .run with stage := .draining }.record
          (if state.cancelling then [] else [.published .completed]))
  | abandoned (fault : RunError) (abandoning : state.stage = .abandoning fault)
      (returned : state.pause.all Call.hasReturned) :
      Transition state .drained { state with stage := .closing (state.reported fault) }
  | drained (draining : state.stage = .draining) (returned : state.pause.all Call.hasReturned) :
      Transition state .drained { state with stage := .closing state.firstError }
  | close (result : Option RunError) (closing : state.stage = .closing result)
      (settled : state.watcher ≠ .interrupting) :
      Transition state .close
        ({ state.cancelBy .run with
          stage := .cleaning result
          watcher := .ended
          cleaners := state.launched.map Launched.cleaner }.record [.published .cleaningUp])
  | clean (target : Target) (result : Option RunError) (cleaner after : Cleaner) (event : Event)
      (occurrences : List Occurrence) (cleaning : state.stage = .cleaning result)
      (current : state.cleaner? target = some cleaner)
      (allowed : cleaner.stage = .stopDue → state.mayClean target)
      (advance : cleaner.Advance target event after occurrences) :
      Transition state event ((state.withCleaner target after).record occurrences)
  | finish (result : Option RunError) (cleaning : state.stage = .cleaning result)
      (cleaned : state.pauseCleaner.stage = .cleaned) :
      Transition state .finish
        ({ state with
          stage := .finished (RunError.combine result state.cleanupFailures) }.record
          [.published .done])
  | interrupt (listening : state.watcher = .listening) :
      Transition state .interrupt
        ({ state with watcher := .interrupting, interrupted := true }.record [.interrupted])
  | cancel (interrupting : state.watcher = .interrupting) :
      Transition state .cancel { state.cancelBy .operator with watcher := .ended }
  | retire (listening : state.watcher = .listening) (cancelled : state.cancelled.isSome) :
      Transition state .retire { state with watcher := .ended }

/-- Every step of a run follows one of the rules. -/
theorem transition_of_step {state next : State} {event : Event}
    (taken : step state event = some next) : Transition state event next := by
  unfold step at taken
  split at taken
  case h_1 ready =>
    cases taken
    exact .begin ready
  case h_2 target =>
    split at taken
    · rename_i due
      cases taken
      exact .call target due
    · cases taken
  case h_3 target result =>
    split at taken
    · rename_i running
      cases taken
      exact .callReturns target result running
    · cases taken
  case h_4 due =>
    cases taken
    exact .poll due
  case h_5 answer polling =>
    split at taken <;> cases taken
    · exact .confirmed polling
    · exact .inconclusive _ rfl polling
    · exact .inconclusive _ rfl polling
    · rename_i fault other
      refine .pollFails fault ?_ polling
      cases fault <;> simp_all [isInconclusive]
  case h_6 waiting =>
    cases taken
    exact .pollAgain waiting
  case h_7 waiting =>
    split at taken
    · rename_i cancelled
      cases taken
      exact .stopPolling waiting cancelled
    · cases taken
  case h_8 application rest launching =>
    cases taken
    exact .launch application rest launching
  case h_9 =>
    split at taken
    · rename_i result returned
      dsimp only at taken
      split at taken
      · rename_i pollDue
        cases taken
        exact .pauseEndsEarly result returned (by simp [pollDue, Stage.isStartup])
      · rename_i polling
        cases taken
        exact .pauseEndsEarly result returned (by simp [polling, Stage.isStartup])
      · rename_i waiting
        cases taken
        exact .pauseEndsEarly result returned (by simp [waiting, Stage.isStartup])
      · rename_i supervising
        cases taken
        exact .pauseEnds result returned supervising
      · cases taken
    · cases taken
  case h_10 index supervising =>
    split at taken
    · rename_i application result returned
      dsimp only at taken
      split at taken <;> cases taken
      · exact .applicationEnds index application returned supervising
      · exact .applicationFails index application _ returned supervising
    · cases taken
  case h_11 supervising =>
    split at taken
    · rename_i unseen
      simp only [Bool.and_eq_true, Bool.not_eq_true'] at unseen
      cases taken
      exact .noticeCancellation supervising unseen.1 unseen.2
    · cases taken
  case h_12 supervising =>
    split at taken
    · rename_i ended
      cases taken
      exact .noticeAllEnded supervising ended
    · cases taken
  case h_13 fault abandoning =>
    split at taken
    · rename_i returned
      cases taken
      exact .abandoned fault abandoning returned
    · cases taken
  case h_14 draining =>
    split at taken
    · rename_i returned
      cases taken
      exact .drained draining returned
    · cases taken
  case h_15 result closing =>
    split at taken
    · cases taken
    · rename_i settled
      cases taken
      exact .close result closing settled
  case h_16 target result cleaning =>
    split at taken
    · rename_i cleaner current
      split at taken
      · rename_i ready
        simp only [Bool.and_eq_true, decide_eq_true_eq] at ready
        cases taken
        exact .clean target result cleaner _ _ _ cleaning current (fun _ => ready.2)
          (.stop ready.1)
      · cases taken
    · cases taken
  case h_17 target answer result cleaning =>
    split at taken
    · rename_i cleaner current
      split at taken
      · rename_i stopping
        cases taken
        exact .clean target result cleaner _ _ _ cleaning current (by simp [stopping])
          (.stopAnswers answer stopping)
      · cases taken
    · cases taken
  case h_18 target result cleaning =>
    split at taken
    · rename_i cleaner current
      split at taken
      · rename_i due
        cases taken
        exact .clean target result cleaner _ _ _ cleaning current (by simp [due]) (.remove due)
      · cases taken
    · cases taken
  case h_19 target answer result cleaning =>
    split at taken
    · rename_i cleaner current
      split at taken
      · rename_i removing
        cases taken
        exact .clean target result cleaner _ _ _ cleaning current (by simp [removing])
          (.removeAnswers answer removing)
      · cases taken
    · cases taken
  case h_20 result cleaning =>
    split at taken
    · rename_i cleaned
      cases taken
      exact .finish result cleaning cleaned
    · cases taken
  case h_21 =>
    split at taken
    · rename_i listening
      cases taken
      exact .interrupt listening
    · cases taken
  case h_22 =>
    split at taken
    · rename_i interrupting
      cases taken
      exact .cancel interrupting
    · cases taken
  case h_23 =>
    split at taken
    · rename_i ready
      simp only [Bool.and_eq_true, decide_eq_true_eq] at ready
      cases taken
      exact .retire ready.1 ready.2
    · cases taken
  case h_24 => cases taken

/-- Every rule can be followed by a step. -/
theorem step_of_transition {state next : State} {event : Event}
    (transition : Transition state event next) : step state event = some next := by
  cases transition with
  | inconclusive answer unclear polling =>
      cases answer with
      | ok running => cases running <;> simp_all [step, isInconclusive]
      | error fault => cases fault <;> simp_all [step, isInconclusive]
  | pollFails fault conclusive polling => cases fault <;> simp_all [step, isInconclusive, faultOf]
  | pauseEndsEarly result returned startup =>
      cases stage : state.stage <;> simp_all [step, Stage.isStartup]
  | clean target result cleaner after event occurrences cleaning current allowed advance =>
      cases advance <;> simp_all [step]
  | _ => simp_all [step, faultOf]

end Workload.Run
