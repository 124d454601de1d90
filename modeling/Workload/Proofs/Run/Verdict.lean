import Workload.Proofs.Run.Order

/-!
# What a run reports of itself

An error is judged when the run looks whether the operator has interrupted it: an error of the
supervised containers when it is noticed, an error of start-up once the call of the pause container
is over. The first error that is judged and not put down to the shutdown is the verdict, and stays
it until the end.
-/

namespace Workload

namespace RunError

/-- The error sums up a run and its cleanup. -/
def isAggregate : RunError → Bool
  | .aggregate _ _ => true
  | _ => false

/-- The part of a result that is about the run and not about its cleanup. -/
def runPart : Option RunError → Option RunError
  | some (.aggregate run _) => run
  | result => result

theorem runPart_combine {run : Option RunError}
    (single : ∀ fault, run = some fault → fault.isAggregate = false)
    (failures : List CleanupFailure) : runPart (combine run failures) = run := by
  simp only [combine]
  split
  · cases run with
    | none => rfl
    | some fault =>
        have plain := single fault rfl
        cases fault <;> simp_all [runPart, isAggregate]
  · rfl

end RunError

end Workload

namespace Workload.Run

theorem pauseEnded_isAggregate (result : Except EngineError Unit) :
    (pauseEnded result).isAggregate = false := by
  cases result <;> rfl

namespace State

/-- The error that a run judges with an event. -/
def judged? (state : State) : Event → Option RunError
  | .notice .pause =>
      match state.stage, state.pause with
      | .supervising, some (.returned result) => some (pauseEnded result)
      | _, _ => none
  | .notice (.application index) =>
      match state.launched[index]? with
      | some ⟨application, .returned (.error fault)⟩ => some (.container application.name fault)
      | _ => none
  | .drained =>
      match state.stage with
      | .abandoning fault => some fault
      | _ => none
  | _ => none

/-- What is reported of the run itself as things stand. -/
def verdict (state : State) : Option RunError :=
  match state.stage with
  | .closing result => result
  | .cleaning result => result
  | .finished result => RunError.runPart result
  | _ => state.firstError

/-- The verdict is an error of its own, and no consequence of a shutdown. -/
structure Judging (state : State) : Prop where
  unjudged : state.stage.isBeforeLaunch → state.firstError = none
  abandoned : ∀ fault, state.stage = .abandoning fault → fault.isAggregate = false
  single : ∀ fault, state.verdict = some fault → fault.isAggregate = false
  genuine : ∀ fault, state.verdict = some fault → fault.isCancellation = false

/-- The operator has interrupted the run if it is cancelled and has not cancelled itself. -/
structure Watched (state : State) : Prop where
  listening : state.watcher = .listening → state.interrupted = false
  interrupting : state.watcher = .interrupting → state.interrupted = true
  operator : state.cancelled = some .operator → state.interrupted = true

variable {state next : State} {event : Event}

theorem interrupted_of_transition (transition : Transition state event next) :
    next.interrupted = true ↔ state.interrupted = true ∨ event = .interrupt := by
  cases transition with
  | clean target result cleaner after event occurrences cleaning current allowed advance =>
      cases advance <;> simp [record, withCleaner]
  | _ => simp [record, abandon, fail, confirm, proceed, withCall, cancelBy]

theorem getD_run_eq_operator {cancelled : Option Canceller} :
    cancelled.getD .run = .operator ↔ cancelled = some .operator := by
  cases cancelled <;> simp

theorem Watched.step (watched : state.Watched) (transition : Transition state event next) :
    next.Watched := by
  rcases watched with ⟨listening, interrupting, operator⟩
  cases transition with
  | confirmed polling => exact ⟨listening, interrupting, operator⟩
  | launch application rest launching => exact ⟨listening, interrupting, operator⟩
  | clean target result cleaner after event occurrences cleaning current allowed advance =>
      exact ⟨listening, interrupting, operator⟩
  | _ =>
      constructor <;>
        simp_all [record, abandon, fail, withCall, cancelBy, getD_run_eq_operator]

theorem reported_of_interrupted (interrupted : state.interrupted = true) (fault : RunError) :
    state.reported fault = none := by
  simp [reported, interrupted]

theorem reported_of_uninterrupted (uninterrupted : state.interrupted = false) (fault : RunError) :
    state.reported fault = if fault.isCancellation then none else some fault := by
  simp [reported, uninterrupted]

theorem judged?_isAggregate (judging : state.Judging) {fault : RunError}
    (judged : state.judged? event = some fault) : fault.isAggregate = false := by
  unfold judged? at judged
  split at judged
  · split at judged
    · cases judged
      exact pauseEnded_isAggregate _
    · cases judged
  · split at judged
    · cases judged
      rfl
    · cases judged
  · split at judged
    · rename_i abandoning
      cases judged
      exact judging.abandoned _ abandoning
    · cases judged
  · cases judged

theorem judged?_of_advance {target : Target} {cleaner after : Cleaner}
    {occurrences : List Occurrence}
    (advance : cleaner.Advance target event after occurrences) : state.judged? event = none := by
  cases advance <;> rfl

theorem judged?_of_isStartup (startup : state.stage.isStartup) :
    state.judged? (.notice .pause) = none := by
  cases stage : state.stage <;> simp_all [Stage.isStartup, judged?]

theorem verdict_startingWith {rest : List Application} (stage : state.stage = .startingWith rest) :
    state.verdict = state.firstError := by
  cases rest <;> simp [verdict, stage, Stage.startingWith]

theorem runPart_eq_verdict {result : Option RunError} (finished : state.result? = some result) :
    RunError.runPart result = state.verdict := by
  simp [verdict, result?_eq_some.mp finished]

/-- Each event adds the error that it makes the run judge, unless there is a verdict. -/
theorem verdict_of_transition (judging : state.Judging)
    (transition : Transition state event next) :
    next.verdict = state.verdict.or ((state.judged? event).bind state.reported) := by
  cases transition with
  | confirmed polling =>
      rw [verdict_startingWith rfl]
      simp [verdict, polling, judged?, confirm, proceed, record]
  | launch application rest launching =>
      rw [verdict_startingWith rfl]
      simp [verdict, launching, judged?, proceed, record]
  | pauseEndsEarly result returned startup =>
      rw [judged?_of_isStartup startup, Option.bind_none, Option.or_none]
      cases stage : state.stage <;> simp_all [verdict, Stage.isStartup] <;> rfl
  | pauseEnds result returned supervising =>
      simp only [verdict, judged?, supervising, returned, fail, record, cancelBy, withCall,
        Option.bind_some]
      rfl
  | applicationEnds index application returned supervising =>
      simp [verdict, judged?, supervising, returned, record, withCall]
  | applicationFails index application fault returned supervising =>
      simp only [verdict, judged?, supervising, returned, fail, record, cancelBy, withCall,
        Option.bind_some]
      rfl
  | abandoned fault abandoning returned =>
      have none := judging.unjudged (by simp [abandoning, Stage.isBeforeLaunch])
      simp [verdict, judged?, abandoning, none]
  | clean target result cleaner after event occurrences cleaning current allowed advance =>
      rw [judged?_of_advance advance, Option.bind_none, Option.or_none]
      rfl
  | finish result cleaning cleaned =>
      have single := judging.single
      simp only [verdict, cleaning] at single
      simp [verdict, cleaning, judged?, record, RunError.runPart_combine single]
  | _ =>
      simp_all [verdict, judged?, record, abandon, withCall, cancelBy]

theorem beforeLaunch_of_transition (transition : Transition state event next)
    (before : next.stage.isBeforeLaunch) :
    state.stage.isBeforeLaunch ∧ next.firstError = state.firstError := by
  cases transition with
  | pauseEndsEarly result returned startup =>
      exact ⟨Stage.isBeforeLaunch_of_isStartup startup, rfl⟩
  | launch application rest launching => simp [proceed, record] at before
  | _ =>
      simp_all [Stage.isBeforeLaunch, record, abandon, fail, confirm, proceed, cancelBy, withCall,
        withCleaner]

theorem abandoning_of_transition (transition : Transition state event next) {fault : RunError}
    (abandoning : next.stage = .abandoning fault) :
    state.stage = .abandoning fault ∨ fault.isAggregate = false := by
  cases transition with
  | pollFails cause conclusive polling =>
      right
      cases abandoning
      rfl
  | stopPolling waiting cancelled =>
      right
      cases abandoning
      rfl
  | pauseEndsEarly result returned startup =>
      right
      cases abandoning
      exact pauseEnded_isAggregate result
  | _ =>
      simp_all [record, fail, confirm, proceed, cancelBy, withCall, withCleaner]

namespace Judging

theorem step (judging : state.Judging) (transition : Transition state event next) :
    next.Judging := by
  have verdict := verdict_of_transition judging transition
  have single : ∀ fault, next.verdict = some fault →
      fault.isAggregate = false ∧ fault.isCancellation = false := by
    intro fault reported
    rw [verdict, Option.or_eq_some_iff] at reported
    rcases reported with earlier | ⟨_, now⟩
    · exact ⟨judging.single fault earlier, judging.genuine fault earlier⟩
    · rcases Option.bind_eq_some_iff.mp now with ⟨judged, found, reported⟩
      simp only [State.reported, Bool.or_eq_true] at reported
      split at reported
      · cases reported
      · rename_i genuine
        cases reported
        exact ⟨judged?_isAggregate judging found, by simp_all⟩
  refine ⟨?_, ?_, fun fault reported => (single fault reported).1,
    fun fault reported => (single fault reported).2⟩
  · intro before
    rcases beforeLaunch_of_transition transition before with ⟨earlier, same⟩
    rw [same]
    exact judging.unjudged earlier
  · intro fault abandoning
    rcases abandoning_of_transition transition abandoning with earlier | plain
    · exact judging.abandoned fault earlier
    · exact plain

end Judging

theorem judging_initial (plan : Plan) : Judging (.initial plan) := by
  constructor <;> simp [initial, verdict]

end State

namespace Reaches

variable {plan : Plan} {events : List Event} {state : State}

theorem judging (path : Reaches plan events state) : state.Judging :=
  path.invariant State.Judging (State.judging_initial plan)
    fun _ _ _ _ _ holds transition => holds.step transition

theorem watched (path : Reaches plan events state) : state.Watched := by
  apply path.invariant State.Watched
  · constructor <;> simp [State.initial]
  · intro events state event next _ watched transition
    exact watched.step transition

theorem interrupted_iff (path : Reaches plan events state) :
    state.interrupted = true ↔ .interrupt ∈ events := by
  apply path.induction fun events state => state.interrupted = true ↔ .interrupt ∈ events
  · simp [State.initial]
  · intro events state event next _ same transition
    rw [State.interrupted_of_transition transition, same]
    simp [eq_comm]

end Reaches

end Workload.Run
