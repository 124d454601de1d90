import Workload.Proofs.Run.Containers
import Workload.Proofs.Run.Verdict

/-!
# The first failure is reported

A run without an interrupt reports the first failure that it observes, and nothing if it observes
none. After the first failure the run cancels the other containers, so their calls may return as
cancelled, in any order and mixed with further failures; none of that changes what is reported. A
poll that fails as cancelled is no failure, although start-up ends with it.
-/

namespace Workload

/-- The error, unless it is a consequence of the shutdown. -/
def RunError.genuine? (fault : RunError) : Option RunError :=
  if fault.isCancellation then none else some fault

end Workload

namespace Workload.Run

namespace State

/-- The failure that a run observes with an event. -/
def failure? (state : State) : Event → Option RunError
  | .notice .pause =>
      match state.pause with
      | some (.returned result) => some (pauseEnded result)
      | _ => none
  | .notice (.application index) =>
      match state.launched[index]? with
      | some ⟨application, .returned (.error fault)⟩ => some (.container application.name fault)
      | _ => none
  | .pollAnswers (.error fault) =>
      if isInconclusive (.error fault) || fault = .cancelled then none else some (.pause fault)
  | _ => none

/-- What a run reports of itself as things stand if it is not interrupted. -/
def provisional (state : State) : Option RunError :=
  match state.stage with
  | .abandoning fault => fault.genuine?
  | _ => state.verdict

variable {state : State}

theorem provisional_startingWith {rest : List Application}
    (stage : state.stage = .startingWith rest) : state.provisional = state.firstError := by
  rw [← verdict_startingWith stage]
  cases rest <;> simp [provisional, stage, Stage.startingWith]

theorem provisional_of_isStartup (judging : state.Judging) (startup : state.stage.isStartup) :
    state.provisional = none := by
  have none := judging.unjudged (Stage.isBeforeLaunch_of_isStartup startup)
  cases stage : state.stage <;> simp_all [provisional, verdict, Stage.isStartup]

theorem provisional_abandon (state : State) (fault : RunError) :
    (state.abandon fault).provisional = fault.genuine? :=
  rfl

theorem provisional_fail (supervising : state.stage = .supervising)
    (calm : state.interrupted = false) (fault : RunError) :
    (state.fail fault).provisional = state.provisional.or fault.genuine? := by
  simp [provisional, verdict, fail, record, cancelBy, supervising, reported, calm,
    RunError.genuine?]

theorem provisional_of_finished {result : Option RunError}
    (finished : state.result? = some result) : state.provisional = state.verdict := by
  simp [provisional, result?_eq_some.mp finished]

theorem Started.noticed_of_finished (started : state.Started) {result : Option RunError}
    (finished : state.result? = some result) :
    ∀ launched ∈ state.launched, launched.call.wasNoticed := by
  apply started.noticed
  simp [result?_eq_some.mp finished, Stage.isEnding]

theorem failure?_of_isInconclusive {answer : Except EngineError Bool}
    (unclear : isInconclusive answer = true) : state.failure? (.pollAnswers answer) = none := by
  cases answer <;> simp [failure?, unclear]

theorem failure?_pause {result : Except EngineError Unit}
    (returned : state.pause = some (.returned result)) :
    state.failure? (.notice .pause) = some (pauseEnded result) := by
  rw [failure?, returned]

theorem failure?_application {index : Nat} {application : Application} {fault : EngineError}
    (returned : state.launched[index]? = some ⟨application, .returned (.error fault)⟩) :
    state.failure? (.notice (.application index)) = some (.container application.name fault) := by
  rw [failure?, returned]

/-- Each event adds the failure that is observed with it, unless there is one already. -/
theorem provisional_of_transition {next : State} {event : Event} (judging : state.Judging)
    (calm : state.interrupted = false) (transition : Transition state event next) :
    next.provisional =
      state.provisional.or ((state.failure? event).bind RunError.genuine?) := by
  cases transition with
  | confirmed polling =>
      rw [provisional_startingWith rfl]
      simp [provisional, verdict, polling, failure?, confirm, proceed, record]
  | launch application rest launching =>
      rw [provisional_startingWith rfl]
      simp [provisional, verdict, launching, failure?, proceed, record]
  | inconclusive answer unclear polling =>
      simp [provisional, verdict, polling, failure?_of_isInconclusive unclear, record]
  | pollFails cause conclusive polling =>
      rw [provisional_of_isStartup judging (by simp [polling, Stage.isStartup]),
        provisional_abandon, Option.none_or]
      by_cases cancellation : cause = .cancelled
      · subst cancellation
        rfl
      · simp [failure?, conclusive, cancellation, RunError.genuine?, RunError.isCancellation]
  | stopPolling waiting cancelled =>
      rw [provisional_of_isStartup judging (by simp [waiting, Stage.isStartup]),
        provisional_abandon]
      rfl
  | pauseEndsEarly result returned startup =>
      rw [provisional_of_isStartup judging startup, provisional_abandon, failure?_pause returned]
      rfl
  | pauseEnds result returned supervising =>
      rw [failure?_pause returned]
      exact provisional_fail supervising calm _
  | applicationFails index application cause returned supervising =>
      rw [failure?_application returned]
      exact provisional_fail supervising calm _
  | applicationEnds index application returned supervising =>
      simp [provisional, verdict, supervising, failure?, returned, record, withCall]
  | abandoned fault abandoning returned =>
      simp [provisional, verdict, abandoning, failure?, reported, calm, RunError.genuine?]
  | clean target result cleaner after event occurrences cleaning current allowed advance =>
      cases advance <;> simp [provisional, verdict, cleaning, failure?, record, withCleaner]
  | finish result cleaning cleaned =>
      have single := judging.single
      simp only [verdict, cleaning] at single
      simp [provisional, verdict, cleaning, failure?, record, RunError.runPart_combine single]
  | _ => simp_all [provisional, verdict, failure?, record, withCall, cancelBy]

end State

theorem isCancellation_pauseEnded {result : Except EngineError Unit}
    (genuine : result ≠ .error .cancelled) : (pauseEnded result).isCancellation = false := by
  cases result <;> simp_all [pauseEnded, RunError.isCancellation]

/-- The failures that a run observes along its events, in order. -/
def failures (plan : Plan) (events : List Event) : List RunError :=
  observations step State.failure? (.initial plan) events

/-- The call of a container returns as cancelled only after the run was cancelled. -/
def Obedient (plan : Plan) (events : List Event) : Prop :=
  ∀ before target after state, events = before ++ .callReturns target (.error .cancelled) :: after →
    Reaches plan before state → state.cancelled.isSome

theorem Obedient.left {plan : Plan} {events further : List Event}
    (obedient : Obedient plan (events ++ further)) : Obedient plan events := by
  rintro before target after state rfl path
  exact obedient before target (after ++ further) state (by simp) path

/-- The run still observes failures. -/
def Stage.isObserving : Stage → Bool
  | .ready => true
  | .pollDue => true
  | .polling => true
  | .waiting => true
  | .launching _ _ => true
  | .supervising => true
  | _ => false

theorem Stage.isObserving_of_isStartup {stage : Stage} (startup : stage.isStartup) :
    stage.isObserving := by
  cases stage <;> simp_all [isStartup, isObserving]

/-- What a run that is not interrupted makes of the failures observed so far. -/
structure Faithful (failures : List RunError) (state : State) : Prop where
  decided : state.provisional = failures.head?
  unsolicited : state.cancelled = none → ∀ run ∈ state.runs, run.2 ≠ .returned (.error .cancelled)
  undisturbed : state.stage.isObserving → failures = [] → state.cancelled = none

namespace Faithful

variable {failures : List RunError} {state next : State} {event : Event}

/-- An event with which no failure is observed and the run is not cancelled. -/
theorem of_eq (faithful : Faithful failures state)
    (provisional : next.provisional =
      state.provisional.or ((state.failure? event).bind RunError.genuine?))
    (unseen : state.failure? event = none) (cancelled : next.cancelled = state.cancelled)
    (runs : state.cancelled = none → ∀ run ∈ next.runs,
      run ∈ state.runs ∨ run.2 ≠ .returned (.error .cancelled))
    (observing : next.stage.isObserving → state.stage.isObserving) :
    Faithful (failures ++ (state.failure? event).toList) next := by
  rcases faithful with ⟨decided, unsolicited, undisturbed⟩
  rw [unseen, Option.bind_none, Option.or_none] at provisional
  simp only [unseen, Option.toList_none, List.append_nil]
  refine ⟨?_, ?_, ?_⟩
  · rw [provisional]
    exact decided
  · rw [cancelled]
    intro untouched run member
    rcases runs untouched run member with earlier | other
    · exact unsolicited untouched run earlier
    · exact other
  · intro observes
    rw [cancelled]
    exact undisturbed (observing observes)

/-- An event with which no failure is observed and the run stops observing. -/
theorem of_ended (faithful : Faithful failures state)
    (provisional : next.provisional =
      state.provisional.or ((state.failure? event).bind RunError.genuine?))
    (unseen : state.failure? event = none) (cancelled : next.cancelled.isSome)
    (ended : next.stage.isObserving = false) :
    Faithful (failures ++ (state.failure? event).toList) next := by
  have untouched : next.cancelled ≠ none := Option.isSome_iff_ne_none.mp cancelled
  rw [unseen, Option.bind_none, Option.or_none] at provisional
  simp only [unseen, Option.toList_none, List.append_nil]
  refine ⟨?_, ?_, ?_⟩
  · rw [provisional]
    exact faithful.decided
  · intro none
    exact absurd none untouched
  · intro observes
    simp [ended] at observes

/-- An event with which a failure is observed; the first one is no cancellation. -/
theorem of_failure (faithful : Faithful failures state)
    (provisional : next.provisional =
      state.provisional.or ((state.failure? event).bind RunError.genuine?))
    {fault : RunError} (seen : state.failure? event = some fault)
    (genuine : state.provisional = none → fault.isCancellation = false)
    (cancelled : next.cancelled.isSome) :
    Faithful (failures ++ (state.failure? event).toList) next := by
  have untouched : next.cancelled ≠ none := Option.isSome_iff_ne_none.mp cancelled
  have reported : next.provisional = state.provisional.or (some fault) := by
    rw [provisional, seen, Option.bind_some]
    cases earlier : state.provisional with
    | none => simp [RunError.genuine?, genuine earlier]
    | some first => rfl
  simp only [seen, Option.toList_some]
  refine ⟨?_, ?_, ?_⟩
  · rw [reported, faithful.decided, List.head?_append]
    rfl
  · intro none
    exact absurd none untouched
  · intro _ nothing
    simp at nothing

theorem untouched (faithful : Faithful failures state) (observing : state.stage.isObserving)
    (undecided : state.provisional = none) : state.cancelled = none := by
  apply faithful.undisturbed observing
  rw [← List.head?_eq_none_iff, ← faithful.decided]
  exact undecided

/-- As long as nothing would be reported, no call has returned as cancelled. -/
theorem genuine (faithful : Faithful failures state) (observing : state.stage.isObserving)
    (undecided : state.provisional = none) {target : Target} {result : Except EngineError Unit}
    (returned : state.call? target = some (.returned result)) : result ≠ .error .cancelled := by
  have untouched := faithful.untouched observing undecided
  rintro rfl
  exact faithful.unsolicited untouched _ (State.mem_runs returned) rfl

/-- The pause container does not end as cancelled as long as nothing would be reported. -/
theorem genuine_pauseEnded (faithful : Faithful failures state)
    (observing : state.stage.isObserving) {result : Except EngineError Unit}
    (returned : state.pause = some (.returned result)) (undecided : state.provisional = none) :
    (pauseEnded result).isCancellation = false := by
  have pauseReturned : state.call? .pause = some (.returned result) := returned
  exact isCancellation_pauseEnded (faithful.genuine observing undecided pauseReturned)

theorem withCall (faithful : Faithful failures state) {target : Target} {old new : Call}
    {occurrences : List Occurrence}
    (provisional : ((state.withCall target new).record occurrences).provisional =
      state.provisional.or ((state.failure? event).bind RunError.genuine?))
    (unseen : state.failure? event = none) (current : state.call? target = some old)
    (solicited : state.cancelled = none → new ≠ .returned (.error .cancelled)) :
    Faithful (failures ++ (state.failure? event).toList)
      ((state.withCall target new).record occurrences) := by
  refine faithful.of_eq provisional unseen rfl ?_ id
  intro untouched run member
  rcases State.call_of_mem_runs_withCall current member with earlier | now
  · exact Or.inl earlier
  · right
    rw [now]
    exact solicited untouched

theorem step (faithful : Faithful failures state) (judging : state.Judging)
    (calm : state.interrupted = false) (unwatched : state.watcher ≠ .interrupting)
    (uninterrupted : event ≠ .interrupt)
    (obeys : ∀ target, event = .callReturns target (.error .cancelled) → state.cancelled.isSome)
    (transition : Transition state event next) :
    Faithful (failures ++ (state.failure? event).toList) next := by
  have provisional := State.provisional_of_transition judging calm transition
  have same : ∀ run ∈ state.runs, run ∈ state.runs ∨ run.2 ≠ .returned (.error .cancelled) :=
    fun _ member => Or.inl member
  cases transition with
  | begin ready =>
      refine faithful.of_eq provisional rfl rfl ?_ (by simp [ready, Stage.isObserving])
      intro _ run member
      simp only [State.runs, State.record, Option.toList_some, List.map_cons, List.map_nil,
        List.singleton_append, List.mem_cons] at member
      rcases member with rfl | launched
      · right
        simp
      · left
        exact List.mem_append_right _ launched
  | call target due => exact faithful.withCall provisional rfl due (by simp)
  | callReturns target result running =>
      refine faithful.withCall provisional rfl running ?_
      intro untouched unsolicited
      cases unsolicited
      have provoked := obeys target rfl
      simp [untouched] at provoked
  | poll due =>
      exact faithful.of_eq provisional rfl rfl (fun _ => same) (by simp [due, Stage.isObserving])
  | confirmed polling =>
      exact faithful.of_eq provisional rfl rfl (fun _ => same)
        (by simp [polling, Stage.isObserving])
  | inconclusive answer unclear polling =>
      exact faithful.of_eq provisional (State.failure?_of_isInconclusive unclear) rfl
        (fun _ => same) (by simp [polling, Stage.isObserving])
  | pollFails fault conclusive polling =>
      -- A poll that fails as cancelled is no failure.
      by_cases cancellation : fault = .cancelled
      · apply faithful.of_ended provisional
        · simp [State.failure?, cancellation]
        · simp [State.abandon, State.record, State.cancelBy]
        · simp [State.abandon, State.record, Stage.isObserving]
      · have seen : state.failure? (.pollAnswers (.error fault)) = some (.pause fault) := by
          simp [State.failure?, conclusive, cancellation]
        apply faithful.of_failure provisional seen
        · simp [RunError.isCancellation, cancellation]
        · simp [State.abandon, State.record, State.cancelBy]
  | pollAgain waiting =>
      exact faithful.of_eq provisional rfl rfl (fun _ => same)
        (by simp [waiting, Stage.isObserving])
  | stopPolling waiting cancelled =>
      -- Nobody but the operator cancels a run that still polls.
      have undecided := State.provisional_of_isStartup judging (by simp [waiting, Stage.isStartup])
      have untouched := faithful.untouched (by simp [waiting, Stage.isObserving]) undecided
      simp [untouched] at cancelled
  | launch application rest launching =>
      refine faithful.of_eq provisional rfl rfl ?_ (by simp [launching, Stage.isObserving])
      intro _ run member
      have extended : run ∈ state.runs ++ [(application.specification.container, .due)] := by
        rw [← State.runs_launch]
        exact member
      rcases List.mem_append.mp extended with earlier | now
      · exact Or.inl earlier
      · exact Or.inr (by simp [List.mem_singleton.mp now])
  | pauseEndsEarly result returned startup =>
      apply faithful.of_failure provisional (State.failure?_pause returned)
      · exact faithful.genuine_pauseEnded (Stage.isObserving_of_isStartup startup) returned
      · simp [State.abandon, State.record, State.cancelBy]
  | pauseEnds result returned supervising =>
      apply faithful.of_failure provisional (State.failure?_pause returned)
      · exact faithful.genuine_pauseEnded (by simp [supervising, Stage.isObserving]) returned
      · simp [State.fail, State.record, State.cancelBy]
  | applicationEnds index application returned supervising =>
      have ended := State.call?_application returned
      exact faithful.withCall provisional (by simp [State.failure?, returned]) ended (by simp)
  | applicationFails index application fault returned supervising =>
      have observing : state.stage.isObserving := by simp [supervising, Stage.isObserving]
      apply faithful.of_failure provisional (State.failure?_application returned)
      · intro undecided
        have genuine := faithful.genuine observing undecided (State.call?_application returned)
        simpa [RunError.isCancellation] using genuine
      · simp [State.fail, State.record, State.cancelBy]
  | noticeCancellation supervising cancelled first =>
      exact faithful.of_eq provisional rfl rfl (fun _ => same) id
  | noticeAllEnded supervising ended =>
      apply faithful.of_ended provisional rfl
      · simp [State.record, State.cancelBy]
      · simp [State.record, Stage.isObserving]
  | abandoned fault abandoning returned =>
      exact faithful.of_eq provisional rfl rfl (fun _ => same) (by simp [Stage.isObserving])
  | drained draining returned =>
      exact faithful.of_eq provisional rfl rfl (fun _ => same) (by simp [Stage.isObserving])
  | close result closing settled =>
      apply faithful.of_ended provisional rfl
      · simp [State.record, State.cancelBy]
      · simp [State.record, Stage.isObserving]
  | clean target result cleaner after event occurrences cleaning current allowed advance =>
      refine faithful.of_eq provisional ?_ rfl (fun _ => same) id
      cases advance <;> rfl
  | finish result cleaning cleaned =>
      exact faithful.of_eq provisional rfl rfl (fun _ => same)
        (by simp [State.record, Stage.isObserving])
  | interrupt listening => exact absurd rfl uninterrupted
  | cancel interrupting => exact absurd interrupting unwatched
  | retire listening cancelled =>
      exact faithful.of_eq provisional rfl rfl (fun _ => same) id

end Faithful

/-- The errors that the calls of applications returned are observed or still to be noticed. -/
def Attentive (failures : List RunError) (events : List Event) (state : State) : Prop :=
  ∀ index fault, .callReturns (.application index) (.error fault) ∈ events →
    ∃ launched, state.launched[index]? = some launched ∧
      (launched.call = .returned (.error fault) ∨
        launched.call = .noticed ∧ .container launched.application.name fault ∈ failures)

namespace Attentive

variable {failures : List RunError} {events : List Event} {state next : State} {event : Event}

/-- A call that was over before the event is not touched by it, except for being noticed. -/
theorem earlier (transition : Transition state event next) {index : Nat} {fault : EngineError}
    {launched : Launched} (found : state.launched[index]? = some launched)
    (seen : launched.call = .returned (.error fault) ∨
      launched.call = .noticed ∧ .container launched.application.name fault ∈ failures) :
    ∃ launched, next.launched[index]? = some launched ∧
      (launched.call = .returned (.error fault) ∨
        launched.call = .noticed ∧ .container launched.application.name fault ∈
          failures ++ (state.failure? event).toList) := by
  have still : launched.call = .returned (.error fault) ∨
      launched.call = .noticed ∧ .container launched.application.name fault ∈
        failures ++ (state.failure? event).toList := by
    rcases seen with unnoticed | ⟨noticed, observed⟩
    · exact Or.inl unnoticed
    · exact Or.inr ⟨noticed, List.mem_append_left _ observed⟩
  cases transition with
  | call target due =>
      have apart : launched.call ≠ .due := by
        rcases seen with call | ⟨call, _⟩ <;> simp [call]
      exact ⟨launched, State.getElem?_withCall_of_ne due found apart, still⟩
  | callReturns target result running =>
      have apart : launched.call ≠ .running := by
        rcases seen with call | ⟨call, _⟩ <;> simp [call]
      exact ⟨launched, State.getElem?_withCall_of_ne running found apart, still⟩
  | launch application rest launching =>
      have inside := (List.getElem?_eq_some_iff.mp found).1
      exact ⟨launched, (List.getElem?_append_left inside).trans found, still⟩
  | applicationEnds position application returned supervising =>
      have apart : launched.call ≠ .returned (.ok ()) := by
        rcases seen with call | ⟨call, _⟩ <;> simp [call]
      have ended := State.call?_application returned
      exact ⟨launched, State.getElem?_withCall_of_ne ended found apart, still⟩
  | applicationFails position application cause returned supervising =>
      by_cases same : position = index
      · subst position
        rw [returned, Option.some.injEq] at found
        subst launched
        have cause_eq : cause = fault := by simpa using seen
        subst cause
        refine ⟨⟨application, .noticed⟩, ?_, Or.inr ⟨rfl, ?_⟩⟩
        · change (state.withCall (.application index) .noticed).launched[index]? = _
          rw [State.getElem?_withCall, if_pos rfl, returned]
          rfl
        · simp [State.failure?, returned]
      · have other : Target.application position ≠ .application index := by simpa using same
        refine ⟨launched, ?_, still⟩
        change (state.withCall (.application position) .noticed).launched[index]? = _
        rw [State.getElem?_withCall, if_neg other]
        exact found
  | _ => exact ⟨launched, found, still⟩

theorem step (attentive : Attentive failures events state)
    (transition : Transition state event next) :
    Attentive (failures ++ (state.failure? event).toList) (events ++ [event]) next := by
  intro index fault returned
  rcases List.mem_append.mp returned with before | now
  · rcases attentive index fault before with ⟨launched, found, seen⟩
    exact earlier transition found seen
  · simp only [List.mem_singleton] at now
    subst event
    cases transition with
    | callReturns target result running =>
        rcases Option.map_eq_some_iff.mp running with ⟨launched, found, _⟩
        refine ⟨{ launched with call := .returned (.error fault) }, ?_, Or.inl rfl⟩
        change (state.withCall (.application index) _).launched[index]? = _
        rw [State.getElem?_withCall, if_pos rfl, found]
        rfl
    | clean target result cleaner after event occurrences cleaning current allowed advance =>
        cases advance

end Attentive

namespace Reaches

variable {plan : Plan} {events : List Event} {state : State}

theorem failures_concat {event : Event} {next : State} (path : Reaches plan events state)
    (transition : Transition state event next) :
    failures plan (events ++ [event]) =
      failures plan events ++ (state.failure? event).toList :=
  observations_concat path (step_of_transition transition)

/-- Without an interrupt, the first failure that is no consequence of the shutdown is reported. -/
theorem provisional_eq (path : Reaches plan events state) : .interrupt ∉ events →
    state.provisional = (failures plan events).findSome? RunError.genuine? := by
  apply path.induction fun events state => .interrupt ∉ events →
    state.provisional = (failures plan events).findSome? RunError.genuine?
  · intro _
    rfl
  · intro events state event next before same transition uninterrupted
    simp only [List.mem_append, List.mem_singleton, not_or] at uninterrupted
    have calm : state.interrupted = false := by
      rw [← Bool.not_eq_true, before.interrupted_iff]
      exact uninterrupted.1
    rw [State.provisional_of_transition before.judging calm transition, same uninterrupted.1,
      before.failures_concat transition, List.findSome?_append]
    cases state.failure? event with
    | none => simp
    | some fault => simp

theorem faithful (path : Reaches plan events state) : .interrupt ∉ events → Obedient plan events →
    Faithful (failures plan events) state := by
  apply path.induction fun events state => .interrupt ∉ events → Obedient plan events →
    Faithful (failures plan events) state
  · intro _ _
    constructor <;> simp [State.provisional, State.verdict, State.initial, failures, observations,
      State.runs]
  · intro events state event next before holds transition uninterrupted obedient
    simp only [List.mem_append, List.mem_singleton, not_or] at uninterrupted
    have calm : state.interrupted = false := by
      rw [← Bool.not_eq_true, before.interrupted_iff]
      exact uninterrupted.1
    have unwatched : state.watcher ≠ .interrupting := by
      intro interrupting
      simp [before.watched.interrupting interrupting] at calm
    rw [before.failures_concat transition]
    refine (holds uninterrupted.1 (obedient.left)).step before.judging calm unwatched
      (Ne.symm uninterrupted.2) ?_ transition
    rintro target rfl
    exact obedient events target [] state rfl before

theorem attentive (path : Reaches plan events state) :
    Attentive (failures plan events) events state := by
  apply path.induction fun events state => Attentive (failures plan events) events state
  · simp [Attentive]
  · intro events state event next before holds transition
    rw [before.failures_concat transition]
    exact holds.step transition

end Reaches

/--
A run that is over reports the first failure that it has observed, if it was not interrupted and
no call returned as cancelled before the run was cancelled: an application that failed, the end of
the pause container, or a poll that failed otherwise than for want of the container or as
cancelled. Each application that failed is observed, and no cancellation is ever reported.
-/
theorem first_failure_reported {plan : Plan} {events : List Event} {state : State}
    {result : Option RunError} (path : Reaches plan events state)
    (finished : state.result? = some result) :
    (.interrupt ∉ events → Obedient plan events →
      RunError.runPart result = (failures plan events).head?) ∧
    (∀ index fault, .callReturns (.application index) (.error fault) ∈ events →
      ∃ application, plan.applications[index]? = some application ∧
        .container application.name fault ∈ failures plan events) ∧
    ∀ fault, RunError.runPart result = some fault → fault.isCancellation = false := by
  rw [State.runPart_eq_verdict finished]
  refine ⟨?_, ?_, path.judging.genuine⟩
  · intro uninterrupted obedient
    rw [← (path.faithful uninterrupted obedient).decided]
    exact (State.provisional_of_finished finished).symm
  · intro index fault returned
    rcases path.attentive index fault returned with ⟨launched, found, seen⟩
    have noticed := path.started.noticed_of_finished finished launched (List.mem_of_getElem? found)
    have known : (state.launched.map Launched.application)[index]? =
        some launched.application := by
      simp [found]
    rcases seen with unnoticed | ⟨_, observed⟩
    · simp [unnoticed, Call.wasNoticed] at noticed
    · refine ⟨launched.application, ?_, observed⟩
      rw [← path.plan_eq]
      rcases path.started.inOrder with ⟨rest, all⟩
      rw [← all]
      exact (List.getElem?_append_left (List.getElem?_eq_some_iff.mp known).1).trans known

/-- A run in which the container fails and the pause container is killed for it. -/
def failingEvents : List Event :=
  [.begin, .call .pause, .poll, .pollAnswers (.ok true), .launch, .call (.application 0),
    .callReturns (.application 0) (.error (.exitStatus (some 1))), .notice (.application 0),
    .noticeAllEnded, .callReturns .pause (.error (.exitStatus (some 137))), .drained, .close,
    .stop (.application 0), .stopAnswers (.application 0) (.ok ()), .remove (.application 0),
    .removeAnswers (.application 0) (.ok ()), .stop .pause, .stopAnswers .pause (.ok ()),
    .remove .pause, .removeAnswers .pause (.ok ()), .finish]

theorem failing_container_reported :
    ∃ state result, Reaches .single failingEvents state ∧ state.result? = some result ∧
      RunError.runPart result = some (.container "web" (.exitStatus (some 1))) := by
  have path : Reaches .single failingEvents _ := rfl
  have obedient : Obedient .single failingEvents := by
    intro before target after state split _
    have member : .callReturns target (.error .cancelled) ∈ failingEvents := by simp [split]
    simp [failingEvents] at member
  have reported := (first_failure_reported path rfl).1 (by simp [failingEvents]) obedient
  exact ⟨_, _, path, rfl, reported⟩

/-- A run that gives up because the engine answers the poll as cancelled. -/
def cancelledPollEvents : List Event :=
  [.begin, .call .pause, .poll, .pollAnswers (.error .cancelled),
    .callReturns .pause (.error (.exitStatus (some 137))), .drained, .close, .stop .pause,
    .stopAnswers .pause (.ok ()), .remove .pause, .removeAnswers .pause (.ok ()), .finish]

/-- A poll that fails as cancelled ends the run, and nothing is reported. -/
theorem cancelled_poll_unreported :
    ∃ state, Reaches .single cancelledPollEvents state ∧ state.result? = some none ∧
      Obedient .single cancelledPollEvents ∧ .interrupt ∉ cancelledPollEvents ∧
      .pollAnswers (.error .cancelled) ∈ cancelledPollEvents ∧
      isInconclusive (.error .cancelled) = false := by
  have obedient : Obedient .single cancelledPollEvents := by
    intro before target after state split _
    have member : .callReturns target (.error .cancelled) ∈ cancelledPollEvents := by simp [split]
    simp [cancelledPollEvents] at member
  exact ⟨_, rfl, rfl, obedient, by simp [cancelledPollEvents], by simp [cancelledPollEvents], rfl⟩

end Workload.Run
