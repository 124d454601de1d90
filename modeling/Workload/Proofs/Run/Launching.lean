import Workload.Proofs.Run.Attempted
import Workload.Proofs.Run.Reporting
import Workload.Proofs.Run.Startup

/-!
# What a confirmed run starts

Once the engine has confirmed the pause container, the applications of the plan are started one
after the other, and nothing that happens in between stops that. The call of a container is made
once, by its own task, and a run that is over has waited for every call. So which containers the
engine was called for is known from whether the pause container was confirmed.
-/

namespace Workload.Run

/-- The container whose call an event makes. -/
def Event.called? : Event → Option Target
  | .call target => some target
  | _ => none

/-- The containers whose calls the events make, in order. -/
def calledTargets (events : List Event) : List Target :=
  events.filterMap Event.called?

/-- The specification that the engine is handed with an event. -/
def State.handed? (state : State) : Event → Option Container.Specification
  | .call target => state.specification? target
  | _ => none

/-- The specifications that the engine is handed in a run, in order. -/
def handed (plan : Plan) (events : List Event) : List Container.Specification :=
  observations step State.handed? (.initial plan) events

namespace Plan

/-- The specification that a plan has for a container. -/
def specificationOf? (plan : Plan) : Target → Option Container.Specification
  | .pause => some plan.pause
  | .application index => (plan.applications[index]?).map Application.specification

/-- The containers of a run of the plan, the pause container first. -/
def targets (plan : Plan) : List Target :=
  .pause :: (List.range plan.applications.length).map .application

theorem mem_targets {plan : Plan} {target : Target} :
    target ∈ plan.targets ↔ (plan.specificationOf? target).isSome := by
  cases target <;> simp [targets, specificationOf?]

theorem nodup_targets (plan : Plan) : plan.targets.Nodup := by
  have apart : Target.application.Injective := by
    intro first second same
    simpa using same
  rw [targets, List.nodup_cons]
  exact ⟨by simp, List.nodup_range.map apart⟩

theorem specifications_targets (plan : Plan) :
    plan.targets.filterMap plan.specificationOf? =
      plan.pause :: plan.applications.map Application.specification := by
  have each : plan.targets.map plan.specificationOf? =
      (plan.pause :: plan.applications.map Application.specification).map some := by
    simp only [targets, List.map_cons, List.map_map, specificationOf?]
    congr 1
    apply List.ext_getElem
    · simp
    · intro index _ inside
      have known : index < plan.applications.length := by simpa using inside
      simp [specificationOf?, known]
  calc
    plan.targets.filterMap plan.specificationOf? =
        (plan.targets.map plan.specificationOf?).filterMap id := by
      rw [List.filterMap_map]
      rfl
    _ = plan.pause :: plan.applications.map Application.specification := by
      rw [each, List.filterMap_map]
      exact List.filterMap_some

end Plan

theorem Event.called?_eq_some {event : Event} {target : Target} :
    event.called? = some target ↔ event = .call target := by
  cases event <;> simp [called?]

theorem mem_calledTargets {events : List Event} {target : Target} :
    target ∈ calledTargets events ↔ .call target ∈ events := by
  simp only [calledTargets, List.mem_filterMap, Event.called?_eq_some, exists_eq_right]

theorem calledTargets_concat (events : List Event) (event : Event) :
    calledTargets (events ++ [event]) = calledTargets events ++ event.called?.toList := by
  rw [calledTargets, List.filterMap_append, ← calledTargets]
  cases called : event.called? <;> simp [called]

namespace State

/-- The call of a container was made, whatever has become of it. -/
def IsCalled (state : State) (target : Target) : Prop :=
  ∃ call, state.call? target = some call ∧ call ≠ .due

/-- The pause container is confirmed: all applications are started, or the rest is about to be. -/
structure Launches (state : State) : Prop where
  begun : state.stage.isBeforeLaunch = false
  all : state.launched.map Launched.application ++ state.stage.upcoming?.getD [] =
    state.plan.applications

variable {state next : State} {event : Event} {target other : Target} {old new : Call}

theorem isCalled_withCall (current : state.call? target = some old) (made : new ≠ .due) :
    (state.withCall target new).IsCalled other ↔ state.IsCalled other ∨ target = other := by
  rw [IsCalled, call?_withCall current]
  by_cases same : target = other
  · simp [same, made]
  · simp [same, IsCalled]

theorem isCalled_withCall_of_made (current : state.call? target = some old) (made : old ≠ .due)
    (still : new ≠ .due) :
    (state.withCall target new).IsCalled other ↔ state.IsCalled other := by
  rw [isCalled_withCall current still, or_iff_left_iff_imp]
  rintro rfl
  exact ⟨old, current, made⟩

theorem isCalled_launch (state : State) (application : Application) :
    IsCalled { state with launched := state.launched ++ [Launched.mk application .due] } target ↔
      state.IsCalled target := by
  cases target with
  | pause => rfl
  | application index =>
      simp only [IsCalled, call?, List.getElem?_append]
      split
      · rfl
      · rename_i beyond
        simp [List.getElem?_singleton, List.getElem?_eq_none (not_lt.mp beyond)]

theorem Started.specification?_eq (started : state.Started) {call : Call}
    (current : state.call? target = some call) :
    state.specification? target = state.plan.specificationOf? target := by
  cases target with
  | pause => rfl
  | application index =>
      simp only [call?, Option.map_eq_some_iff] at current
      rcases current with ⟨launched, found, _⟩
      have known : (state.launched.map Launched.application)[index]? =
          some launched.application := by
        simp [found]
      rcases started.inOrder with ⟨rest, all⟩
      have planned : state.plan.applications[index]? = some launched.application := by
        rw [← all, List.getElem?_append_left (List.getElem?_eq_some_iff.mp known).1, known]
      simp [specification?, Plan.specificationOf?, found, planned]

theorem Launches.of_eq (launches : state.Launches) (plan : next.plan = state.plan)
    (stage : next.stage = state.stage)
    (applications : next.launched.map Launched.application =
      state.launched.map Launched.application) : next.Launches := by
  rcases launches with ⟨begun, all⟩
  constructor <;> simpa only [plan, stage, applications]

end State

namespace Transition

open State

variable {state next : State} {event : Event}

theorem isCalled_eq (transition : Transition state event next) (started : state.Started)
    (other : ∀ target, event ≠ .call target) (target : Target) :
    next.IsCalled target ↔ state.IsCalled target := by
  cases transition with
  | begin ready =>
      cases target with
      | pause => simp [IsCalled, call?, record, started.idle ready]
      | application index => exact Iff.rfl
  | call target due => exact absurd rfl (other target)
  | callReturns target result running =>
      exact isCalled_withCall_of_made running (by simp) (by simp)
  | launch application rest launching => exact isCalled_launch state application
  | pauseEndsEarly result returned startup =>
      have current : state.call? .pause = some (.returned result) := returned
      exact isCalled_withCall_of_made current (by simp) (by simp)
  | pauseEnds result returned supervising =>
      have current : state.call? .pause = some (.returned result) := returned
      exact isCalled_withCall_of_made current (by simp) (by simp)
  | applicationEnds index application returned supervising =>
      exact isCalled_withCall_of_made (call?_application returned) (by simp) (by simp)
  | applicationFails index application fault returned supervising =>
      exact isCalled_withCall_of_made (call?_application returned) (by simp) (by simp)
  | _ => exact Iff.rfl

theorem isCalled_iff (transition : Transition state event next) (started : state.Started)
    (target : Target) : next.IsCalled target ↔ state.IsCalled target ∨ event = .call target := by
  by_cases called : ∃ made, event = .call made
  · rcases called with ⟨made, rfl⟩
    have due := transition.due_of_call
    cases transition with
    | clean target result cleaner after event occurrences cleaning current allowed advance =>
        cases advance
    | call _ _ =>
        rw [Event.call.injEq]
        exact isCalled_withCall due (by simp)
  · have other : ∀ made, event ≠ .call made := by simpa using called
    rw [transition.isCalled_eq started other, or_iff_left (other target)]

theorem launches (transition : Transition state event next) (launches : state.Launches) :
    next.Launches := by
  cases transition with
  | call target due => exact launches.of_eq rfl rfl (withCall_applications ..)
  | callReturns target result running => exact launches.of_eq rfl rfl (withCall_applications ..)
  | launch application rest launching =>
      have rising : state.stage.upcoming? = some (application :: rest) := by
        simp [launching, Stage.upcoming?]
      constructor <;> simp [proceed, record, ← launches.all, rising]
  | pauseEnds result returned supervising => exact launches.of_eq rfl rfl rfl
  | applicationEnds index application returned supervising =>
      exact launches.of_eq rfl rfl (withCall_applications state (.application index) .noticed)
  | applicationFails index application fault returned supervising =>
      exact launches.of_eq rfl rfl (withCall_applications state (.application index) .noticed)
  | clean target result cleaner after event occurrences cleaning current allowed advance =>
      exact launches.of_eq rfl rfl rfl
  | interrupt listening => exact launches.of_eq rfl rfl rfl
  | cancel interrupting => exact launches.of_eq rfl rfl rfl
  | retire listening cancelled => exact launches.of_eq rfl rfl rfl
  | pauseEndsEarly result returned startup =>
      have before := Stage.isBeforeLaunch_of_isStartup startup
      simp [launches.begun] at before
  | _ =>
      rcases launches with ⟨begun, all⟩
      constructor <;>
        simp_all [record, cancelBy, Stage.isBeforeLaunch, Stage.upcoming?]

end Transition

namespace Reaches

open State

variable {plan : Plan} {events : List Event} {state : State}

theorem isCalled_iff (path : Reaches plan events state) (target : Target) :
    state.IsCalled target ↔ .call target ∈ events := by
  apply path.induction fun events state => state.IsCalled target ↔ .call target ∈ events
  · cases target <;> simp [IsCalled, call?, initial]
  · intro events state event next before same transition
    rw [transition.isCalled_iff before.started, same, List.mem_append, List.mem_singleton,
      eq_comm (a := event)]

theorem nodup_calledTargets (path : Reaches plan events state) :
    (calledTargets events).Nodup := by
  apply path.induction fun events _ => (calledTargets events).Nodup
  · exact List.nodup_nil
  · intro events state event next before distinct transition
    rw [calledTargets_concat]
    cases made : event.called? with
    | none => simpa using distinct
    | some target =>
        have called := Event.called?_eq_some.mp made
        subst event
        -- The call is due before the event, so it was not made earlier.
        have fresh : target ∉ calledTargets events := by
          intro earlier
          rw [mem_calledTargets, ← before.isCalled_iff] at earlier
          rcases earlier with ⟨call, current, apart⟩
          rw [transition.due_of_call, Option.some.injEq] at current
          exact apart current.symm
        simpa [List.nodup_append] using
          ⟨distinct, fun other member same => fresh (same ▸ member)⟩

theorem launches (path : Reaches plan events state) :
    .pollAnswers (.ok true) ∈ events → state.Launches := by
  apply path.induction fun events state => .pollAnswers (.ok true) ∈ events → state.Launches
  · simp
  · intro events state event next before holds transition confirmed
    rcases List.mem_append.mp confirmed with earlier | now
    · exact transition.launches (holds earlier)
    · rw [List.mem_singleton] at now
      subst event
      cases transition with
      | confirmed polling =>
          have none := before.started.noneYet (by simp [polling, Stage.isBeforeLaunch])
          constructor <;> simp [confirm, proceed, record, none]
      | inconclusive _ unclear polling => cases unclear
      | clean target result cleaner after event occurrences cleaning current allowed advance =>
          cases advance

theorem launched_of_finished (path : Reaches plan events state)
    (confirmed : .pollAnswers (.ok true) ∈ events) {result : Option RunError}
    (finished : state.result? = some result) :
    state.launched.map Launched.application = plan.applications := by
  have all := (path.launches confirmed).all
  simpa [result?_eq_some.mp finished, Stage.upcoming?, path.plan_eq] using all

theorem launched_of_unconfirmed (path : Reaches plan events state)
    (unconfirmed : .pollAnswers (.ok true) ∉ events) : state.launched = [] := by
  by_contra started
  exact path.not_isPastStartup unconfirmed (Or.inr started)

/-- A run that is over has called for every container that it started. -/
theorem call_iff_of_finished (path : Reaches plan events state) {result : Option RunError}
    (finished : state.result? = some result) (target : Target) :
    .call target ∈ events ↔ (state.call? target).isSome := by
  rw [← path.isCalled_iff, Option.isSome_iff_exists]
  apply exists_congr
  intro call
  rw [and_iff_left_iff_imp]
  rintro current rfl
  have ended : state.stage.isOver := by simp [result?_eq_some.mp finished, Stage.isOver]
  have returned := path.started.runs_returned ended (State.mem_runs current)
  simp [Call.hasReturned] at returned

theorem call_application_iff (path : Reaches plan events state) {result : Option RunError}
    (finished : state.result? = some result) (index : Nat) :
    .call (.application index) ∈ events ↔
      index < plan.applications.length ∧ .pollAnswers (.ok true) ∈ events := by
  rw [path.call_iff_of_finished finished]
  by_cases confirmed : .pollAnswers (.ok true) ∈ events
  · simp [call?, confirmed, ← path.launched_of_finished confirmed finished]
  · simp [call?, confirmed, path.launched_of_unconfirmed confirmed]

theorem handed_eq (path : Reaches plan events state) :
    handed plan events = (calledTargets events).filterMap plan.specificationOf? := by
  apply path.induction fun events _ =>
    handed plan events = (calledTargets events).filterMap plan.specificationOf?
  · rfl
  · intro events state event next before same transition
    have now : (state.handed? event).toList =
        (event.called?.toList).filterMap plan.specificationOf? := by
      cases made : event.called? with
      | none => cases event <;> simp_all [Event.called?, handed?]
      | some target =>
          have called := Event.called?_eq_some.mp made
          subst event
          have current := transition.due_of_call
          rw [handed?, before.started.specification?_eq current, before.plan_eq]
          cases found : plan.specificationOf? target <;> simp [found]
    have extended : handed plan (events ++ [event]) = handed plan events ++ _ :=
      observations_concat before (step_of_transition transition)
    rw [extended, same, now, calledTargets_concat, List.filterMap_append]

/-- A confirmed run that is over has handed over what the plan has for each container, once. -/
theorem handed_perm (path : Reaches plan events state)
    (confirmed : .pollAnswers (.ok true) ∈ events) {result : Option RunError}
    (finished : state.result? = some result) :
    (handed plan events).Perm
      (plan.pause :: plan.applications.map Application.specification) := by
  have same : ∀ target, target ∈ calledTargets events ↔ target ∈ plan.targets := by
    intro target
    rw [mem_calledTargets, path.call_iff_of_finished finished, Plan.mem_targets]
    cases target with
    | pause =>
        have begun : state.stage ≠ .ready := by simp [result?_eq_some.mp finished]
        simp [call?, Plan.specificationOf?, path.pause_isSome begun]
    | application index =>
        simp [call?, Plan.specificationOf?, ← path.launched_of_finished confirmed finished]
  rw [path.handed_eq, ← plan.specifications_targets]
  apply List.Perm.filterMap
  exact (List.perm_ext_iff_of_nodup path.nodup_calledTargets plan.nodup_targets).mpr same

end Reaches

end Workload.Run
