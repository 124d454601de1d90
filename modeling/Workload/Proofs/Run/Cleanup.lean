import Workload.Proofs.Run.Ledger
import Workload.Proofs.Run.Termination

/-!
# Every container is stopped and removed once

Cleanup begins when all calls that run containers have returned, and none is made afterwards. It
stops and then removes each container that was started, and the pause container after all others,
whether or not a step fails. What may be seen after what is the invariant here; that everything is
seen once is read off the trails at the end of the run.
-/

namespace Workload.Run

/-- What cannot be seen any more once a container is being stopped. -/
def Occurrence.MayFollow (pauseName : String) (earlier later : Occurrence) : Prop :=
  ∀ name, earlier = .called .stop name →
    (∀ other, later ≠ .called .run other) ∧
    (∀ other fault, later ≠ .answered .run other fault) ∧
    (name = pauseName → ∀ other fault, later = .answered .remove other fault → other = pauseName)

namespace State

/-- The names of the containers that were started, the pause container apart. -/
def containers (state : State) : List String :=
  (state.launched.map Launched.application).map fun application =>
    application.specification.container

/-- What was seen came in an order that is allowed. -/
def Ordered (state : State) : Prop :=
  state.history.Pairwise (Occurrence.MayFollow state.plan.identity.pauseName)

/-- The containers that were seen to be started are those that were. -/
def Listed (state : State) : Prop :=
  ∀ name, .launched name ∈ state.history ↔ name ∈ state.containers

variable {state next : State} {event : Event}

theorem mem_trail {verbs : List Verb} {name : String} {occurrence : Occurrence} :
    occurrence ∈ state.trail verbs name ↔
      occurrence ∈ state.history ∧ occurrence.concerns verbs name :=
  List.mem_filter

theorem Started.runs_returned (started : state.Started) (ended : state.stage.isOver)
    {run : String × Call} (member : run ∈ state.runs) : run.2.hasReturned := by
  have ending := Stage.isEnding_of_isOver ended
  simp only [runs, List.mem_append, List.mem_map, Option.mem_toList] at member
  rcases member with ⟨call, pause, rfl⟩ | ⟨launched, member, rfl⟩
  · have returned := started.pauseReturned ended
    simpa [pause] using returned
  · have seen := started.noticed ending launched member
    cases call : launched.call <;> simp_all [Call.wasNoticed, Call.hasReturned]

namespace CleanupsTold

theorem isCleanup_of_stop (told : state.CleanupsTold) (cleaned : state.Cleaned) {name : String}
    (stopped : .called .stop name ∈ state.history) : state.stage.isCleanup := by
  by_contra before
  have nothing := told.trail_eq_nil cleaned (by simpa using before) name
  have seen : .called .stop name ∈ state.trail [.stop, .remove] name :=
    mem_trail.mpr ⟨stopped, by simp [Occurrence.concerns]⟩
  simp [nothing] at seen

theorem cleaned_of_pause_stop (told : state.CleanupsTold) (cleaned : state.Cleaned)
    (stopped : .called .stop state.plan.identity.pauseName ∈ state.history) :
    ∀ cleaner ∈ state.cleaners, cleaner.stage = .cleaned := by
  apply cleaned.pauseLast
  intro due
  have untold := told.told state.pauseCleaner (List.mem_append_right _ (List.mem_singleton_self _))
  simp only [Cleaner.Tells, due, cleaned.pauseNamed] at untold
  have seen : .called .stop state.plan.identity.pauseName ∈
      state.trail [.stop, .remove] state.plan.identity.pauseName :=
    mem_trail.mpr ⟨stopped, by simp [Occurrence.concerns]⟩
  simp [untold] at seen

end CleanupsTold

/-- While a call is still to be made or to return, no container is stopped. -/
theorem not_stopped_of_active (told : state.CleanupsTold) (started : state.Started)
    (cleaned : state.Cleaned) {target : Target} {call : Call}
    (current : state.call? target = some call) (active : call.hasReturned = false) (name : String) :
    .called .stop name ∉ state.history := by
  intro stopped
  have cleanup := told.isCleanup_of_stop cleaned stopped
  have returned := started.runs_returned (Stage.isOver_of_isCleanup cleanup) (mem_runs current)
  simp [active] at returned

namespace Ordered

theorem record {occurrences : List Occurrence} (ordered : state.Ordered)
    (allowed : ∀ earlier ∈ state.history ++ occurrences, ∀ later ∈ occurrences,
      Occurrence.MayFollow state.plan.identity.pauseName earlier later) :
    (state.record occurrences).Ordered := by
  refine List.pairwise_append.mpr ⟨ordered, ?_, fun earlier past later member =>
    allowed earlier (List.mem_append_left _ past) later member⟩
  exact List.pairwise_of_forall_mem_list fun earlier present later member =>
    allowed earlier (List.mem_append_right _ present) later member

/-- As long as no container is stopped, anything else may be seen. -/
theorem call (ordered : state.Ordered) {target : Target} {call : Call} {occurrence : Occurrence}
    (unstopped : ∀ name, .called .stop name ∉ state.history)
    (other : ∀ name, occurrence ≠ .called .stop name) :
    ((state.withCall target call).record [occurrence]).Ordered := by
  have past : (state.withCall target call).Ordered := ordered
  apply past.record
  intro earlier seen later member name stopped
  subst earlier
  rcases List.mem_append.mp seen with before | now
  · exact absurd before (unstopped name)
  · exact absurd (List.mem_singleton.mp now).symm (other name)

theorem clean (ordered : state.Ordered) (told : state.CleanupsTold) (cleaned : state.Cleaned)
    {target : Target} {cleaner after : Cleaner} {occurrences : List Occurrence}
    (current : state.cleaner? target = some cleaner)
    (advance : cleaner.Advance target event after occurrences) :
    ((state.withCleaner target after).record occurrences).Ordered := by
  have past : (state.withCleaner target after).Ordered := ordered
  apply past.record
  intro earlier seen later member name stopped
  subst earlier
  cases advance with
  | removeAnswers result removing =>
      -- Only here an answer about a removal is seen: that of another container comes too early.
      have stops : .called .stop name ∈ state.history := by
        rcases List.mem_append.mp seen with before | now
        · exact before
        · simp at now
      refine ⟨?_, ?_, ?_⟩
      · rintro other rfl
        simp at member
      · rintro other fault rfl
        simp at member
      · rintro rfl other fault rfl
        cases target with
        | pause =>
            simp only [cleaner?, Option.some.injEq] at current
            subst cleaner
            simp at member
            rw [member.1]
            exact cleaned.pauseNamed
        | application index =>
            have done := told.cleaned_of_pause_stop cleaned stops cleaner
              (List.mem_of_getElem? current)
            simp [done] at removing
  | _ =>
      refine ⟨?_, ?_, ?_⟩
      · rintro other rfl
        simp at member
      · rintro other fault rfl
        simp at member
      · rintro _ other fault rfl
        simp at member

theorem step (ordered : state.Ordered) (told : state.CleanupsTold) (started : state.Started)
    (cleaned : state.Cleaned) (transition : Transition state event next) : next.Ordered := by
  have past : state.history.Pairwise (Occurrence.MayFollow state.plan.identity.pauseName) := ordered
  cases transition with
  | call target due =>
      refine ordered.call ?_ (by simp)
      exact not_stopped_of_active told started cleaned due rfl
  | callReturns target result running =>
      refine ordered.call ?_ (by simp)
      exact not_stopped_of_active told started cleaned running rfl
  | confirmed polling =>
      cases applications : state.plan.applications <;>
        simp [Ordered, State.record, confirm, proceed, applications, List.pairwise_append,
          Occurrence.MayFollow, past]
  | launch application rest launching =>
      cases rest <;>
        simp [Ordered, State.record, proceed, List.pairwise_append, Occurrence.MayFollow, past]
  | pauseEnds result returned supervising =>
      simp [Ordered, State.record, fail, withCall, cancelBy, List.pairwise_append,
        Occurrence.MayFollow, past]
  | applicationFails index application fault returned supervising =>
      simp [Ordered, State.record, fail, withCall, cancelBy, List.pairwise_append,
        Occurrence.MayFollow, past]
  | noticeAllEnded supervising ended =>
      cases cancelling : state.cancelling <;>
        simp [Ordered, State.record, cancelBy, List.pairwise_append, Occurrence.MayFollow, past]
  | clean target result cleaner after event occurrences cleaning current allowed advance =>
      exact ordered.clean told cleaned current advance
  | _ =>
      simp [Ordered, State.record, abandon, withCall, cancelBy, List.pairwise_append,
        Occurrence.MayFollow, past]

end Ordered

theorem containers_withCall (state : State) (target : Target) (call : Call) :
    (state.withCall target call).containers = state.containers := by
  simp only [containers, withCall_applications]

namespace Listed

theorem of_eq (listed : state.Listed) (containers : next.containers = state.containers)
    (seen : ∀ name, .launched name ∈ next.history ↔ .launched name ∈ state.history) :
    next.Listed := by
  intro name
  rw [seen, containers]
  exact listed name

theorem step (listed : state.Listed) (transition : Transition state event next) :
    next.Listed := by
  cases transition with
  | call target due =>
      exact listed.of_eq (containers_withCall ..) (by simp [record, withCall])
  | callReturns target result running =>
      exact listed.of_eq (containers_withCall ..) (by simp [record, withCall])
  | confirmed polling =>
      exact listed.of_eq rfl (by simp [record, confirm, proceed])
  | launch application rest launching =>
      intro name
      have past := listed name
      simp only [containers] at past
      cases rest <;> simp [record, proceed, containers, past]
  | pauseEnds result returned supervising =>
      exact listed.of_eq rfl (by simp [record, fail, withCall, cancelBy])
  | applicationEnds index application returned supervising =>
      have containers := containers_withCall state (.application index) .noticed
      exact listed.of_eq containers (by simp [record, withCall])
  | applicationFails index application fault returned supervising =>
      have containers := containers_withCall state (.application index) .noticed
      exact listed.of_eq containers (by simp [record, fail, withCall, cancelBy])
  | clean target result cleaner after event occurrences cleaning current allowed advance =>
      refine listed.of_eq rfl ?_
      intro name
      cases advance <;> simp [record, withCleaner]
  | _ =>
      exact listed.of_eq rfl (by simp [record, abandon, withCall, cancelBy])

end Listed

namespace CleanupsTold

theorem begins (told : state.CleanupsTold) (name : String) :
    ∃ stopFault removeFault, state.trail [.stop, .remove] name <+:
      [.called .stop name, .answered .stop name stopFault,
        .called .remove name, .answered .remove name removeFault] := by
  by_cases known : name ∈ state.cleanups.map Cleaner.container
  · rcases List.mem_map.mp known with ⟨cleaner, member, rfl⟩
    have tells := told.told cleaner member
    cases stage : cleaner.stage with
    | stopDue =>
        simp only [Cleaner.Tells, stage] at tells
        exact ⟨none, none, by simp [tells]⟩
    | stopping =>
        simp only [Cleaner.Tells, stage] at tells
        exact ⟨none, none, by simp [tells]⟩
    | removeDue =>
        simp only [Cleaner.Tells, stage] at tells
        rcases tells with ⟨fault, trail⟩
        exact ⟨fault, none, by simp [trail]⟩
    | removing =>
        simp only [Cleaner.Tells, stage] at tells
        rcases tells with ⟨fault, trail⟩
        exact ⟨fault, none, by simp [trail]⟩
    | cleaned =>
        simp only [Cleaner.Tells, stage] at tells
        rcases tells with ⟨stopFault, removeFault, trail⟩
        exact ⟨stopFault, removeFault, by simp [trail]⟩
  · exact ⟨none, none, by simp [told.silent name known]⟩

theorem of_cleaned (told : state.CleanupsTold) {cleaner : Cleaner}
    (member : cleaner ∈ state.cleanups) (done : cleaner.stage = .cleaned) :
    ∃ stopFault removeFault, state.trail [.stop, .remove] cleaner.container =
      [.called .stop cleaner.container, .answered .stop cleaner.container stopFault,
        .called .remove cleaner.container, .answered .remove cleaner.container removeFault] := by
  have tells := told.told cleaner member
  simpa only [Cleaner.Tells, done] using tells

end CleanupsTold

namespace Cleaned

theorem exists_cleaner (cleaned : state.Cleaned) (cleanup : state.stage.isCleanup) {name : String}
    (known : name ∈ state.containers) : ∃ cleaner ∈ state.cleaners, cleaner.container = name := by
  rw [containers, ← cleaned.named cleanup] at known
  exact List.mem_map.mp known

theorem cleanups_names (cleaned : state.Cleaned) {name : String}
    (known : name ∈ state.cleanups.map Cleaner.container) :
    name = state.plan.identity.pauseName ∨ name ∈ state.containers := by
  simp only [cleanups, List.map_append, List.map_cons, List.map_nil, List.mem_append,
    List.mem_singleton, cleaned.pauseNamed] at known
  rcases known with application | pause
  · right
    cases begun : state.stage.isCleanup with
    | true =>
        rw [cleaned.named begun] at application
        exact application
    | false => simp [(cleaned.untouched begun).1] at application
  · exact Or.inl pause

theorem all_of_finished (cleaned : state.Cleaned) {result : Option RunError}
    (finished : state.result? = some result) :
    ∀ cleaner ∈ state.cleanups, cleaner.stage = .cleaned := by
  have last := cleaned.complete result (result?_eq_some.mp finished)
  intro cleaner member
  rcases List.mem_append.mp member with application | pause
  · exact cleaned.pauseLast (by simp [last]) cleaner application
  · rw [List.mem_singleton.mp pause]
    exact last

end Cleaned

/-- In a run that is over, the pause container was stopped and then removed. -/
theorem CleanupsTold.pause_of_finished (told : state.CleanupsTold) (cleaned : state.Cleaned)
    {result : Option RunError} (finished : state.result? = some result) :
    ∃ stopFault removeFault, state.trail [.stop, .remove] state.plan.identity.pauseName =
      [.called .stop state.plan.identity.pauseName,
        .answered .stop state.plan.identity.pauseName stopFault,
        .called .remove state.plan.identity.pauseName,
        .answered .remove state.plan.identity.pauseName removeFault] := by
  have last := List.mem_append_right state.cleaners (List.mem_singleton_self state.pauseCleaner)
  have trail := told.of_cleaned last (cleaned.all_of_finished finished _ last)
  rw [cleaned.pauseNamed] at trail
  exact trail

theorem CallsTold.of_returned (told : state.CallsTold)
    (returned : ∀ run ∈ state.runs, run.2.hasReturned) (name : String) :
    state.trail [.run] name = [] ∨
      ∃ fault, state.trail [.run] name = [.called .run name, .answered .run name fault] := by
  by_cases known : name ∈ state.runs.map Prod.fst
  · rcases List.mem_map.mp known with ⟨⟨name, call⟩, member, rfl⟩
    have tells := told.told _ member
    have ended := returned _ member
    right
    cases call with
    | due => simp [Call.hasReturned] at ended
    | running => simp [Call.hasReturned] at ended
    | returned result => exact ⟨faultOf result, tells⟩
    | noticed => exact tells
  · exact Or.inl (told.silent name known)

namespace Ordered

variable {before after : List Occurrence} {name : String}

theorem no_call_after_stop (ordered : state.Ordered)
    (seen : state.history = before ++ .called .stop name :: after) (other : String) :
    after.filter (Occurrence.concerns [.run] other) = [] := by
  rw [Ordered, seen] at ordered
  have rest := (List.pairwise_cons.mp (List.pairwise_append.mp ordered).2.1).1
  rw [List.filter_eq_nil_iff]
  intro later member
  have follows := rest later member name rfl
  cases later <;> simp_all [Occurrence.concerns]

theorem no_removal_after_pause_stop (ordered : state.Ordered)
    (seen : state.history = before ++ .called .stop state.plan.identity.pauseName :: after)
    {other : String} (apart : other ≠ state.plan.identity.pauseName) (fault : Option EngineError) :
    .answered .remove other fault ∉ after := by
  rw [Ordered, seen] at ordered
  have rest := (List.pairwise_cons.mp (List.pairwise_append.mp ordered).2.1).1
  intro member
  exact apart ((rest _ member _ rfl).2.2 rfl other fault rfl)

end Ordered

end State

namespace Reaches

variable {plan : Plan} {events : List Event} {state : State}

theorem ordered (path : Reaches plan events state) (distinct : plan.containerNames.Nodup) :
    state.Ordered := by
  apply path.invariant State.Ordered
  · exact List.Pairwise.nil
  · intro events state event next before holds transition
    exact holds.step (before.cleanupsTold distinct) before.started before.cleaned transition

theorem listed (path : Reaches plan events state) : state.Listed := by
  apply path.invariant State.Listed
  · simp [State.Listed, State.initial, State.containers]
  · intro events state event next _ holds transition
    exact holds.step transition

variable {before after : List Occurrence}

/-- When a container is stopped, the calls that run containers are over. -/
theorem calls_at_stop (path : Reaches plan events state) (distinct : plan.containerNames.Nodup)
    {name : String} (seen : state.history = before ++ .called .stop name :: after)
    (other : String) :
    after.filter (Occurrence.concerns [.run] other) = [] ∧
      (before.filter (Occurrence.concerns [.run] other) = [] ∨
        ∃ fault, before.filter (Occurrence.concerns [.run] other) =
          [.called .run other, .answered .run other fault]) := by
  have none := (path.ordered distinct).no_call_after_stop seen other
  have stopped : .called .stop name ∈ state.history := by simp [seen]
  have cleanup := (path.cleanupsTold distinct).isCleanup_of_stop path.cleaned stopped
  have ended := Stage.isOver_of_isCleanup cleanup
  have calls := (path.callsTold distinct).of_returned
    (fun run member => path.started.runs_returned ended member) other
  have trail : state.trail [.run] other = before.filter (Occurrence.concerns [.run] other) := by
    simp [State.trail, seen, none, Occurrence.concerns]
  rw [trail] at calls
  exact ⟨none, calls⟩

/-- When the pause container is stopped, every application container is removed. -/
theorem removals_at_pause_stop (path : Reaches plan events state)
    (distinct : plan.containerNames.Nodup)
    (seen : state.history = before ++ .called .stop plan.identity.pauseName :: after)
    {name : String} (launched : .launched name ∈ state.history) :
    ∃ fault, .answered .remove name fault ∈ before := by
  have told := path.cleanupsTold distinct
  have names := State.cleanups_names_nodup path.started path.cleaned (path.plan_eq ▸ distinct)
  rw [← path.plan_eq] at seen
  have stopped : .called .stop state.plan.identity.pauseName ∈ state.history := by simp [seen]
  have cleanup := told.isCleanup_of_stop path.cleaned stopped
  rcases path.cleaned.exists_cleaner cleanup ((path.listed name).mp launched) with
    ⟨cleaner, member, rfl⟩
  have done := told.cleaned_of_pause_stop path.cleaned stopped cleaner member
  rcases told.of_cleaned (List.mem_append_left _ member) done with ⟨_, fault, trail⟩
  have removed : .answered .remove cleaner.container fault ∈ state.history := by
    have last : .answered .remove cleaner.container fault ∈
        state.trail [.stop, .remove] cleaner.container := by simp [trail]
    exact (State.mem_trail.mp last).1
  have apart : cleaner.container ≠ state.plan.identity.pauseName := by
    rw [← path.cleaned.pauseNamed]
    simp only [State.cleanups, List.map_append, List.nodup_append] at names
    exact names.2.2 _ (List.mem_map_of_mem member) _ (by simp)
  have late := (path.ordered distinct).no_removal_after_pause_stop seen apart fault
  refine ⟨fault, ?_⟩
  rw [seen] at removed
  simpa [late] using removed

/-- In a run that is over, everything that was started was stopped and then removed. -/
theorem trail_of_finished (path : Reaches plan events state)
    (distinct : plan.containerNames.Nodup) {result : Option RunError}
    (finished : state.result? = some result) {name : String}
    (known : name = plan.identity.pauseName ∨ .launched name ∈ state.history) :
    ∃ stopFault removeFault, state.trail [.stop, .remove] name =
      [.called .stop name, .answered .stop name stopFault,
        .called .remove name, .answered .remove name removeFault] := by
  have told := path.cleanupsTold distinct
  have done := path.cleaned.all_of_finished finished
  have cleanup : state.stage.isCleanup := by
    simp [State.result?_eq_some.mp finished, Stage.isCleanup]
  rcases known with rfl | launched
  · rw [← path.plan_eq]
    exact told.pause_of_finished path.cleaned finished
  · rcases path.cleaned.exists_cleaner cleanup ((path.listed name).mp launched) with
      ⟨cleaner, member, rfl⟩
    have application := List.mem_append_left [state.pauseCleaner] member
    exact told.of_cleaned application (done _ application)

end Reaches

/--
Each container that was started, and the pause container, is stopped once and then removed once,
even if it could not be stopped, and no other container is. All calls that run containers are over
before anything is stopped, all removals before the pause container is, and every run can come to
its end.
-/
theorem cleanup_exactly_once {plan : Plan} {events : List Event} {state : State}
    (distinct : (plan.containers.map Prod.fst).Nodup)
    (unreserved : Identity.pauseRole ∉ plan.containers.map Prod.fst)
    (path : Reaches plan events state) :
    (∀ name, ∃ stopFault removeFault, state.trail [.stop, .remove] name <+:
      [.called .stop name, .answered .stop name stopFault,
        .called .remove name, .answered .remove name removeFault]) ∧
    (∀ name, name ≠ plan.identity.pauseName → .launched name ∉ state.history →
      state.trail [.stop, .remove] name = []) ∧
    (∀ result, state.result? = some result →
      ∀ name, name = plan.identity.pauseName ∨ .launched name ∈ state.history →
        ∃ stopFault removeFault, state.trail [.stop, .remove] name =
          [.called .stop name, .answered .stop name stopFault,
            .called .remove name, .answered .remove name removeFault]) ∧
    (∀ before name after, state.history = before ++ .called .stop name :: after →
      ∀ other, after.filter (Occurrence.concerns [.run] other) = [] ∧
        (before.filter (Occurrence.concerns [.run] other) = [] ∨
          ∃ fault, before.filter (Occurrence.concerns [.run] other) =
            [.called .run other, .answered .run other fault])) ∧
    (∀ before after, state.history = before ++ .called .stop plan.identity.pauseName :: after →
      ∀ name, .launched name ∈ state.history →
        ∃ fault, .answered .remove name fault ∈ before) ∧
    ∃ rest final result, follow step state rest = some final ∧ final.result? = some result := by
  have names := Plan.containerNames_nodup distinct unreserved
  refine ⟨(path.cleanupsTold names).begins, ?_, ?_, ?_, ?_, State.exists_completion path.started⟩
  · intro name apart unlaunched
    apply (path.cleanupsTold names).silent
    intro known
    rcases path.cleaned.cleanups_names known with pause | application
    · exact apart (path.plan_eq ▸ pause)
    · exact unlaunched ((path.listed name).mpr application)
  · intro result finished name known
    exact path.trail_of_finished names finished known
  · intro before name after seen other
    exact path.calls_at_stop names seen other
  · intro before after seen name launched
    exact path.removals_at_pause_stop names seen launched

/-- A run in which the container cannot be stopped. -/
def stubbornEvents : List Event :=
  [.begin, .call .pause, .poll, .pollAnswers (.ok true), .launch, .call (.application 0),
    .callReturns (.application 0) (.ok ()), .notice (.application 0), .noticeAllEnded,
    .callReturns .pause (.error .cancelled), .drained, .close, .stop (.application 0),
    .stopAnswers (.application 0) (.error .notInstalled), .remove (.application 0),
    .removeAnswers (.application 0) (.ok ()), .stop .pause, .stopAnswers .pause (.ok ()),
    .remove .pause, .removeAnswers .pause (.ok ()), .finish]

theorem stubborn_container_removed :
    ∃ state, Reaches .single stubbornEvents state ∧
      ∃ stopFault removeFault, state.trail [.stop, .remove] "web-shop-test-api" =
        [.called .stop "web-shop-test-api", .answered .stop "web-shop-test-api" stopFault,
          .called .remove "web-shop-test-api",
          .answered .remove "web-shop-test-api" removeFault] := by
  have distinct : (Plan.single.containers.map Prod.fst).Nodup := by decide
  have unreserved : Identity.pauseRole ∉ Plan.single.containers.map Prod.fst := by decide
  have path : Reaches .single stubbornEvents _ := rfl
  refine ⟨_, path, ?_⟩
  apply (cleanup_exactly_once distinct unreserved path).2.2.1 _ rfl
  right
  exact List.mem_iff_getElem?.mpr ⟨7, rfl⟩

end Workload.Run
