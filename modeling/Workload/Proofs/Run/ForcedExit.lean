import Workload.Proofs.Run.Announcement
import Workload.Proofs.Run.Cleanup
import Workload.Proofs.Run.Tally
import Workload.Run.Session

/-!
# One signal never abandons cleanup

The watcher and the forced exit hear the same signals, each only those that arrive while it listens.
The forced exit begins to listen when it sees that shutdown has begun, and by then the run has been
cancelled. So the signal that cancels a run came too early for the forced exit, and unless another
one follows, the forced exit stays idle and the run cleans up everything that it has started.
-/

namespace Workload.Run

/-- Shutdown has begun: one of the phases that arm the forced exit has been published. -/
def State.HasBegunShutdown (state : State) : Prop :=
  ∃ phase ∈ state.phases, phase.isShutdown

/-- The container that the engine was called for, if it is a call of the given kind. -/
def Occurrence.calledFor? (verb : Verb) : Occurrence → Option String
  | .called other container => if other = verb then some container else none
  | _ => none

/-- The containers that the engine was called for, in order. -/
def State.calledFor (state : State) (verb : Verb) : List String :=
  state.history.filterMap (Occurrence.calledFor? verb)

/-- Whether the call of the given kind was made during the cleanup of a container. -/
def CleanupStage.hasMade (verb : Verb) (stage : CleanupStage) : Bool :=
  match verb with
  | .stop => stage != .stopDue
  | .remove => stage = .removing || stage = .cleaned
  | _ => false

/-- The container of a cleanup, if the call of the given kind was made. -/
def Cleaner.calledFor (verb : Verb) (cleaner : Cleaner) : List String :=
  if cleaner.stage.hasMade verb then [cleaner.container] else []

/-! ## The calls of a cleanup -/

theorem reading_calledFor {verb : Verb} (cleaning : verb = .stop ∨ verb = .remove) :
    Reading (Cleaner.calledFor verb) (Occurrence.calledFor? verb) where
  fresh _ := by
    rcases cleaning with rfl | rfl <;> rfl
  other occurrence apart := by
    cases occurrence with
    | called other container =>
        rcases cleaning with rfl | rfl <;>
          cases other <;> simp_all [Occurrence.isOfCleanup, Occurrence.calledFor?]
    | _ => rfl
  advance advance := by
    rcases cleaning with rfl | rfl
    all_goals
      cases advance with
      | stop due => simp [Cleaner.calledFor, CleanupStage.hasMade, due, Occurrence.calledFor?,
          List.filterMap_cons]
      | stopAnswers result stopping =>
          cases result <;>
            simp [Cleaner.calledFor, CleanupStage.hasMade, stopping, faultOf, Occurrence.calledFor?]
      | remove due => simp [Cleaner.calledFor, CleanupStage.hasMade, due, Occurrence.calledFor?,
          List.filterMap_cons]
      | removeAnswers result removing =>
          cases result <;>
            simp [Cleaner.calledFor, CleanupStage.hasMade, removing, faultOf, Occurrence.calledFor?]

/-- In a run that is over, the call was made for each container that was started. -/
theorem Reaches.calledFor_perm {plan : Plan} {events : List Event} {state : State}
    (path : Reaches plan events state) {result : Option RunError}
    (finished : state.result? = some result) {verb : Verb}
    (cleaning : verb = .stop ∨ verb = .remove) :
    (state.calledFor verb).Perm (state.containers ++ [plan.identity.pauseName]) := by
  have cleaned := path.cleaned
  have cleanup : state.stage.isCleanup := by
    simp [State.result?_eq_some.mp finished, Stage.isCleanup]
  have made : ∀ cleaner ∈ state.cleanups, cleaner.calledFor verb = [cleaner.container] := by
    intro cleaner member
    have done := cleaned.all_of_finished finished cleaner member
    rcases cleaning with rfl | rfl <;> simp [Cleaner.calledFor, CleanupStage.hasMade, done]
  have tallies := path.tallies (reading_calledFor cleaning)
  have all : state.cleanups.flatMap (Cleaner.calledFor verb) =
      state.containers ++ [plan.identity.pauseName] := by
    rw [List.flatMap_congr made, ← path.plan_eq, ← cleaned.pauseNamed, State.containers,
      ← cleaned.named cleanup, State.cleanups]
    simp [List.map_eq_flatMap]
  rw [State.Tallies, all] at tallies
  exact tallies.symm

/-! ## The steps of a session -/

namespace Session

/-- What one event makes of a session, with one rule for each way in which it can happen. -/
inductive Transition (session : Session) : Event → Session → Prop where
  | run (event : Run.Event) (next : State) (taken : Run.step session.run event = some next)
      (heard : event = .interrupt → session.watcherHeard) :
      Transition session (.run event) { session with run := next }
  | watch (listening : session.run.watcher = .listening) (idle : session.watching = false) :
      Transition session .watch { session with watching := true }
  | signal :
      Transition session .signal
        { session with
          watcherHeard := session.watcherHeard ||
            (session.watching && session.run.watcher = .listening)
          forcedHeard := session.forcedHeard || session.forcedExit = .listening }
  | arm (waiting : session.forcedExit = .waiting) (begun : session.phase.isShutdown) :
      Transition session .arm { session with forcedExit := .listening }
  | force (listening : session.forcedExit = .listening) (heard : session.forcedHeard) :
      Transition session .force { session with forcedExit := .done }
  | abort (ended : session.run.result?.isSome) (pending : session.forcedExit ≠ .aborted) :
      Transition session .abort { session with forcedExit := .aborted }

variable {plan : Plan} {session next : Session} {event : Event} {events : List Event}

/-- Once the forced exit has acted nothing happens, and before that every step follows a rule. -/
theorem transition_of_step (taken : session.step event = some next) :
    session.forcedExit ≠ .done ∧ Transition session event next := by
  unfold step at taken
  split at taken
  · cases taken
  · rename_i active
    refine ⟨active, ?_⟩
    cases event with
    | run event =>
        -- The interrupt of a run waits until the watcher has heard a signal.
        cases event <;> simp only [Option.ite_none_right_eq_some, Option.map_eq_some_iff] at taken
        case interrupt =>
          rcases taken with ⟨heard, run, taken, rfl⟩
          exact .run _ run taken fun _ => heard
        all_goals
          rcases taken with ⟨run, taken, rfl⟩
          exact .run _ run taken nofun
    | signal =>
        cases taken
        exact .signal
    | watch =>
        simp only [Option.ite_none_right_eq_some, Option.some.injEq, Bool.and_eq_true,
          decide_eq_true_eq, Bool.not_eq_true'] at taken
        rcases taken with ⟨⟨listening, idle⟩, rfl⟩
        exact .watch listening idle
    | arm =>
        simp only [Option.ite_none_right_eq_some, Option.some.injEq, Bool.and_eq_true,
          decide_eq_true_eq] at taken
        rcases taken with ⟨⟨waiting, begun⟩, rfl⟩
        exact .arm waiting begun
    | force =>
        simp only [Option.ite_none_right_eq_some, Option.some.injEq, Bool.and_eq_true,
          decide_eq_true_eq] at taken
        rcases taken with ⟨⟨listening, heard⟩, rfl⟩
        exact .force listening heard
    | abort =>
        simp only [Option.ite_none_right_eq_some, Option.some.injEq, Bool.and_eq_true,
          bne_iff_ne] at taken
        rcases taken with ⟨⟨ended, pending⟩, rfl⟩
        exact .abort ended pending

/-- The events are one interleaving of a run of the plan with signals and the forced exit. -/
def Reaches (plan : Plan) (events : List Event) (session : Session) : Prop :=
  follow step { run := .initial plan } events = some session

/-- A signal has arrived when the session was as described. -/
def SignalledWhile (plan : Plan) (Holds : Session → Prop) (events : List Event) : Prop :=
  ∃ early late session, events = early ++ .signal :: late ∧ Reaches plan early session ∧
    Holds session

theorem SignalledWhile.concat {Holds : Session → Prop}
    (signalled : SignalledWhile plan Holds events) (event : Event) :
    SignalledWhile plan Holds (events ++ [event]) := by
  rcases signalled with ⟨early, late, session, rfl, reached, holds⟩
  exact ⟨early, late ++ [event], session, by simp, reached, holds⟩

theorem SignalledWhile.now {Holds : Session → Prop} (reached : Reaches plan events session)
    (holds : Holds session) : SignalledWhile plan Holds (events ++ [.signal]) :=
  ⟨events, [], session, rfl, reached, holds⟩

namespace Reaches

theorem induction (path : Reaches plan events session) (Holds : List Event → Session → Prop)
    (empty : Holds [] { run := .initial plan })
    (concat : ∀ events session event next, Reaches plan events session → Holds events session →
      session.forcedExit ≠ .done → Transition session event next →
        Holds (events ++ [event]) next) :
    Holds events session := by
  apply follow_induction Holds empty ?_ path
  intro events session event next reached holds taken
  rcases transition_of_step taken with ⟨active, transition⟩
  exact concat events session event next reached holds active transition

theorem exists_run (path : Reaches plan events session) :
    ∃ runEvents, Run.Reaches plan runEvents session.run := by
  apply path.induction (fun _ session => ∃ runEvents,
    Run.Reaches plan runEvents session.run) ⟨[], rfl⟩
  rintro events session event next _ ⟨runEvents, reached⟩ _ transition
  cases transition with
  | run event after taken heard =>
      exact ⟨runEvents ++ [event], follow_concat_eq_some.mpr ⟨session.run, reached, taken⟩⟩
  | _ => exact ⟨runEvents, reached⟩

end Reaches

end Session

/-! ## Shutdown begins with the cancellation of the run -/

/-- The phases published so far with which shutdown begins. -/
def State.shutdowns (state : State) : List Phase :=
  (phasesIn state.history).filter Phase.isShutdown

theorem State.hasBegunShutdown_iff {state : State} :
    state.HasBegunShutdown ↔ state.shutdowns ≠ [] := by
  rw [Ne, State.shutdowns, List.filter_eq_nil_iff, not_forall]
  simp only [not_forall, not_not, exists_prop]
  rfl

@[simp]
theorem State.shutdowns_proceed (state : State) (rest : List Application) :
    (state.proceed rest).shutdowns = state.shutdowns := by
  cases rest <;> simp [State.shutdowns, State.proceed, State.record, Phase.isShutdown]

theorem Transition.shutdowns_eq {state next : State} {event : Run.Event}
    (transition : Transition state event next) :
    next.shutdowns = state.shutdowns ∨ next.cancelled.isSome := by
  cases transition with
  | noticeCancellation supervising cancelled first => exact Or.inr cancelled
  | close result closing settled => simp [State.record, State.cancelBy]
  | noticeAllEnded supervising ended => simp [State.record, State.cancelBy]
  | clean target result cleaner after event occurrences cleaning current allowed advance =>
      left
      cases advance <;>
        simp [State.shutdowns, State.record, State.withCleaner, phasesIn_map_announced]
  | confirmed polling =>
      left
      rw [State.confirm, State.shutdowns_proceed]
      simp [State.shutdowns, State.record, Phase.isShutdown]
  | launch application rest launching =>
      left
      rw [State.shutdowns_proceed]
      simp [State.shutdowns, State.record]
  | _ =>
      left
      simp [State.shutdowns, State.record, State.abandon, State.fail, State.cancelBy,
        State.withCall, Phase.isShutdown]

theorem Reaches.cancelled_of_hasBegunShutdown {plan : Plan} {events : List Run.Event}
    {state : State} (path : Reaches plan events state) (begun : state.HasBegunShutdown) :
    state.cancelled.isSome := by
  revert begun
  rw [State.hasBegunShutdown_iff]
  apply path.invariant fun state => state.shutdowns ≠ [] → state.cancelled.isSome
  · intro begun
    cases begun rfl
  · intro events state event next _ earlier transition begun
    rcases transition.shutdowns_eq with same | cancelled
    · rw [same] at begun
      exact transition.cancelled_isSome (earlier begun)
    · exact cancelled

/-! ## What a signal is heard for -/

theorem State.operator_of_transition {state next : State} {event : Run.Event}
    (transition : Transition state event next) (cancelled : next.cancelled = some .operator) :
    state.cancelled = some .operator ∨
      state.cancelled = none ∧ state.watcher = .interrupting := by
  cases transition with
  | cancel interrupting =>
      cases before : state.cancelled with
      | none => exact Or.inr ⟨rfl, interrupting⟩
      | some canceller =>
          left
          simpa [cancelBy, before] using cancelled
  | confirmed polling => exact Or.inl cancelled
  | launch application rest launching => exact Or.inl cancelled
  | clean target result cleaner after event occurrences cleaning current allowed advance =>
      exact Or.inl cancelled
  | _ =>
      left
      simpa [record, abandon, fail, withCall, cancelBy, getD_run_eq_operator] using cancelled

theorem State.interrupting_of_transition {state next : State} {event : Run.Event}
    (transition : Transition state event next) (interrupting : next.watcher = .interrupting) :
    state.watcher = .interrupting ∨ event = .interrupt := by
  cases transition with
  | confirmed polling => exact Or.inl interrupting
  | launch application rest launching => exact Or.inl interrupting
  | clean target result cleaner after event occurrences cleaning current allowed advance =>
      exact Or.inl interrupting
  | _ => simp_all [record, abandon, fail, withCall, cancelBy]

namespace Session

variable {plan : Plan} {session : Session} {events : List Event}

/-- The forced exit listens, or it has acted, only when shutdown has begun. -/
theorem Reaches.hasBegunShutdown (path : Reaches plan events session) :
    session.forcedExit = .listening ∨ session.forcedExit = .done →
      session.run.HasBegunShutdown := by
  apply path.induction fun _ session =>
    session.forcedExit = .listening ∨ session.forcedExit = .done → session.run.HasBegunShutdown
  · simp
  · intro events session event next reached begun active transition alert
    cases transition with
    | run event after taken heard =>
        rcases begun alert with ⟨phase, published, shutdown⟩
        exact ⟨phase, (Run.transition_of_step taken).mem_phases published, shutdown⟩
    | arm waiting begun =>
        cases last : session.run.phases.getLast? with
        | none =>
            rw [phase, last] at begun
            cases begun
        | some phase =>
            rw [Session.phase, last] at begun
            exact ⟨phase, List.mem_of_getLast? last, begun⟩
    | force listening heard => exact begun (Or.inl listening)
    | abort ended pending => simp at alert
    | watch listening idle => exact begun alert
    | signal => exact begun alert

/-- What the forced exit has heard arrived while it listened. -/
theorem Reaches.signalled_of_forcedHeard (path : Reaches plan events session) :
    session.forcedHeard = true →
      SignalledWhile plan (fun session => session.forcedExit = .listening) events := by
  apply path.induction fun events session => session.forcedHeard = true →
    SignalledWhile plan (fun session => session.forcedExit = .listening) events
  · simp
  · intro events session event next reached signalled active transition heard
    cases transition with
    | signal =>
        simp only [Bool.or_eq_true, decide_eq_true_eq] at heard
        rcases heard with before | listening
        · exact (signalled before).concat _
        · exact .now reached listening
    | _ => exact (signalled heard).concat _

theorem Reaches.forcedHeard_of_done (path : Reaches plan events session) :
    session.forcedExit = .done → session.forcedHeard = true := by
  apply path.induction fun _ session =>
    session.forcedExit = .done → session.forcedHeard = true
  · simp
  · intro events session event next reached heard active transition done
    cases transition with
    | force listening heard => exact heard
    | arm waiting begun => cases done
    | abort ended pending => cases done
    | _ => exact absurd done active

/-- An interruption that has not come to its end yet, or has, goes back to a signal. -/
structure Attributed (plan : Plan) (events : List Event) (session : Session) : Prop where
  heard : session.run.cancelled = none → session.watcherHeard = true →
    SignalledWhile plan (fun session => session.run.cancelled = none) events
  interrupting : session.run.cancelled = none → session.run.watcher = .interrupting →
    SignalledWhile plan (fun session => session.run.cancelled = none) events
  cancelled : session.run.cancelled = some .operator →
    SignalledWhile plan (fun session => session.run.cancelled = none) events

theorem Attributed.of_eq {next : Session} (attributed : Attributed plan events session)
    (run : next.run = session.run) (heard : next.watcherHeard = session.watcherHeard)
    (event : Event) : Attributed plan (events ++ [event]) next := by
  constructor
  · rw [run, heard]
    intro uncancelled heard
    exact (attributed.heard uncancelled heard).concat event
  · rw [run]
    intro uncancelled interrupting
    exact (attributed.interrupting uncancelled interrupting).concat event
  · rw [run]
    intro cancelled
    exact (attributed.cancelled cancelled).concat event

theorem Attributed.run {event : Run.Event} {next : State}
    (attributed : Attributed plan events session)
    (transition : Run.Transition session.run event next)
    (heard : event = .interrupt → session.watcherHeard) :
    Attributed plan (events ++ [.run event]) { session with run := next } := by
  have uncancelled : next.cancelled = none → session.run.cancelled = none := by
    intro none
    by_contra some
    have still := transition.cancelled_isSome (Option.isSome_iff_ne_none.mpr some)
    simp [none] at still
  constructor
  · intro none heard
    exact (attributed.heard (uncancelled none) heard).concat _
  · intro none interrupting
    rcases State.interrupting_of_transition transition interrupting with before | rfl
    · exact (attributed.interrupting (uncancelled none) before).concat _
    · exact (attributed.heard (uncancelled none) (heard rfl)).concat _
  · intro cancelled
    rcases State.operator_of_transition transition cancelled with before | ⟨none, interrupting⟩
    · exact (attributed.cancelled before).concat _
    · exact (attributed.interrupting none interrupting).concat _

theorem Reaches.attributed (path : Reaches plan events session) :
    Attributed plan events session := by
  apply path.induction (Attributed plan)
  · constructor <;> simp [State.initial]
  · intro events session event next reached attributed active transition
    cases transition with
    | run event after taken heard => exact attributed.run (Run.transition_of_step taken) heard
    | signal =>
        refine ⟨?_, ?_, ?_⟩
        · intro uncancelled _
          exact .now reached uncancelled
        · intro uncancelled _
          exact .now reached uncancelled
        · intro cancelled
          exact (attributed.cancelled cancelled).concat _
    | watch listening idle => apply attributed.of_eq <;> rfl
    | arm waiting begun => apply attributed.of_eq <;> rfl
    | force listening heard => apply attributed.of_eq <;> rfl
    | abort ended pending => apply attributed.of_eq <;> rfl

/-- The event is a signal. -/
def Event.isSignal : Event → Bool
  | .signal => true
  | _ => false

/-- If there is only one signal then there is only one place where it stands. -/
theorem early_eq_of_single {early other late rest : List Event}
    (single : (early ++ Event.signal :: late).countP Event.isSignal ≤ 1)
    (same : early ++ Event.signal :: late = other ++ Event.signal :: rest) : early = other := by
  simp only [List.countP_append, List.countP_cons, Event.isSignal, if_true] at single
  have before : early.countP Event.isSignal = 0 := by omega
  have after : late.countP Event.isSignal = 0 := by omega
  rw [List.countP_eq_zero] at before after
  rcases List.append_eq_append_iff.mp same with ⟨between, split, onward⟩ | ⟨between, split, onward⟩
  · cases between with
    | nil => simpa using split.symm
    | cons first others =>
        rw [List.cons_append, List.cons.injEq] at onward
        have again := after .signal (by simp [onward.2])
        exact absurd rfl again
  · cases between with
    | nil => simpa using split
    | cons first others =>
        rw [List.cons_append, List.cons.injEq] at onward
        have again := before first (by simp [split])
        rw [← onward.1] at again
        exact absurd rfl again

/-- A signal that cancels the run came before the forced exit listened. -/
theorem Reaches.unheard_of_single (path : Reaches plan events session)
    (single : events.countP Event.isSignal ≤ 1)
    (cancelled : session.run.cancelled = some .operator) : session.forcedHeard = false := by
  rw [← Bool.not_eq_true]
  intro heard
  rcases path.signalled_of_forcedHeard heard with ⟨early, late, middle, rfl, reached, listening⟩
  rcases path.attributed.cancelled cancelled with ⟨other, rest, earlier, same, first, uncancelled⟩
  have place := early_eq_of_single single same
  subst place
  have here : some middle = some earlier := reached.symm.trans first
  cases here
  rcases reached.exists_run with ⟨runEvents, runReached⟩
  have begun := reached.hasBegunShutdown (Or.inl listening)
  have already := runReached.cancelled_of_hasBegunShutdown begun
  simp [uncancelled] at already

end Session

/-! ## The run goes on without its watcher -/

theorem Reaches.ended_of_operator {plan : Plan} {events : List Run.Event} {state : State}
    (path : Reaches plan events state) :
    state.cancelled = some .operator → state.watcher = .ended := by
  apply path.invariant fun state => state.cancelled = some .operator → state.watcher = .ended
  · simp [State.initial]
  · intro events state event next reached ended transition cancelled
    cases transition with
    | confirmed polling => exact ended cancelled
    | launch application rest launching => exact ended cancelled
    | clean target result cleaner after event occurrences cleaning current allowed advance =>
        exact ended cancelled
    | _ =>
        simp_all [State.record, State.abandon, State.fail, State.withCall, State.cancelBy,
          State.getD_run_eq_operator]

theorem Transition.watcher_ended {state next : State} {event : Run.Event}
    (transition : Transition state event next) (ended : state.watcher = .ended) :
    next.watcher = .ended ∧ event ≠ .interrupt := by
  cases transition with
  | confirmed polling => exact ⟨ended, nofun⟩
  | launch application rest launching => exact ⟨ended, nofun⟩
  | clean target result cleaner after event occurrences cleaning current allowed advance =>
      cases advance <;> exact ⟨ended, nofun⟩
  | _ =>
      simp_all [State.record, State.abandon, State.fail, State.withCall, State.cancelBy]

namespace Session

variable {plan : Plan} {session : Session} {events : List Event}

theorem step_run {event : Run.Event} {next : State} (active : session.forcedExit ≠ .done)
    (other : event ≠ .interrupt) (taken : Run.step session.run event = some next) :
    session.step (.run event) = some { session with run := next } := by
  cases event <;> simp_all [step]

theorem follow_run {rest : List Run.Event} {final : State} (active : session.forcedExit ≠ .done)
    (ended : session.run.watcher = .ended) (path : follow Run.step session.run rest = some final) :
    follow step session (rest.map .run) = some { session with run := final } := by
  induction rest generalizing session with
  | nil =>
      cases path
      rfl
  | cons event rest hypothesis =>
      rcases follow_cons_eq_some.mp path with ⟨next, taken, onward⟩
      rcases (Run.transition_of_step taken).watcher_ended ended with ⟨still, other⟩
      have further : follow step { session with run := next } (rest.map .run) =
          some { session with run := final } := hypothesis active still onward
      exact follow_cons_eq_some.mpr ⟨_, step_run active other taken, further⟩

/-- What the forced exit heard came after shutdown had begun, and it is the last to act. -/
theorem Reaches.of_force {before after : List Event}
    (path : Reaches plan (before ++ .force :: after) session) :
    after = [] ∧ session.forcedExit = .done ∧
      SignalledWhile plan (fun middle => middle.forcedExit = .listening ∧
        middle.run.HasBegunShutdown) before := by
  rcases follow_append_eq_some.mp path with ⟨earlier, reached, rest⟩
  rcases follow_cons_eq_some.mp rest with ⟨done, taken, onward⟩
  rcases transition_of_step taken with ⟨_, transition⟩
  cases transition with
  | force listening heard =>
      have nothing : after = [] ∧ session.forcedExit = .done := by
        cases after with
        | nil =>
            cases onward
            exact ⟨rfl, rfl⟩
        | cons event others =>
            rcases follow_cons_eq_some.mp onward with ⟨next, again, _⟩
            exact absurd rfl (transition_of_step again).1
      refine ⟨nothing.1, nothing.2, ?_⟩
      have signalled := Reaches.signalled_of_forcedHeard reached heard
      rcases signalled with ⟨early, late, middle, split, before, alert⟩
      exact ⟨early, late, middle, split, before, alert, before.hasBegunShutdown (Or.inl alert)⟩

/--
The forced exit acts once at most, and only for a signal that arrived while it listened, which is
after shutdown had begun. If the only signal is the one that the run was cancelled for, it does not
act: the run can come to its end, and then each container that was started, and the pause container,
has been stopped and removed once.
-/
theorem single_signal_never_abandons_cleanup {plan : Plan} {events : List Event} {session : Session}
    (path : Reaches plan events session) :
    (∀ before after, events = before ++ .force :: after → after = [] ∧
      ∃ early late middle, before = early ++ .signal :: late ∧ Reaches plan early middle ∧
        middle.forcedExit = .listening ∧ middle.run.HasBegunShutdown) ∧
    (events.countP Event.isSignal ≤ 1 → session.run.cancelled = some .operator →
      .force ∉ events ∧
      (∃ (rest : List Run.Event) (final : Session) (result : Option RunError),
        follow step session (rest.map .run) = some final ∧ final.run.result? = some result) ∧
      ∀ result, session.run.result? = some result → ∀ verb, verb = .stop ∨ verb = .remove →
        (session.run.calledFor verb).Perm
          (session.run.containers ++ [plan.identity.pauseName])) := by
  constructor
  · rintro before after rfl
    rcases path.of_force with ⟨last, _, early, late, middle, split, reached, alert, begun⟩
    exact ⟨last, early, late, middle, split, reached, alert, begun⟩
  · intro single cancelled
    have active : session.forcedExit ≠ .done := by
      intro done
      have unheard := path.unheard_of_single single cancelled
      simp [path.forcedHeard_of_done done] at unheard
    rcases path.exists_run with ⟨runEvents, reached⟩
    refine ⟨?_, ?_, ?_⟩
    · intro forced
      rcases List.append_of_mem forced with ⟨before, after, rfl⟩
      exact active path.of_force.2.1
    · rcases State.exists_completion reached.started with ⟨rest, final, result, onward, finished⟩
      have ended := reached.ended_of_operator cancelled
      exact ⟨rest, _, result, follow_run active ended onward, finished⟩
    · intro result finished verb cleaning
      exact reached.calledFor_perm finished cleaning

/-- The operator interrupts a run that waits for its pause container, and shutdown begins. -/
def interruptedEvents : List Event :=
  .watch :: [.begin, .call .pause, .poll, .pollAnswers (.ok false)].map .run ++ .signal ::
    [.interrupt, .cancel, .stopPolling, .callReturns .pause (.error .cancelled), .drained,
      .close].map .run ++ [.arm]

/-- The run stops and removes the pause container, and is over. -/
def cleaningEvents : List Event :=
  [.stop .pause, .stopAnswers .pause (.ok ()), .remove .pause, .removeAnswers .pause (.ok ()),
    .finish].map .run ++ [.abort]

theorem second_signal_forces_exit :
    (∃ session, Reaches .single (interruptedEvents ++ [.signal, .force]) session ∧
      SignalledWhile .single (fun middle => middle.run.HasBegunShutdown)
        (interruptedEvents ++ [.signal])) ∧
    ∃ session, Reaches .single (interruptedEvents ++ cleaningEvents) session ∧
      .force ∉ interruptedEvents ++ cleaningEvents ∧ session.run.result? = some none ∧
      (session.run.calledFor .remove).Perm ["pause-shop-test-api"] := by
  constructor
  · have path : Reaches .single (interruptedEvents ++ [.signal, .force]) _ := rfl
    have forced := (single_signal_never_abandons_cleanup path).1
    rcases forced (interruptedEvents ++ [.signal]) [] rfl with
      ⟨_, early, late, middle, split, reached, _, begun⟩
    exact ⟨_, path, early, late, middle, split, reached, begun⟩
  · have path : Reaches .single (interruptedEvents ++ cleaningEvents) _ := rfl
    rcases (single_signal_never_abandons_cleanup path).2 (by decide) rfl with ⟨calm, _, cleaned⟩
    exact ⟨_, path, calm, rfl, cleaned none rfl .remove (Or.inr rfl)⟩

end Session

end Workload.Run
