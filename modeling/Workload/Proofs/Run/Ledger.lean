import Workload.Proofs.Run.Containers

/-!
# What an observer has seen of each container

The calls of the engine and its answers are seen as one list, in which those about different
containers are mixed in any order. The trail of a name is what that list says of it. If the plan
names its containers apart, the trail of each container tells exactly how far its call and its
cleanup have come, and no other name has a trail.
-/

namespace Workload.Run

/-- A call for one of the given purposes about the container of the given name, or its answer. -/
def Occurrence.concerns (verbs : List Verb) (name : String) : Occurrence → Bool
  | .called verb container => verb ∈ verbs && container = name
  | .answered verb container _ => verb ∈ verbs && container = name
  | _ => false

/-- The calls for the given purposes about a container, and their answers, in order. -/
def State.trail (state : State) (verbs : List Verb) (name : String) : List Occurrence :=
  state.history.filter (Occurrence.concerns verbs name)

theorem State.trail_record (state : State) (occurrences : List Occurrence) (verbs : List Verb)
    (name : String) :
    (state.record occurrences).trail verbs name =
      state.trail verbs name ++ occurrences.filter (Occurrence.concerns verbs name) := by
  simp [trail, record]

/-- The trail that the call of a container leaves. -/
def Call.Tells (name : String) : Call → List Occurrence → Prop
  | .due, trail => trail = []
  | .running, trail => trail = [.called .run name]
  | .returned result, trail => trail = [.called .run name, .answered .run name (faultOf result)]
  | .noticed, trail => ∃ fault, trail = [.called .run name, .answered .run name fault]

/-- The trail that the cleanup of a container leaves. -/
def Cleaner.Tells (cleaner : Cleaner) (trail : List Occurrence) : Prop :=
  match cleaner.stage with
  | .stopDue => trail = []
  | .stopping => trail = [.called .stop cleaner.container]
  | .removeDue =>
      ∃ fault, trail =
        [.called .stop cleaner.container, .answered .stop cleaner.container fault]
  | .removing =>
      ∃ fault, trail =
        [.called .stop cleaner.container, .answered .stop cleaner.container fault,
          .called .remove cleaner.container]
  | .cleaned =>
      ∃ stopFault removeFault, trail =
        [.called .stop cleaner.container, .answered .stop cleaner.container stopFault,
          .called .remove cleaner.container, .answered .remove cleaner.container removeFault]

namespace Cleaner.Advance

variable {target : Target} {cleaner after : Cleaner} {event : Event}
  {occurrences : List Occurrence}

theorem silent_run (advance : cleaner.Advance target event after occurrences) (name : String) :
    occurrences.filter (Occurrence.concerns [.run] name) = [] := by
  cases advance <;> simp [Occurrence.concerns]

theorem silent_other (advance : cleaner.Advance target event after occurrences)
    (verbs : List Verb) {name : String} (apart : name ≠ cleaner.container) :
    occurrences.filter (Occurrence.concerns verbs name) = [] := by
  cases advance <;> simp [Occurrence.concerns, apart.symm]

theorem tells (advance : cleaner.Advance target event after occurrences)
    {trail : List Occurrence} (told : cleaner.Tells trail) :
    after.Tells (trail ++
      occurrences.filter (Occurrence.concerns [.stop, .remove] cleaner.container)) := by
  cases advance with
  | stop due =>
      simp only [Cleaner.Tells, due] at told
      simp [Cleaner.Tells, Occurrence.concerns, told]
  | stopAnswers result stopping =>
      simp only [Cleaner.Tells, stopping] at told
      refine ⟨faultOf result, ?_⟩
      simp [Occurrence.concerns, told]
  | remove due =>
      simp only [Cleaner.Tells, due] at told
      rcases told with ⟨fault, rfl⟩
      refine ⟨fault, ?_⟩
      simp [Occurrence.concerns]
  | removeAnswers result removing =>
      simp only [Cleaner.Tells, removing] at told
      rcases told with ⟨fault, rfl⟩
      refine ⟨fault, faultOf result, ?_⟩
      simp [Occurrence.concerns]

end Cleaner.Advance

/-- Each item is told by the trail of its name, and no other name has a trail. -/
structure Ledger {Item : Type} (name : Item → String) (Tells : Item → List Occurrence → Prop)
    (items : List Item) (trail : String → List Occurrence) : Prop where
  told : ∀ item ∈ items, Tells item (trail (name item))
  silent : ∀ other ∉ items.map name, trail other = []

namespace Ledger

variable {Item : Type} {name : Item → String} {Tells : Item → List Occurrence → Prop}
  {items before after : List Item} {trail later : String → List Occurrence} {item old new : Item}

theorem congr (ledger : Ledger name Tells items trail)
    (same : ∀ other, later other = trail other) : Ledger name Tells items later := by
  constructor
  · intro item member
    rw [same]
    exact ledger.told item member
  · intro other unknown
    rw [same]
    exact ledger.silent other unknown

theorem replace (ledger : Ledger name Tells (before ++ old :: after) trail)
    (distinct : ((before ++ old :: after).map name).Nodup) (named : name new = name old)
    (others : ∀ other ≠ name old, later other = trail other)
    (changed : Tells new (later (name old))) :
    Ledger name Tells (before ++ new :: after) later := by
  simp only [List.map_append, List.map_cons, List.nodup_append, List.nodup_cons] at distinct
  constructor
  · intro item member
    rcases List.mem_append.mp member with earlier | rest
    · have apart : name item ≠ name old :=
        distinct.2.2 _ (List.mem_map_of_mem earlier) _ (List.mem_cons_self ..)
      rw [others _ apart]
      exact ledger.told item (List.mem_append_left _ earlier)
    · rcases List.mem_cons.mp rest with rfl | further
      · rw [named]
        exact changed
      · have apart : name item ≠ name old := by
          intro same
          exact distinct.2.1.1 (same ▸ List.mem_map_of_mem further)
        rw [others _ apart]
        exact ledger.told item (List.mem_append_right _ (List.mem_cons_of_mem _ further))
  · intro other unknown
    simp only [List.map_append, List.map_cons, named] at unknown
    have apart : other ≠ name old := by
      rintro rfl
      exact unknown (List.mem_append_right _ (List.mem_cons_self ..))
    rw [others _ apart]
    exact ledger.silent other (by simpa using unknown)

theorem add (item : Item) (ledger : Ledger name Tells items trail)
    (fresh : name item ∉ items.map name) (untold : Tells item []) :
    Ledger name Tells (items ++ [item]) trail := by
  constructor
  · intro candidate member
    rcases List.mem_append.mp member with earlier | last
    · exact ledger.told candidate earlier
    · rw [List.mem_singleton.mp last, ledger.silent _ fresh]
      exact untold
  · intro other unknown
    apply ledger.silent
    intro known
    exact unknown (by simp only [List.map_append]; exact List.mem_append_left _ known)

end Ledger

namespace State

/-- The trails of all names tell how far the calls that run containers have come. -/
def CallsTold (state : State) : Prop :=
  Ledger Prod.fst (fun run => run.2.Tells run.1) state.runs (state.trail [.run])

/-- The trails of all names tell how far the cleanups of containers have come. -/
def CleanupsTold (state : State) : Prop :=
  Ledger Cleaner.container Cleaner.Tells state.cleanups (state.trail [.stop, .remove])

theorem cleanupsTold_initial (plan : Plan) : CleanupsTold (.initial plan) := by
  constructor <;> simp [cleanups, initial, trail, Cleaner.Tells]

variable {state next : State} {event : Event}

namespace CallsTold

theorem of_eq (told : state.CallsTold) (runs : next.runs = state.runs)
    (trail : ∀ name, next.trail [.run] name = state.trail [.run] name) : next.CallsTold := by
  rw [CallsTold, runs]
  exact Ledger.congr told trail

theorem withCall (told : state.CallsTold) (started : state.Started)
    (distinct : state.plan.containerNames.Nodup) {target : Target} {old new : Call}
    (current : state.call? target = some old) {occurrences : List Occurrence}
    (others : ∀ name ≠ state.containerOf target,
      occurrences.filter (Occurrence.concerns [.run] name) = [])
    (changed : ∀ trail, old.Tells (state.containerOf target) trail →
      new.Tells (state.containerOf target) (trail ++
        occurrences.filter (Occurrence.concerns [.run] (state.containerOf target)))) :
    ((state.withCall target new).record occurrences).CallsTold := by
  rcases exists_runs_split current with ⟨before, after, split, replaced⟩
  have names := (runs_names_sublist started).nodup distinct
  have ledger := told
  rw [CallsTold, split] at ledger
  rw [split] at names
  have runs : ((state.withCall target new).record occurrences).runs =
      before ++ (state.containerOf target, new) :: after := replaced new
  have named : Prod.fst (state.containerOf target, new) =
      Prod.fst (state.containerOf target, old) := rfl
  rw [CallsTold, runs]
  apply ledger.replace names named
  · intro other apart
    rw [trail_record, others other apart, List.append_nil]
    rfl
  · rw [trail_record]
    exact changed _ (ledger.told _ (List.mem_append_right _ (List.mem_cons_self ..)))

theorem add (told : state.CallsTold) (name : String)
    (runs : next.runs = state.runs ++ [(name, .due)]) (distinct : (next.runs.map Prod.fst).Nodup)
    (trail : ∀ name, next.trail [.run] name = state.trail [.run] name) : next.CallsTold := by
  simp only [runs, List.map_append, List.map_cons, List.map_nil, List.nodup_append] at distinct
  have fresh : name ∉ state.runs.map Prod.fst := by
    intro known
    exact distinct.2.2 name known name (List.mem_singleton_self name) rfl
  have untold : Call.Tells name .due [] := rfl
  rw [CallsTold, runs]
  exact (Ledger.add (name, Call.due) told fresh untold).congr trail

theorem notice (told : state.CallsTold) (started : state.Started)
    (distinct : state.plan.containerNames.Nodup) {target : Target}
    {result : Except EngineError Unit} (returned : state.call? target = some (.returned result)) :
    (state.withCall target .noticed).CallsTold := by
  have seen : ((state.withCall target .noticed).record []).CallsTold := by
    apply told.withCall started distinct returned
    · intro _ _
      rfl
    · rintro _ rfl
      exact ⟨faultOf result, rfl⟩
  exact seen.of_eq rfl (by simp [trail, record])

theorem step (told : state.CallsTold) (started : state.Started)
    (distinct : state.plan.containerNames.Nodup) (transition : Transition state event next) :
    next.CallsTold := by
  have names : (next.runs.map Prod.fst).Nodup := by
    refine (runs_names_sublist (started.step transition)).nodup ?_
    rw [transition.plan_eq]
    exact distinct
  cases transition with
  | begin ready =>
      have none := started.noneYet (by simp [ready, Stage.isBeforeLaunch])
      have unstarted : state.runs = [] := by simp [runs, started.idle ready, none]
      apply told.add state.plan.identity.pauseName ?_ names
      · simp [trail, record, Occurrence.concerns]
      · rw [unstarted]
        simp [runs, record, none]
  | call target due =>
      refine told.withCall started distinct due ?_ ?_
      · intro name apart
        simp [Occurrence.concerns, apart.symm]
      · rintro _ rfl
        simp [Occurrence.concerns, Call.Tells]
  | callReturns target result running =>
      refine told.withCall started distinct running ?_ ?_
      · intro name apart
        simp [Occurrence.concerns, apart.symm]
      · rintro _ rfl
        simp [Occurrence.concerns, Call.Tells]
  | launch application rest launching =>
      apply told.add application.specification.container ?_ names
      · simp [trail, record, proceed, Occurrence.concerns]
      · simp [runs, record, proceed]
  | confirmed polling =>
      refine told.of_eq rfl ?_
      simp [trail, record, confirm, proceed, Occurrence.concerns]
  | pauseEndsEarly result returned startup =>
      have pauseReturned : state.call? .pause = some (.returned result) := returned
      refine (told.notice started distinct pauseReturned).of_eq rfl ?_
      simp [trail, record, abandon, cancelBy, Occurrence.concerns]
  | pauseEnds result returned supervising =>
      have pauseReturned : state.call? .pause = some (.returned result) := returned
      refine (told.notice started distinct pauseReturned).of_eq rfl ?_
      simp [trail, record, fail, cancelBy, Occurrence.concerns]
  | applicationEnds index application returned supervising =>
      refine (told.notice started distinct (call?_application returned)).of_eq rfl ?_
      simp [trail, record, Occurrence.concerns]
  | applicationFails index application fault returned supervising =>
      refine (told.notice started distinct (call?_application returned)).of_eq rfl ?_
      simp [trail, record, fail, cancelBy, Occurrence.concerns]
  | noticeAllEnded supervising ended =>
      refine told.of_eq rfl ?_
      cases cancelling : state.cancelling <;>
        simp [trail, record, cancelBy, Occurrence.concerns]
  | clean target result cleaner after event occurrences cleaning current allowed advance =>
      refine told.of_eq rfl ?_
      intro name
      rw [trail_record, advance.silent_run, List.append_nil]
      rfl
  | _ =>
      refine told.of_eq rfl ?_
      simp [trail, record, abandon, cancelBy, Occurrence.concerns]

end CallsTold

namespace CleanupsTold

theorem of_eq (told : state.CleanupsTold) (cleanups : next.cleanups = state.cleanups)
    (trail : ∀ name, next.trail [.stop, .remove] name = state.trail [.stop, .remove] name) :
    next.CleanupsTold := by
  rw [CleanupsTold, cleanups]
  exact Ledger.congr told trail

/-- Before cleanup begins nothing was said of any cleanup. -/
theorem trail_eq_nil (told : state.CleanupsTold) (cleaned : state.Cleaned)
    (before : state.stage.isCleanup = false) (name : String) :
    state.trail [.stop, .remove] name = [] := by
  have fresh := cleaned.untouched before
  rw [CleanupsTold, cleanups, fresh.1, fresh.2] at told
  by_cases pause : name = state.plan.identity.pauseName
  · subst name
    exact told.told _ (List.mem_singleton_self _)
  · exact told.silent name (by simpa using pause)

theorem clean (told : state.CleanupsTold) (distinct : (state.cleanups.map Cleaner.container).Nodup)
    {target : Target} {cleaner after : Cleaner} {occurrences : List Occurrence}
    (current : state.cleaner? target = some cleaner)
    (advance : cleaner.Advance target event after occurrences) :
    ((state.withCleaner target after).record occurrences).CleanupsTold := by
  rcases exists_cleanups_split current with ⟨earlier, later, split, replaced⟩
  have ledger := told
  rw [CleanupsTold, split] at ledger
  rw [split] at distinct
  have cleanups : ((state.withCleaner target after).record occurrences).cleanups =
      earlier ++ after :: later := replaced after
  rw [CleanupsTold, cleanups]
  apply ledger.replace distinct advance.container_eq
  · intro other apart
    rw [trail_record, advance.silent_other _ apart, List.append_nil]
    rfl
  · rw [trail_record]
    exact advance.tells (ledger.told _ (List.mem_append_right _ (List.mem_cons_self ..)))

theorem step (told : state.CleanupsTold) (cleaned : state.Cleaned)
    (distinct : (state.cleanups.map Cleaner.container).Nodup)
    (transition : Transition state event next) : next.CleanupsTold := by
  cases transition with
  | confirmed polling =>
      refine told.of_eq rfl ?_
      simp [trail, record, confirm, proceed, Occurrence.concerns]
  | launch application rest launching =>
      refine told.of_eq rfl ?_
      simp [trail, record, proceed, Occurrence.concerns]
  | pauseEndsEarly result returned startup =>
      refine told.of_eq rfl ?_
      simp [trail, record, abandon, cancelBy, withCall, Occurrence.concerns]
  | pauseEnds result returned supervising =>
      refine told.of_eq rfl ?_
      simp [trail, record, fail, cancelBy, withCall, Occurrence.concerns]
  | applicationFails index application fault returned supervising =>
      refine told.of_eq rfl ?_
      simp [trail, record, fail, cancelBy, withCall, Occurrence.concerns]
  | noticeAllEnded supervising ended =>
      refine told.of_eq rfl ?_
      cases cancelling : state.cancelling <;>
        simp [trail, record, cancelBy, Occurrence.concerns]
  | close result closing settled =>
      have before : state.stage.isCleanup = false := by simp [closing, Stage.isCleanup]
      have fresh := (cleaned.untouched before).2
      have nothing := told.trail_eq_nil cleaned before
      constructor
      · intro cleaner member
        have due : cleaner.stage = .stopDue := by
          simp only [cleanups, record, cancelBy, fresh, List.mem_append, List.mem_map,
            List.mem_singleton] at member
          rcases member with ⟨launched, _, rfl⟩ | rfl <;> rfl
        simp only [Cleaner.Tells, due]
        simpa [trail, record, cancelBy, Occurrence.concerns] using nothing cleaner.container
      · intro other _
        simpa [trail, record, cancelBy, Occurrence.concerns] using nothing other
  | clean target result cleaner after event occurrences cleaning current allowed advance =>
      exact told.clean distinct current advance
  | _ =>
      refine told.of_eq rfl ?_
      simp [trail, record, abandon, cancelBy, withCall, Occurrence.concerns]

end CleanupsTold

end State

namespace Reaches

variable {plan : Plan} {events : List Event} {state : State}

theorem callsTold (path : Reaches plan events state) (distinct : plan.containerNames.Nodup) :
    state.CallsTold := by
  apply path.invariant State.CallsTold
  · constructor <;> simp [State.runs, State.initial, State.trail]
  · intro events state event next before told transition
    exact told.step before.started (before.plan_eq ▸ distinct) transition

theorem cleanupsTold (path : Reaches plan events state) (distinct : plan.containerNames.Nodup) :
    state.CleanupsTold := by
  apply path.invariant State.CleanupsTold
  · exact State.cleanupsTold_initial plan
  · intro events state event next before told transition
    have names := State.cleanups_names_nodup before.started before.cleaned
      (before.plan_eq ▸ distinct)
    exact told.step before.cleaned names transition

end Reaches

end Workload.Run
