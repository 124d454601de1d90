import Workload.Proofs.Follow
import Workload.Proofs.Run.Transition

/-!
# The states that a run can reach

A list of events that is possible from the start of a run is one interleaving of everything that
takes part in it. An invariant of all interleavings is shown once for each rule of `Transition`.
-/

namespace Workload.Run

/-- The events are one interleaving of a run of the plan, and lead it to the state. -/
def Reaches (plan : Plan) (events : List Event) (state : State) : Prop :=
  follow step (.initial plan) events = some state

/-- A plan of a single container, whose runs are short enough to be written down. -/
def Plan.single : Plan where
  identity := { application := "shop", environment := "test", workload := "api" }
  ports := {}
  containers := [("web", "web:1")]
  environment := {}

namespace Reaches

variable {plan : Plan} {events : List Event} {state : State}

theorem induction (Holds : List Event → State → Prop) (empty : Holds [] (.initial plan))
    (concat : ∀ events state event next, Reaches plan events state → Holds events state →
      Transition state event next → Holds (events ++ [event]) next)
    (path : Reaches plan events state) : Holds events state := by
  apply follow_induction Holds empty ?_ path
  intro events state event next before holds taken
  exact concat events state event next before holds (transition_of_step taken)

theorem invariant (Holds : State → Prop) (initially : Holds (.initial plan))
    (kept : ∀ events state event next, Reaches plan events state → Holds state →
      Transition state event next → Holds next)
    (path : Reaches plan events state) : Holds state :=
  path.induction (fun _ state => Holds state) initially kept

theorem split {before after : List Event} {event : Event}
    (path : Reaches plan (before ++ event :: after) state) :
    ∃ middle next, Reaches plan before middle ∧ Transition middle event next ∧
      Reaches plan (before ++ [event]) next ∧ follow step next after = some state := by
  rcases follow_append_eq_some.mp path with ⟨middle, first, second⟩
  rcases follow_cons_eq_some.mp second with ⟨next, taken, rest⟩
  exact ⟨middle, next, first, transition_of_step taken,
    follow_concat_eq_some.mpr ⟨middle, first, taken⟩, rest⟩

/-- The same events lead a run to the same state. -/
theorem unique {other : State} (path : Reaches plan events state)
    (again : Reaches plan events other) : state = other :=
  Option.some.inj (path.symm.trans again)

theorem append {before after : List Event} {middle : State} (first : Reaches plan before middle)
    (second : follow step middle after = some state) : Reaches plan (before ++ after) state :=
  follow_append_eq_some.mpr ⟨middle, first, second⟩

end Reaches

variable {state next : State} {event : Event}

theorem Transition.plan_eq (transition : Transition state event next) :
    next.plan = state.plan := by
  cases transition <;> rfl

theorem Reaches.plan_eq {plan : Plan} {events : List Event} (path : Reaches plan events state) :
    state.plan = plan :=
  path.invariant (fun state => state.plan = plan) rfl
    fun _ _ _ _ _ same transition => transition.plan_eq.trans same

/-- What an observer has seen is only added to. -/
theorem Transition.history_grows (transition : Transition state event next) :
    state.history <+: next.history := by
  cases transition <;>
    simp [State.cancelBy, State.record, State.confirm, State.proceed, State.abandon, State.fail,
      State.withCall, State.withCleaner]

end Workload.Run
