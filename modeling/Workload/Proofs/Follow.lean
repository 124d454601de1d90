import Mathlib.Data.List.Induction
import Workload.Transition

/-!
# Induction over the events of a machine

What holds of all the events that have led to a state is shown by adding the last event: the state
before it is then known to be reachable, so that other invariants can be used there.
-/

namespace Workload

variable {State Event : Type} {step : State → Event → Option State}

theorem follow_append_eq_some {state final : State} {first second : List Event} :
    follow step state (first ++ second) = some final ↔
      ∃ middle, follow step state first = some middle ∧
        follow step middle second = some final := by
  rw [follow_append, Option.bind_eq_some_iff]

theorem follow_cons_eq_some {state final : State} {event : Event} {events : List Event} :
    follow step state (event :: events) = some final ↔
      ∃ next, step state event = some next ∧ follow step next events = some final := by
  rw [follow, Option.bind_eq_some_iff]

theorem follow_concat_eq_some {state final : State} {events : List Event} {event : Event} :
    follow step state (events ++ [event]) = some final ↔
      ∃ middle, follow step state events = some middle ∧ step middle event = some final := by
  rw [follow_append_eq_some]
  apply exists_congr
  intro middle
  apply and_congr_right
  intro _
  simp [follow]

/-- Induction over the events, the last one added each time. -/
theorem follow_induction {start : State} (Holds : List Event → State → Prop)
    (empty : Holds [] start)
    (concat : ∀ events state event next, follow step start events = some state →
      Holds events state → step state event = some next → Holds (events ++ [event]) next)
    {events : List Event} {final : State} (path : follow step start events = some final) :
    Holds events final := by
  induction events using List.reverseRecOn generalizing final with
  | nil =>
      simp only [follow, Option.some.injEq] at path
      subst final
      exact empty
  | append_singleton events event hypothesis =>
      rcases follow_concat_eq_some.mp path with ⟨middle, before, taken⟩
      exact concat events middle event final before (hypothesis before) taken

/-- What is observed along the events: of some, in the state in which they happen, something. -/
def observations {Observation : Type} (step : State → Event → Option State)
    (observe : State → Event → Option Observation) : State → List Event → List Observation
  | _, [] => []
  | state, event :: events =>
      match step state event with
      | some next => (observe state event).toList ++ observations step observe next events
      | none => []

theorem observations_concat {Observation : Type} {observe : State → Event → Option Observation}
    {state middle final : State} {events : List Event} {event : Event}
    (path : follow step state events = some middle) (taken : step middle event = some final) :
    observations step observe state (events ++ [event]) =
      observations step observe state events ++ (observe middle event).toList := by
  induction events generalizing state with
  | nil =>
      simp only [follow, Option.some.injEq] at path
      subst middle
      simp [observations, taken]
  | cons first rest hypothesis =>
      rcases follow_cons_eq_some.mp path with ⟨next, begun, onward⟩
      simp only [List.cons_append, observations, begun, hypothesis onward, List.append_assoc]

end Workload
