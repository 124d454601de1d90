/-!
# Following events through a machine

A machine is a partial step: an event that is not possible in a state has no successor. A list of
events is one interleaving of everything that takes part, and `follow` leads through all of it.
-/

namespace Workload

variable {State Event : Type}

/-- The state after a list of events, if each of them was possible when it came. -/
def follow (step : State → Event → Option State) : State → List Event → Option State
  | state, [] => some state
  | state, event :: events => (step state event).bind fun next => follow step next events

/-- Following two lists one after the other is following them joined. -/
theorem follow_append (step : State → Event → Option State) (state : State)
    (first second : List Event) :
    follow step state (first ++ second) =
      (follow step state first).bind fun middle => follow step middle second := by
  induction first generalizing state with
  | nil => rfl
  | cons event events hypothesis =>
      simp only [List.cons_append, follow]
      cases step state event with
      | none => rfl
      | some next => exact hypothesis next

/-- What holds at the start and is kept by every step holds wherever events lead. -/
theorem follow_invariant {step : State → Event → Option State} {Holds : State → Prop}
    (kept : ∀ state event next, step state event = some next → Holds state → Holds next)
    {state final : State} {events : List Event} (start : Holds state)
    (path : follow step state events = some final) : Holds final := by
  induction events generalizing state with
  | nil => simp_all [follow]
  | cons event events hypothesis =>
      simp only [follow, Option.bind_eq_some_iff] at path
      obtain ⟨next, taken, rest⟩ := path
      exact hypothesis (kept state event next taken start) rest

end Workload
