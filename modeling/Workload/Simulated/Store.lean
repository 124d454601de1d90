import Workload.Secret.Resolution

/-!
# Simulated secret stores

A simulated store answers from a table of values after a fixed delay and fails for chosen
references. `resolve` follows a resolution over two such stores on a clock: all fetches ask at once,
at every instant all answers that are due arrive before any of them is seen, and time moves only
when nothing else can happen.
-/

namespace Workload.Simulated

open Secret

/-- A store that answers from a table. -/
structure Store where
  values : List (String × String) := []
  failures : List String := []
  /-- Milliseconds that each lookup takes. -/
  delay : Nat := 0
deriving Repr, DecidableEq

/-- What a simulated store answers. -/
def Store.answer (store : Store) (reference : String) : Except SecretError String :=
  if reference ∈ store.failures then
    .error (.store (.command ("access denied for " ++ reference)))
  else
    match Table.find? reference store.values with
    | some value => .ok value
    | none => .error (.store (.command ("parameter " ++ reference ++ " not found")))

/-- The two stores of a resolution. -/
structure Stores where
  parameters : Store := {}
  vault : Store := {}
deriving Repr, DecidableEq

namespace Stores

/-- One of the two stores. -/
def store (stores : Stores) : Secret.Store → Store
  | .parameters => stores.parameters
  | .vault => stores.vault

/-- What the stores answer for each reference. -/
def answers (stores : Stores) : Answers :=
  fun store reference => (stores.store store).answer reference

end Stores

/-- A resolution and the time at which it stands. -/
structure Timed where
  resolution : Resolution
  elapsed : Nat := 0

/-- Takes the events that are possible, in order, and leaves out the others. -/
def takeAll (answers : Answers) (resolution : Resolution) (events : List Resolution.Event) :
    Resolution :=
  events.foldl (fun current event => (current.step answers event).getD current) resolution

/-- The instants at which answers are due, in ascending order. -/
def dueTimes (stores : Stores) (resolution : Resolution) : List Nat :=
  (resolution.fetches.map fun fetch => (stores.store fetch.store).delay).eraseDups.mergeSort
    (· ≤ ·)

/-- Lets the answers due at one instant arrive and sees them. -/
def atInstant (stores : Stores) (timed : Timed) (time : Nat) : Timed :=
  if timed.resolution.outcome.isSome then timed
  else
    let due := timed.resolution.fetches.filter fun fetch =>
      (stores.store fetch.store).delay = time
    let arrived := takeAll stores.answers timed.resolution
      (due.map fun fetch => .answer fetch.reference)
    let seen := takeAll stores.answers arrived (due.map fun _ => .see)
    { resolution := seen, elapsed := time }

/-- Follows a resolution of the references over two simulated stores. -/
def resolve (stores : Stores) (references : List String) : Timed :=
  let fresh := Resolution.initial references
  let started := takeAll stores.answers fresh (fresh.waiting.map .start)
  let asked := takeAll stores.answers started
    (started.fetches.map fun fetch => .ask fetch.reference)
  let final := (dueTimes stores asked).foldl (atInstant stores) { resolution := asked }
  { final with resolution := takeAll stores.answers final.resolution [.conclude] }

/-- What a resolution over two simulated stores comes to. -/
def Stores.resolveAll (stores : Stores) (references : List String) : Outcome :=
  (resolve stores references).resolution.outcome.getD (.ok [])

/-- The lookups made in one store, in ascending order. -/
def Timed.lookupsIn (timed : Timed) (store : Secret.Store) : List String :=
  (timed.resolution.lookups.filterMap fun (asked, reference) =>
    if asked = store then some reference else none).mergeSort (· ≤ ·)

/-- How many lookups of one store ran to their end. -/
def Timed.completedIn (timed : Timed) (store : Secret.Store) : Nat :=
  timed.resolution.completed.countP fun (asked, _) => asked = store

end Workload.Simulated
