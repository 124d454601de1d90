import Workload.Secret.Reference
import Workload.Table
import Workload.Transition

/-!
# Resolving secret references

A resolution starts one fetch for every reference. The fetches run at once: each asks the store of
its reference, which answers at any later time, and finished fetches are seen in the order in which
they finished. The first failure ends the whole resolution and no fetch goes on after that; a
reference that no store serves ends it before its fetch starts. Otherwise the result holds the value
of every reference.
-/

namespace Workload.Secret

/-- What the stores answer for each reference. -/
abbrev Answers := Store → String → Except SecretError String

/-- How far the fetch of one reference has come. -/
inductive Progress where
  | started
  | asked
  | answered
deriving Repr, DecidableEq

/-- The fetch of one reference. -/
structure Fetch where
  reference : String
  store : Store
  progress : Progress := .started
deriving Repr, DecidableEq

/-- The values of references, or the error that ended a resolution. -/
abbrev Outcome := Except SecretError (List (String × String))

/-- A resolution on its way. -/
structure Resolution where
  /-- The references whose fetch was not started yet. -/
  waiting : List String
  fetches : List Fetch := []
  /-- The lookups made, in order. -/
  lookups : List (Store × String) := []
  /-- The lookups that ran to their end, in order. -/
  completed : List (Store × String) := []
  /-- The finished fetches that were not seen yet, in the order in which they finished. -/
  finished : List (Store × String) := []
  values : List (String × String) := []
  outcome : Option Outcome := none

namespace Resolution

/-- What can happen next in a resolution. -/
inductive Event where
  /-- The fetch of a reference is started. -/
  | start (reference : String)
  /-- A fetch asks its store. -/
  | ask (reference : String)
  /-- A store answers. -/
  | answer (reference : String)
  /-- The fetch that finished first is seen. -/
  | see
  /-- All fetches were seen. -/
  | conclude
deriving Repr, DecidableEq

/-- The resolution of a set of references before anything has happened. -/
def initial (references : List String) : Resolution :=
  { waiting := references.eraseDups }

/-- The fetch of a reference with the given progress. -/
def fetch? (resolution : Resolution) (reference : String) (progress : Progress) : Option Fetch :=
  resolution.fetches.find? fun fetch => fetch.reference = reference && fetch.progress = progress

/-- Records how far the fetch of a reference has come. -/
def withProgress (resolution : Resolution) (reference : String) (progress : Progress) :
    List Fetch :=
  resolution.fetches.map fun fetch =>
    if fetch.reference = reference then { fetch with progress } else fetch

/-- One step of a resolution; nothing happens any more once there is an outcome. -/
def step (answers : Answers) (resolution : Resolution) (event : Event) : Option Resolution :=
  if resolution.outcome.isSome then none
  else
    match event with
    | .start reference =>
        if reference ∈ resolution.waiting then
          match storeOf reference with
          | .ok store =>
              some { resolution with
                waiting := resolution.waiting.erase reference
                fetches := resolution.fetches ++ [{ reference, store }] }
          | .error cause =>
              some { resolution with outcome := some (.error (.fetch reference cause)) }
        else none
    | .ask reference =>
        match resolution.fetch? reference .started with
        | some fetch =>
            some { resolution with
              fetches := resolution.withProgress reference .asked
              lookups := resolution.lookups ++ [(fetch.store, reference)] }
        | none => none
    | .answer reference =>
        match resolution.fetch? reference .asked with
        | some fetch =>
            some { resolution with
              fetches := resolution.withProgress reference .answered
              completed := resolution.completed ++ [(fetch.store, reference)]
              finished := resolution.finished ++ [(fetch.store, reference)] }
        | none => none
    | .see =>
        match resolution.waiting, resolution.finished with
        | [], (store, reference) :: rest =>
            match answers store reference with
            | .ok value =>
                some { resolution with
                  finished := rest
                  fetches := resolution.fetches.filter fun fetch => fetch.reference != reference
                  values := Table.insert reference value resolution.values }
            | .error cause =>
                some { resolution with outcome := some (.error (.fetch reference cause)) }
        | _, _ => none
    | .conclude =>
        if resolution.waiting.isEmpty && resolution.fetches.isEmpty then
          some { resolution with outcome := some (.ok resolution.values) }
        else none

/-- The values that were found, or the error that ended the resolution. -/
def result (resolution : Resolution) : Outcome :=
  resolution.outcome.getD (.ok resolution.values)

end Resolution

/--
A way to follow resolutions to their end: it fixes the order in which the fetches take their steps.
-/
abbrev Resolver := Answers → List String → Resolution

end Workload.Secret
