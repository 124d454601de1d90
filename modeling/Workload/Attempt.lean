import Workload.Log.Record
import Workload.Tool

/-!
# Attempts

An attempt is work that calls tools, logs, and gives a value or fails. Attempts are put together in
order: what was called and logged is kept, and after a failure nothing more is done.
-/

namespace Workload

/-- What was done, and what came of it. -/
structure Attempt (Failure Outcome : Type) where
  calls : List Tool.Call := []
  records : List Log.Record := []
  result : Except Failure Outcome

namespace Attempt

variable {Failure First Second : Type}

/-- Does nothing and gives a value. -/
def give (value : First) : Attempt Failure First := { result := .ok value }

/-- Does nothing and fails. -/
def fail (failure : Failure) : Attempt Failure First := { result := .error failure }

/-- Does one thing and then another that depends on the value of the first. -/
def andThen (attempt : Attempt Failure First) (next : First → Attempt Failure Second) :
    Attempt Failure Second :=
  match attempt.result with
  | .ok value =>
      let following := next value
      { calls := attempt.calls ++ following.calls
        records := attempt.records ++ following.records
        result := following.result }
  | .error failure =>
      { calls := attempt.calls, records := attempt.records, result := .error failure }

instance : Monad (Attempt Failure) where
  pure := give
  bind := andThen

/-- Takes a result that was found without doing anything. -/
def ofResult (result : Except Failure First) : Attempt Failure First := { result }

/-- Logs records. -/
def record (records : List Log.Record) : Attempt Failure Unit := { records, result := .ok () }

/-- Logs an event without fields. -/
def log (level : Log.Level) (target text : String) : Attempt Failure Unit :=
  record [.message level target text]

/-- Gives another failure in place of each. -/
def mapError {Other : Type} (attempt : Attempt Failure First) (change : Failure → Other) :
    Attempt Other First :=
  { calls := attempt.calls, records := attempt.records, result := attempt.result.mapError change }

/-- The work of a task inside a span. -/
def within (span : Log.Span) (attempt : Attempt Failure First) : Attempt Failure First :=
  { attempt with records := Log.Record.task span attempt.records }

/-- Gives the value of an attempt that succeeds, and nothing of one that fails. -/
def toOption (attempt : Attempt Failure First) : Attempt Failure (Option First) :=
  { calls := attempt.calls, records := attempt.records, result := .ok attempt.result.toOption }

end Attempt

end Workload
