import Workload.Attempt

/-!
# What comes of attempts in order

An attempt that succeeds is followed by the next one, and one that fails by none. These rules say so
of the result and of the calls made, so that what is put together need not be taken apart.
-/

namespace Workload

/-- Errors need not be comparable for a result to be read off its value. -/
theorem eq_ok_of_toOption {Fault Item : Type} {result : Except Fault Item} {item : Item}
    (given : result.toOption = some item) : result = .ok item := by
  cases result with
  | error fault => cases given
  | ok other =>
      cases given
      rfl

end Workload

namespace Workload.Attempt

variable {Failure Other First Second : Type} {attempt : Attempt Failure First}
  {next : First → Attempt Failure Second} {call : Tool.Call}

@[simp]
theorem result_bind (attempt : Attempt Failure First) (next : First → Attempt Failure Second) :
    (attempt >>= next).result =
      match attempt.result with
      | .ok value => (next value).result
      | .error failure => .error failure := by
  simp only [bind, andThen]
  cases attempt.result <;> rfl

/-- Attempts in order give a value if the first gives one, and the next one upon it. -/
theorem result_bind_eq_ok_iff {second : Second} :
    (attempt >>= next).result = .ok second ↔
      ∃ first, attempt.result = .ok first ∧ (next first).result = .ok second := by
  rw [result_bind]
  cases attempt.result <;> simp

@[simp]
theorem calls_bind (attempt : Attempt Failure First) (next : First → Attempt Failure Second) :
    (attempt >>= next).calls = attempt.calls ++
      match attempt.result with
      | .ok value => (next value).calls
      | .error _ => [] := by
  simp only [bind, andThen]
  cases attempt.result <;> simp

@[simp]
theorem result_pure (value : First) :
    (pure value : Attempt Failure First).result = .ok value :=
  rfl

@[simp]
theorem calls_pure (value : First) : (pure value : Attempt Failure First).calls = [] :=
  rfl

@[simp]
theorem result_ofResult (result : Except Failure First) : (ofResult result).result = result :=
  rfl

@[simp]
theorem calls_ofResult (result : Except Failure First) : (ofResult result).calls = [] :=
  rfl

@[simp]
theorem result_record (records : List Log.Record) :
    (record records : Attempt Failure Unit).result = .ok () :=
  rfl

@[simp]
theorem calls_record (records : List Log.Record) :
    (record records : Attempt Failure Unit).calls = [] :=
  rfl

@[simp]
theorem result_log (level : Log.Level) (target text : String) :
    (log level target text : Attempt Failure Unit).result = .ok () :=
  rfl

@[simp]
theorem calls_log (level : Log.Level) (target text : String) :
    (log level target text : Attempt Failure Unit).calls = [] :=
  rfl

@[simp]
theorem result_mapError (attempt : Attempt Failure First) (change : Failure → Other) :
    (attempt.mapError change).result = attempt.result.mapError change :=
  rfl

theorem result_mapError_eq_ok_iff {change : Failure → Other} {value : First} :
    (attempt.mapError change).result = .ok value ↔ attempt.result = .ok value := by
  rw [result_mapError]
  cases attempt.result with
  | error failure =>
      constructor
      · intro success
        cases success
      · intro success
        cases success
  | ok given =>
      constructor
      · intro success
        cases success
        rfl
      · intro success
        cases success
        rfl

@[simp]
theorem calls_mapError (attempt : Attempt Failure First) (change : Failure → Other) :
    (attempt.mapError change).calls = attempt.calls :=
  rfl

@[simp]
theorem result_within (span : Log.Span) (attempt : Attempt Failure First) :
    (within span attempt).result = attempt.result :=
  rfl

@[simp]
theorem calls_within (span : Log.Span) (attempt : Attempt Failure First) :
    (within span attempt).calls = attempt.calls :=
  rfl

@[simp]
theorem calls_toOption (attempt : Attempt Failure First) :
    attempt.toOption.calls = attempt.calls :=
  rfl

/-- A call is made by an attempt, or by the one that follows upon its success. -/
theorem mem_calls_bind :
    call ∈ (attempt >>= next).calls ↔
      call ∈ attempt.calls ∨
        ∃ value, attempt.result = .ok value ∧ call ∈ (next value).calls := by
  rw [calls_bind, List.mem_append]
  cases attempt.result <;> simp

end Workload.Attempt
