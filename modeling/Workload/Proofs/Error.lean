import Workload.Error
import Workload.Proofs.Text.Order
import Workload.Proofs.Text.Quoted

/-!
# The report of a run does not depend on the order of cleanups

Failed cleanup steps are ordered by their wording. The wording of a step determines it: the name of
the container is quoted and so ends where it seems to, the two steps have different words, and no
engine error is worded like another. So the ordered list depends only on which steps failed, and
nothing of them is lost.
-/

namespace Workload

open Text

theorem decimal_injective : Function.Injective decimal := by
  intro first second same
  have digits : decimalDigits first = decimalDigits second := String.ofList_injective same
  exact toDigits_injective (by decide) (by decide) digits

/-- A decimal number begins with a digit. -/
theorem exists_decimal_eq (number : Nat) :
    ∃ digit rest, (decimal number).toList = digit :: rest ∧ digit.isDigit := by
  rw [decimal, String.toList_ofList, decimalDigits]
  cases digits : Nat.toDigits 10 number with
  | nil => exact absurd digits Nat.toDigits_ne_nil
  | cons digit rest =>
      refine ⟨digit, rest, rfl, ?_⟩
      exact Nat.isDigit_of_mem_toDigits (by decide) (by decide) (digits ▸ List.mem_cons_self ..)

/-- A text that begins with no digit is no decimal number. -/
theorem decimal_ne {text : String} {char : Char} {rest : List Char}
    (begins : text.toList = char :: rest) (other : char.isDigit = false) (number : Nat) :
    decimal number ≠ text := by
  rintro rfl
  rcases exists_decimal_eq number with ⟨digit, after, same, isDigit⟩
  rw [begins, List.cons.injEq] at same
  rw [same.1, isDigit] at other
  cases other

theorem integerText_injective : Function.Injective integerText := by
  have signed (number other : Nat) : decimal number ≠ "-" ++ decimal other :=
    decimal_ne String.toList_append rfl number
  intro first second same
  unfold integerText at same
  split at same <;> split at same
  · have digits := decimal_injective (by simpa using same)
    omega
  · exact absurd same.symm (signed _ _)
  · exact absurd same (signed _ _)
  · have digits := decimal_injective same
    omega

namespace EngineError

/-- What an engine error says about a particular case. -/
def detail : EngineError → String
  | notInstalled => ""
  | command detail => detail
  | noSuchContainer name => name
  | exitStatus none => "unknown"
  | exitStatus (some code) => integerText code
  | cancelled => ""

/-- The kind of an engine error, which is the position of its opening. -/
def kind : EngineError → Fin 5
  | notInstalled => 0
  | command _ => 1
  | noSuchContainer _ => 2
  | exitStatus _ => 3
  | cancelled => 4

/-- What all messages of a kind begin with. -/
def opening : Fin 5 → String
  | 0 => "Container runtime is not installed or not accessible"
  | 1 => "Docker CLI error: "
  | 2 => "Container not found: "
  | 3 => "container exited with status "
  | 4 => "run cancelled"

theorem message_eq (error : EngineError) : error.message = opening error.kind ++ error.detail := by
  rcases error with _ | _ | _ | (_ | _) | _
  · exact String.append_empty.symm
  · rfl
  · rfl
  · decide
  · rfl
  · exact String.append_empty.symm

/-- The first eleven characters of a message tell of which kind it is. -/
theorem kind_eq_of_take : ∀ first second : Fin 5,
    (opening first).toList.take 11 = (opening second).toList.take 11 → first = second := by
  decide

theorem le_length_opening : ∀ kind : Fin 5, 11 ≤ (opening kind).toList.length := by decide

theorem integerText_ne_unknown (code : Int) : integerText code ≠ "unknown" := by
  unfold integerText
  split
  · intro same
    have chars := congrArg (fun text => text.toList.head?) same
    simp at chars
  · exact decimal_ne (by decide : "unknown".toList = 'u' :: "nknown".toList) rfl _

theorem eq_of_kind_of_detail {first second : EngineError} (kinds : first.kind = second.kind)
    (details : first.detail = second.detail) : first = second := by
  cases first <;> cases second <;> cases kinds
  · rfl
  · exact congrArg command details
  · exact congrArg noSuchContainer details
  · rename_i code other
    cases code <;> cases other
    · rfl
    · exact absurd details.symm (integerText_ne_unknown _)
    · exact absurd details (integerText_ne_unknown _)
    · exact congrArg (fun code => exitStatus (some code)) (integerText_injective details)
  · rfl

/-- No engine error is worded like another. -/
theorem message_injective : Function.Injective message := by
  intro first second same
  rw [message_eq, message_eq] at same
  have starts := congrArg (fun text => text.toList.take 11) same
  simp only [String.toList_append, List.take_append_of_le_length, le_length_opening] at starts
  have kinds := kind_eq_of_take _ _ starts
  rw [kinds] at same
  exact eq_of_kind_of_detail kinds ((String.append_right_inj _).mp same)

end EngineError

namespace CleanupFailure

theorem word_append_inj {step other : CleanupStep} {after later : String}
    (same : step.word ++ (": " ++ after) = other.word ++ (": " ++ later)) :
    step = other ∧ after = later := by
  have first := congrArg (fun text => text.toList.head?) same
  cases step <;> cases other
  · exact ⟨rfl, (String.append_right_inj _).mp ((String.append_right_inj _).mp same)⟩
  · simp [CleanupStep.word] at first
  · simp [CleanupStep.word] at first
  · exact ⟨rfl, (String.append_right_inj _).mp ((String.append_right_inj _).mp same)⟩

/-- The wording of a failed cleanup step determines it. -/
theorem message_injective : Function.Injective message := by
  rintro ⟨container, step, cause⟩ ⟨other, second, reason⟩ same
  simp only [message, String.append_assoc, String.append_right_inj] at same
  rcases quoted_append_inj same with ⟨rfl, rest⟩
  rcases word_append_inj ((String.append_right_inj _).mp rest) with ⟨rfl, causes⟩
  rw [EngineError.message_injective causes]

theorem notAfter_iff {first second : CleanupFailure} :
    notAfter first second ↔ encode first.message ≤ encode second.message := by
  rw [notAfter, decide_eq_true_eq, encode_le_encode_iff]

variable {failures others : List CleanupFailure}

theorem sorted_mergeSort (failures : List CleanupFailure) :
    (failures.mergeSort notAfter).Pairwise fun first second =>
      encode first.message ≤ encode second.message := by
  have sorted : (failures.mergeSort notAfter).Pairwise fun first second =>
      notAfter first second := by
    apply List.pairwise_mergeSort
    · intro first second third
      simp only [notAfter, decide_eq_true_eq]
      exact String.le_trans
    · intro first second
      simp only [notAfter, Bool.or_eq_true, decide_eq_true_eq]
      exact String.le_total ..
  exact sorted.imp notAfter_iff.mp

/-- Failed steps that are worded alike are the same, so only one order of them is sorted. -/
theorem mergeSort_eq_of_perm (perm : failures.Perm others) :
    failures.mergeSort notAfter = others.mergeSort notAfter := by
  have sorted : (failures.mergeSort notAfter).Perm (others.mergeSort notAfter) :=
    (List.mergeSort_perm ..).trans (perm.trans (List.mergeSort_perm ..).symm)
  apply sorted.eq_of_pairwise ?_ (sorted_mergeSort failures) (sorted_mergeSort others)
  intro first second _ _ before after
  rw [encode_le_encode_iff] at before after
  exact message_injective (String.le_antisymm before after)

end CleanupFailure

namespace RunError

variable {run : Option RunError} {failures others : List CleanupFailure}

theorem combine_of_ne_nil (some : failures ≠ []) :
    combine run failures =
      .some (.aggregate run (failures.mergeSort CleanupFailure.notAfter)) := by
  rw [combine, if_neg (by simpa using some)]

theorem combine_eq_none_iff : combine run failures = none ↔ run = none ∧ failures = [] := by
  cases failures with
  | nil => simp [combine]
  | cons => simp [combine]

/-- A report of failed cleanup steps is not the error of the run that it contains. -/
theorem combine_eq_self_iff : combine run failures = run ↔ failures = [] := by
  constructor
  · intro same
    by_contra some
    rw [combine_of_ne_nil some] at same
    cases run with
    | none => cases same
    | some error =>
        have sizes := congrArg sizeOf (Option.some.inj same)
        simp at sizes
        omega
  · rintro rfl
    rfl

theorem message_aggregate (run : Option RunError) (cleanup : List CleanupFailure) :
    (aggregate run cleanup).message =
      joinLines ((run.map message).toList ++ cleanup.map CleanupFailure.message) := by
  cases run with
  | none => rfl
  | some error => rfl

/--
In whatever order the cleanups finished, the report of a run is the same. It is absent if nothing
went wrong, and the error of the run itself if and only if no cleanup step failed. Otherwise it has
the error of the run and all failed steps, in the order of the bytes of their wordings, each on a
line of its own; no two different steps are worded alike.
-/
theorem combined_in_any_order (run : Option RunError) (perm : failures.Perm others) :
    combine run others = combine run failures ∧
    (combine run others).map message = (combine run failures).map message ∧
    (failures = [] ∨ ∃ sorted, combine run failures = some (.aggregate run sorted) ∧
      sorted.Perm failures ∧
      sorted.Pairwise (fun first second => encode first.message ≤ encode second.message) ∧
      (combine run failures).map message =
        some (joinLines ((run.map message).toList ++ sorted.map CleanupFailure.message))) ∧
    Function.Injective CleanupFailure.message ∧
    (combine run failures = none ↔ run = none ∧ failures = []) ∧
    (combine run failures = run ↔ failures = []) := by
  have same : combine run others = combine run failures := by
    by_cases none : failures = []
    · subst failures
      rw [perm.nil_eq]
    · have some : others ≠ [] := by
        rintro rfl
        exact none perm.eq_nil
      rw [combine_of_ne_nil some, combine_of_ne_nil none, CleanupFailure.mergeSort_eq_of_perm perm]
  refine ⟨same, by rw [same], ?_, CleanupFailure.message_injective, combine_eq_none_iff,
    combine_eq_self_iff⟩
  by_cases none : failures = []
  · exact .inl none
  · have combined := @combine_of_ne_nil run _ none
    refine .inr ⟨_, combined, List.mergeSort_perm .., CleanupFailure.sorted_mergeSort failures, ?_⟩
    rw [combined, Option.map_some, message_aggregate]

/-- Two cleanups that finished against the order of their wordings. -/
theorem combined_after_web_finished_first :
    [CleanupFailure.mk "api" .stop .cancelled, .mk "web" .remove .notInstalled].Perm
      [.mk "web" .remove .notInstalled, .mk "api" .stop .cancelled] ∧
    combine (some .cancelled) [.mk "web" .remove .notInstalled, .mk "api" .stop .cancelled] =
      some (.aggregate (some .cancelled)
        [.mk "api" .stop .cancelled, .mk "web" .remove .notInstalled]) := by
  let api := CleanupFailure.mk "api" .stop .cancelled
  let web := CleanupFailure.mk "web" .remove .notInstalled
  have swapped : [api, web].Perm [web, api] := .swap ..
  have sorted : [api, web].Pairwise fun first second => first.notAfter second := by decide
  refine ⟨swapped, (combined_in_any_order (some .cancelled) swapped).1.trans ?_⟩
  rw [combine_of_ne_nil (by simp), List.mergeSort_of_pairwise sorted]

end RunError

end Workload
