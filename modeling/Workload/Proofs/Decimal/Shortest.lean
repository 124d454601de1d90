import Mathlib.Algebra.Order.Field.Power
import Mathlib.Data.Nat.Bitwise
import Mathlib.Tactic.Linarith
import Mathlib.Tactic.NormNum
import Mathlib.Tactic.Positivity
import Mathlib.Tactic.Ring
import Workload.Decimal.Shortest
import Workload.Proofs.Text.Digits

/-!
# What the shortest decimal is

The decimal that a double is written as lies in the interval of numbers that round to it, so that it
is not far above the double. Its digits begin with a nonzero one.
-/

namespace Workload.Decimal

/-! ## Finite doubles -/

/-- The mantissa and the scale that a finite double has. -/
structure Binary.IsFinite (number : Binary) : Prop where
  narrow : number.mantissa < 2 ^ 53
  below : number.scale ≤ 971
  powerOfTwo : number.narrowBelow → number.mantissa = 2 ^ 52

/-- The bits are those of a finite double. -/
def isFinite (bits : UInt64) : Bool :=
  (bits >>> 52) &&& 0x7FF != 0x7FF

theorem isFinite_ofBits {bits : UInt64} (finite : isFinite bits) :
    (Binary.ofBits bits).IsFinite := by
  have fraction : (bits &&& 0xFFFFFFFFFFFFF).toNat < 2 ^ 52 := by
    rw [UInt64.toNat_and]
    exact Nat.and_lt_two_pow _ (by decide)
  have field : ((bits >>> 52) &&& 0x7FF).toNat < 2 ^ 11 := by
    rw [UInt64.toNat_and]
    exact Nat.and_lt_two_pow _ (by decide)
  have notAll : ((bits >>> 52) &&& 0x7FF).toNat ≠ 2047 := by
    intro all
    have same : (bits >>> 52) &&& 0x7FF = 0x7FF := UInt64.toNat_inj.mp all
    simp [isFinite, same] at finite
  unfold Binary.ofBits
  dsimp only
  split
  · exact ⟨by dsimp only; omega, by dsimp only; omega, nofun⟩
  · refine ⟨by dsimp only; omega, by dsimp only; omega, ?_⟩
    intro both
    simp only [Bool.and_eq_true, decide_eq_true_eq] at both
    simp [both.1]

/-! ## The interval of a double -/

theorem ratio_snd_pos {base : Nat} (positive : 0 < base) (factor : Nat) (exponent : Int) :
    0 < (ratio factor base exponent).2 := by
  unfold ratio
  split
  · exact Nat.one_pos
  · exact Nat.pow_pos positive

theorem ratio_eq {base : Nat} (positive : 0 < base) (factor : Nat) (exponent : Int) :
    ((ratio factor base exponent).1 : ℚ) =
      factor * (base : ℚ) ^ exponent * (ratio factor base exponent).2 := by
  have nonzero : (base : ℚ) ≠ 0 := by exact_mod_cast positive.ne'
  unfold ratio
  split
  · rename_i natural
    rcases Int.eq_ofNat_of_zero_le natural with ⟨power, rfl⟩
    simp
  · rename_i negative
    rcases Int.eq_ofNat_of_zero_le (by omega : 0 ≤ -exponent) with ⟨power, same⟩
    have opposite : exponent = -(power : Int) := by omega
    rw [same, opposite, Int.toNat_natCast]
    simp [nonzero]

section ReadsBack

variable {number : Binary} {digits : Nat} {exponent : Int}

/-- A decimal that rounds to a double is not above the upper end of its interval. -/
theorem le_of_readsBack (reads : number.readsBack digits exponent) :
    (digits : ℚ) * 10 ^ exponent ≤ (4 * number.mantissa + 2) * 2 ^ (number.scale - 2) := by
  have decimal := ratio_eq (by decide : 0 < 10) digits exponent
  have binary := ratio_eq (by decide : 0 < 2) 1 (number.scale - 2)
  have decimalPos := ratio_snd_pos (by decide : 0 < 10) digits exponent
  have binaryPos := ratio_snd_pos (by decide : 0 < 2) 1 (number.scale - 2)
  have inside : (ratio digits 10 exponent).1 * (ratio 1 2 (number.scale - 2)).2 ≤
      (4 * number.mantissa + 2) * (ratio 1 2 (number.scale - 2)).1 *
        (ratio digits 10 exponent).2 := by
    simp only [Binary.readsBack] at reads
    split at reads
    · simp only [Bool.and_eq_true, decide_eq_true_eq] at reads
      exact reads.2
    · simp only [Bool.and_eq_true, decide_eq_true_eq] at reads
      exact Nat.le_of_lt reads.2
  generalize ratio digits 10 exponent = decimalRatio at *
  generalize ratio 1 2 (number.scale - 2) = binaryRatio at *
  have scaled : (decimalRatio.1 : ℚ) * binaryRatio.2 ≤
      (4 * number.mantissa + 2) * binaryRatio.1 * decimalRatio.2 := by
    exact_mod_cast inside
  have positive : (0 : ℚ) < decimalRatio.2 * binaryRatio.2 := by
    exact_mod_cast Nat.mul_pos decimalPos binaryPos
  rw [decimal, binary] at scaled
  push_cast at scaled
  apply le_of_mul_le_mul_right _ positive
  calc (digits : ℚ) * 10 ^ exponent * (decimalRatio.2 * binaryRatio.2)
      = digits * 10 ^ exponent * decimalRatio.2 * binaryRatio.2 := by ring
    _ ≤ (4 * number.mantissa + 2) * (1 * 2 ^ (number.scale - 2) * binaryRatio.2) *
          decimalRatio.2 := scaled
    _ = (4 * number.mantissa + 2) * 2 ^ (number.scale - 2) *
          (decimalRatio.2 * binaryRatio.2) := by ring

theorem pos_of_readsBack (nonzero : number.mantissa ≠ 0)
    (reads : number.readsBack digits exponent) : 0 < digits := by
  apply Nat.pos_of_ne_zero
  rintro rfl
  have binary : 0 < (ratio 1 2 (number.scale - 2)).1 := by
    unfold ratio
    split
    · exact Nat.mul_pos Nat.one_pos (Nat.pow_pos (by decide))
    · exact Nat.one_pos
  have decimal := ratio_snd_pos (by decide : 0 < 10) 0 exponent
  have place : (ratio 0 10 exponent).1 = 0 := by
    unfold ratio
    split
    · exact Nat.zero_mul _
    · rfl
  have low : 0 < 4 * number.mantissa - (if number.narrowBelow then 1 else 2) := by
    split <;> omega
  have least := Nat.mul_pos (Nat.mul_pos low binary) decimal
  simp only [Binary.readsBack, place, Nat.zero_mul] at reads
  split at reads <;> simp only [Bool.and_eq_true, decide_eq_true_eq] at reads <;> omega

end ReadsBack

/-- The decimal that was found rounds to the double. -/
theorem readsBack_of_withDigits? {number : Binary} {count : Nat} {decimal : Digits}
    (found : number.withDigits? count = some decimal) :
    number.readsBack decimal.digits decimal.exponent := by
  simp only [Binary.withDigits?] at found
  split at found
  · rename_i below above
    split at found <;> cases found
    · exact below
    · exact above
  · rename_i below above
    cases found
    exact below
  · rename_i below above
    cases found
    exact above
  · cases found

theorem shortest_cases (number : Binary) :
    number.shortest = ⟨0, 0⟩ ∨
      number.readsBack number.shortest.digits number.shortest.exponent := by
  unfold Binary.shortest
  cases found : (List.range 17).findSome? fun count => number.withDigits? (count + 1) with
  | none => exact Or.inl rfl
  | some decimal =>
      right
      rcases List.exists_of_findSome?_eq_some found with ⟨count, _, some⟩
      exact readsBack_of_withDigits? some

/-! ## Digits without trailing zeros -/

theorem leading_normal {decimal : Digits} (positive : 0 < decimal.digits) :
    Text.Leading decimal.normal.1 := by
  have written := Text.exists_take_append_zeros (Nat.toDigits 10 decimal.digits)
  have leading := Text.leading_toDigits positive
  refine ⟨fun char member => leading.all char (List.mem_of_mem_take member), ?_⟩
  rcases leading.first with ⟨first, rest, same, nonzero⟩
  change Nat.toDigits 10 decimal.digits = decimal.normal.1 ++ _ at written
  rw [same] at written
  cases kept : decimal.normal.1 with
  | nil =>
      -- Only zeros were left, but the first digit is none.
      rw [kept, List.nil_append] at written
      have zero := List.eq_of_mem_replicate (written ▸ List.mem_cons_self ..)
      exact absurd zero nonzero
  | cons char others =>
      rw [kept, List.cons_append, List.cons.injEq] at written
      exact ⟨char, others, rfl, written.1 ▸ nonzero⟩

theorem normal_value (decimal : Digits) :
    (Nat.ofDigitChars 10 decimal.normal.1 0 : ℚ) * 10 ^ decimal.normal.2 =
      decimal.digits * 10 ^ decimal.exponent := by
  have written := Text.exists_take_append_zeros (Nat.toDigits 10 decimal.digits)
  change Nat.toDigits 10 decimal.digits = decimal.normal.1 ++ _ at written
  have exponent : decimal.normal.2 = decimal.exponent +
      ((Nat.toDigits 10 decimal.digits).reverse.takeWhile (· = '0')).length := rfl
  generalize ((Nat.toDigits 10 decimal.digits).reverse.takeWhile (· = '0')).length = zeros at *
  have value := congrArg (fun digits => Nat.ofDigitChars 10 digits 0) written
  simp only [Nat.ofDigitChars_ten_toDigits, Nat.ofDigitChars_append,
    Nat.ofDigitChars_replicate_zero] at value
  rw [exponent, zpow_add₀ (by norm_num), zpow_natCast, value]
  push_cast
  ring

/-- What the digits of a positive double stand for. -/
theorem exists_shortest {number : Binary} (nonzero : number.mantissa ≠ 0) :
    number.shortest = ⟨0, 0⟩ ∨
      Text.Leading number.shortest.normal.1 ∧
        (Nat.ofDigitChars 10 number.shortest.normal.1 0 : ℚ) * 10 ^ number.shortest.normal.2 ≤
          (4 * number.mantissa + 2) * 2 ^ (number.scale - 2) := by
  rcases shortest_cases number with none | reads
  · exact Or.inl none
  · right
    refine ⟨leading_normal (pos_of_readsBack nonzero reads), ?_⟩
    rw [normal_value]
    exact le_of_readsBack reads

end Workload.Decimal
