import Mathlib.Algebra.Ring.Nat
import Mathlib.Data.List.TakeWhile
import Workload.Text.Numeral

/-!
# Digits and their value

The digits of a positive number begin with a nonzero one, and then the number of digits says how
large the value is. Zeros at the end of a row of digits multiply its value by powers of ten.
-/

namespace Workload.Text

/-- The characters are digits of which the first is no zero. -/
structure Leading (digits : List Char) : Prop where
  all : ∀ char ∈ digits, char.isDigit
  first : ∃ char rest, digits = char :: rest ∧ char ≠ '0'

theorem le_ofDigitChars (digits : List Char) (start : Nat) :
    start ≤ Nat.ofDigitChars 10 digits start := by
  induction digits generalizing start with
  | nil => exact Nat.le_refl _
  | cons digit digits hypothesis =>
      rw [Nat.ofDigitChars_cons]
      have onward := hypothesis (10 * start + (digit.toNat - '0'.toNat))
      omega

theorem digitValue_le_nine {digit : Char} (isDigit : digit.isDigit) :
    digit.toNat - '0'.toNat ≤ 9 := by
  simp only [Char.isDigit, ge_iff_le, Bool.and_eq_true, decide_eq_true_eq] at isDigit
  have upper : digit.toNat ≤ 57 := isDigit.2
  change digit.toNat - 48 ≤ 9
  omega

theorem ofDigitChars_lt {digits : List Char} (all : ∀ char ∈ digits, char.isDigit) (start : Nat) :
    Nat.ofDigitChars 10 digits start < (start + 1) * 10 ^ digits.length := by
  induction digits generalizing start with
  | nil => simp
  | cons digit digits hypothesis =>
      rw [List.forall_mem_cons] at all
      have value := digitValue_le_nine all.1
      rw [Nat.ofDigitChars_cons, List.length_cons, Nat.pow_succ, Nat.mul_comm (10 ^ _),
        ← Nat.mul_assoc]
      refine Nat.lt_of_lt_of_le (hypothesis all.2 _) (Nat.mul_le_mul_right _ ?_)
      omega

theorem leading_toDigits {number : Nat} (positive : 0 < number) :
    Leading (Nat.toDigits 10 number) := by
  refine ⟨fun char member => Nat.isDigit_of_mem_toDigits (by decide) (by decide) member, ?_⟩
  have shown : ∀ digit < 10, 0 < digit → digit.digitChar ≠ '0' := by decide
  induction number using Nat.strongRecOn with
  | ind number hypothesis =>
      rcases Nat.lt_or_ge number 10 with small | large
      · exact ⟨_, [], Nat.toDigits_of_lt_base small, shown number small positive⟩
      · rcases hypothesis (number / 10) (by omega) (by omega) with ⟨first, rest, same, apart⟩
        refine ⟨first, rest ++ [(number % 10).digitChar], ?_, apart⟩
        rw [Nat.toDigits_of_base_le (by decide) large, same, List.cons_append]

theorem Leading.append {digits others : List Char} (leading : Leading digits)
    (all : ∀ char ∈ others, char.isDigit) : Leading (digits ++ others) := by
  rcases leading with ⟨allDigits, first, rest, rfl, nonzero⟩
  refine ⟨?_, first, rest ++ others, rfl, nonzero⟩
  intro char member
  rcases List.mem_append.mp member with early | late
  · exact allDigits char early
  · exact all char late

theorem Leading.take {digits : List Char} (leading : Leading digits) {count : Nat}
    (some : 0 < count) : Leading (digits.take count) := by
  rcases leading with ⟨all, first, rest, rfl, nonzero⟩
  refine ⟨fun char member => all char (List.mem_of_mem_take member), first,
    rest.take (count - 1), ?_, nonzero⟩
  rw [List.take_cons some]

theorem Leading.pow_le {digits : List Char} (leading : Leading digits) :
    10 ^ (digits.length - 1) ≤ Nat.ofDigitChars 10 digits 0 := by
  rcases leading with ⟨all, char, rest, rfl, nonzero⟩
  have isDigit := all char (List.mem_cons_self ..)
  simp only [Char.isDigit, ge_iff_le, Bool.and_eq_true, decide_eq_true_eq] at isDigit
  have lower : 48 ≤ char.toNat := isDigit.1
  have apart : char.toNat ≠ 48 := fun same => nonzero (Char.toNat_inj.mp same)
  have value : 1 ≤ char.toNat - '0'.toNat := by
    change 1 ≤ char.toNat - 48
    omega
  rw [Nat.ofDigitChars_cons, Nat.mul_zero, Nat.zero_add, Nat.ofDigitChars_eq_ofDigitChars_zero]
  exact Nat.le_trans (Nat.le_mul_of_pos_right _ value) (Nat.le_add_right ..)

theorem Leading.pos {digits : List Char} (leading : Leading digits) :
    0 < Nat.ofDigitChars 10 digits 0 :=
  Nat.lt_of_lt_of_le (Nat.pow_pos (by decide)) leading.pow_le

theorem exists_digitChar_of_mem_toDigits {base number : Nat} {char : Char} (several : 1 < base)
    (member : char ∈ Nat.toDigits base number) : ∃ digit, char = Nat.digitChar digit := by
  induction number using Nat.strongRecOn with
  | ind number hypothesis =>
      rcases Nat.lt_or_ge number base with small | large
      · rw [Nat.toDigits_of_lt_base small, List.mem_singleton] at member
        exact ⟨number, member⟩
      · rw [Nat.toDigits_of_base_le several large, List.mem_append, List.mem_singleton] at member
        rcases member with earlier | last
        · exact hypothesis _ (Nat.div_lt_self (by omega) several) earlier
        · exact ⟨_, last⟩

theorem one_lt_length_toDigits {base number : Nat} (several : 1 < base) (large : base ≤ number) :
    1 < (Nat.toDigits base number).length := by
  have more : 0 < (Nat.toDigits base (number / base)).length := Nat.length_toDigits_pos
  rw [Nat.toDigits_of_base_le several large, List.length_append, List.length_singleton]
  omega

/-- The digits of a number determine it. -/
theorem toDigits_injective {base : Nat} (several : 1 < base) (few : base ≤ 16) :
    Function.Injective (Nat.toDigits base) := by
  have shown : ∀ digit < 16, ∀ other < 16, digit.digitChar = other.digitChar → digit = other := by
    decide
  intro first
  induction first using Nat.strongRecOn with
  | ind first hypothesis =>
      intro second same
      rcases Nat.lt_or_ge first base with firstSmall | firstLarge <;>
        rcases Nat.lt_or_ge second base with secondSmall | secondLarge
      · rw [Nat.toDigits_of_lt_base firstSmall, Nat.toDigits_of_lt_base secondSmall] at same
        exact shown first (by omega) second (by omega) (List.singleton_inj.mp same)
      · have long := one_lt_length_toDigits several secondLarge
        rw [← same, Nat.toDigits_of_lt_base firstSmall] at long
        exact absurd long (by simp)
      · have long := one_lt_length_toDigits several firstLarge
        rw [same, Nat.toDigits_of_lt_base secondSmall] at long
        exact absurd long (by simp)
      · rw [Nat.toDigits_of_base_le several firstLarge,
          Nat.toDigits_of_base_le several secondLarge] at same
        have parts := List.append_inj' same rfl
        have smaller : first / base < first := Nat.div_lt_self (by omega) several
        have quotients := hypothesis _ smaller parts.1
        have firstDigit := Nat.mod_lt first (show 0 < base by omega)
        have secondDigit := Nat.mod_lt second (show 0 < base by omega)
        have digits := shown _ (by omega) _ (by omega) (List.singleton_inj.mp parts.2)
        rw [← Nat.div_add_mod first base, ← Nat.div_add_mod second base, quotients, digits]

/-- Digits without the zeros at their end. -/
theorem exists_take_append_zeros (digits : List Char) :
    digits = digits.take (digits.length - (digits.reverse.takeWhile (· = '0')).length) ++
      List.replicate (digits.reverse.takeWhile (· = '0')).length '0' := by
  have zeros : digits.reverse.takeWhile (· = '0') =
      List.replicate (digits.reverse.takeWhile (· = '0')).length '0' := by
    rw [List.eq_replicate_iff]
    refine ⟨rfl, ?_⟩
    intro char member
    simpa using List.mem_takeWhile_imp member
  have split : digits = (digits.reverse.dropWhile (· = '0')).reverse ++
      (digits.reverse.takeWhile (· = '0')).reverse := by
    rw [← List.reverse_append, List.takeWhile_append_dropWhile, List.reverse_reverse]
  have count : digits.length - (digits.reverse.takeWhile (· = '0')).length =
      (digits.reverse.dropWhile (· = '0')).reverse.length := by
    have whole := congrArg List.length split
    simp only [List.length_append, List.length_reverse] at whole ⊢
    omega
  generalize digits.reverse.takeWhile (· = '0') = last at *
  generalize (digits.reverse.dropWhile (· = '0')).reverse = kept at *
  rw [count]
  subst split
  rw [List.take_left]
  congr 1
  rw [zeros]
  simp

end Workload.Text
