import Workload.Proofs.Text.Digits
import Workload.Text.Blank

/-!
# Numerals among blanks

A numeral is a row of digits behind at most one plus sign, and is read if its value is within the
limit. No character of it is blank. So trimming finds a numeral among blanks, however many there are,
and what is not a numeral after trimming was none with blanks around it.
-/

namespace Workload.Text

variable {text core digits : List Char} {limit value : Nat}

/-- A row of digits behind at most one plus sign, and the number that it stands for. -/
inductive Numeral : List Char → Nat → Prop where
  | plain {digits : List Char} (several : digits ≠ []) (all : ∀ digit ∈ digits, digit.isDigit) :
      Numeral digits (Nat.ofDigitChars 10 digits 0)
  | signed {digits : List Char} (several : digits ≠ []) (all : ∀ digit ∈ digits, digit.isDigit) :
      Numeral ('+' :: digits) (Nat.ofDigitChars 10 digits 0)

/-- A text with nothing but blanks around its core. -/
def Padded (text core : List Char) : Prop :=
  ∃ before after, text = before ++ core ++ after ∧
    (∀ char ∈ before, isBlank char) ∧ ∀ char ∈ after, isBlank char

/-! ## Numerals -/

theorem digitsValue_eq (digits : List Char) :
    digitsValue digits = Nat.ofDigitChars 10 digits 0 := by
  simp only [digitsValue, digitValue, Nat.ofDigitChars, Nat.mul_comm]

theorem withoutPlus_of_isDigit (all : ∀ digit ∈ digits, digit.isDigit) :
    withoutPlus digits = digits := by
  unfold withoutPlus
  split
  · have impossible := all '+' (List.mem_cons_self ..)
    cases impossible
  · rfl

theorem eq_withoutPlus (text : List Char) :
    text = withoutPlus text ∨ text = '+' :: withoutPlus text := by
  unfold withoutPlus
  split
  · exact .inr rfl
  · exact .inl rfl

theorem readNumeral?_eq_some_iff :
    readNumeral? limit text = some value ↔ Numeral text value ∧ value ≤ limit := by
  have accepts : readNumeral? limit text = some value ↔
      (withoutPlus text ≠ [] ∧ (∀ digit ∈ withoutPlus text, digit.isDigit) ∧
        Nat.ofDigitChars 10 (withoutPlus text) 0 ≤ limit) ∧
        Nat.ofDigitChars 10 (withoutPlus text) 0 = value := by
    simp [readNumeral?, digitsValue_eq, and_assoc]
  rw [accepts]
  constructor
  · rintro ⟨⟨several, all, bounded⟩, rfl⟩
    refine ⟨?_, bounded⟩
    rcases eq_withoutPlus text with bare | signed
    · rw [← bare] at several all ⊢
      exact .plain several all
    · generalize withoutPlus text = digits at *
      rw [signed]
      exact .signed several all
  · rintro ⟨numeral, bounded⟩
    cases numeral with
    | plain several all =>
        rw [withoutPlus_of_isDigit all]
        exact ⟨⟨several, all, bounded⟩, rfl⟩
    | signed several all => exact ⟨⟨several, all, bounded⟩, rfl⟩

theorem numeral_decimalDigits (number : Nat) : Numeral (decimalDigits number) number := by
  have numeral : Numeral (decimalDigits number) (Nat.ofDigitChars 10 (decimalDigits number) 0) :=
    .plain (List.ne_nil_of_length_pos Nat.length_toDigits_pos)
      fun digit member => Nat.isDigit_of_mem_toDigits (by decide) (by decide) member
  rwa [decimalDigits, Nat.ofDigitChars_ten_toDigits] at numeral

theorem colon_not_mem_decimalDigits (number : Nat) : ':' ∉ decimalDigits number := by
  intro member
  have impossible := Nat.isDigit_of_mem_toDigits (by decide) (by decide) member
  cases impossible

/-! ## Blanks -/

theorem isBlank_of_isDigit {char : Char} (digit : char.isDigit) : isBlank char = false := by
  simp only [Char.isDigit, ge_iff_le, Bool.and_eq_true, decide_eq_true_eq] at digit
  have lower : 48 ≤ char.toNat := digit.1
  have upper : char.toNat ≤ 57 := digit.2
  simp only [isBlank, Bool.or_eq_false_iff, Bool.and_eq_false_iff, decide_eq_false_iff_not,
    beq_eq_false_iff_ne]
  omega

theorem Numeral.not_isBlank (numeral : Numeral text value) :
    ∀ char ∈ text, isBlank char = false := by
  intro char member
  cases numeral with
  | plain _ all => exact isBlank_of_isDigit (all char member)
  | signed _ all =>
      rcases List.mem_cons.mp member with rfl | member
      · decide
      · exact isBlank_of_isDigit (all char member)

theorem padded_trimChars (text : List Char) : Padded text (trimChars text) := by
  refine ⟨text.takeWhile isBlank,
    ((text.dropWhile isBlank).reverse.takeWhile isBlank).reverse, ?_, ?_, ?_⟩
  · rw [trimChars, List.append_assoc, ← List.reverse_append, List.takeWhile_append_dropWhile,
      List.reverse_reverse, List.takeWhile_append_dropWhile]
  · intro char member
    exact List.mem_takeWhile_imp member
  · intro char member
    exact List.mem_takeWhile_imp (List.mem_reverse.mp member)

theorem dropWhile_isBlank {before rest : List Char} {char : Char}
    (blank : ∀ char ∈ before, isBlank char) (solid : isBlank char = false) :
    (before ++ char :: rest).dropWhile isBlank = char :: rest := by
  rw [List.dropWhile_append_of_pos blank, List.dropWhile_cons_of_neg (by simp [solid])]

theorem Padded.trimChars_eq (padded : Padded text core) (several : core ≠ [])
    (solid : ∀ char ∈ core, isBlank char = false) : trimChars text = core := by
  rcases padded with ⟨before, after, rfl, blankBefore, blankAfter⟩
  -- Each end is trimmed up to the first character of the core that is met there.
  have front : (before ++ core ++ after).dropWhile isBlank = core ++ after := by
    rcases List.exists_cons_of_ne_nil several with ⟨first, rest, rfl⟩
    rw [List.append_assoc]
    exact dropWhile_isBlank blankBefore (solid first (List.mem_cons_self ..))
  have back : (after.reverse ++ core.reverse).dropWhile isBlank = core.reverse := by
    rcases List.exists_cons_of_ne_nil (List.reverse_ne_nil_iff.mpr several) with ⟨last, rest, same⟩
    rw [same]
    apply dropWhile_isBlank
    · simpa using blankAfter
    · exact solid last (List.mem_reverse.mp (same ▸ List.mem_cons_self ..))
  rw [trimChars, front, List.reverse_append, back, List.reverse_reverse]

/-- Reading what trimming leaves finds the numeral among the blanks. -/
theorem readNumeral?_trimChars_eq_some_iff :
    readNumeral? limit (trimChars text) = some value ↔
      (∃ numeral, Padded text numeral ∧ Numeral numeral value) ∧ value ≤ limit := by
  rw [readNumeral?_eq_some_iff]
  apply and_congr_left
  intro _
  constructor
  · intro numeral
    exact ⟨_, padded_trimChars text, numeral⟩
  · rintro ⟨numeral, padded, spells⟩
    have several : numeral ≠ [] := by
      cases spells with
      | plain several _ => exact several
      | signed _ _ => exact List.cons_ne_nil _ _
    rwa [padded.trimChars_eq several spells.not_isBlank]

end Workload.Text
