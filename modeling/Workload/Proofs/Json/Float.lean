import Workload.Proofs.Decimal.Rounding
import Workload.Proofs.Decimal.Shortest
import Workload.Proofs.Json.Lexeme

/-!
# The text of a double is read

A double need not be read back as it was, but its text is a number that is not out of range. Only a
text with a positive exponent could be: then the digits and the power of ten are rounded and so is
their product. Together this cannot exceed the greatest double unless the double itself is one of
the two greatest, and the texts of these are known.
-/

namespace Workload.Json

open Decimal

/-! ## Scaling -/

/-- The significand can be scaled by the power of ten without becoming infinite. -/
def Scales (significand : Nat) (exponent : Int) : Prop :=
  exponent < 0 ∨ 0 < significand ∧ significand ≤ maxNatural ∧
    (significand : ℚ) * 10 ^ exponent * growth ^ 2 < overflow

theorem exists_scaleMagnitude_of_neg (bound : Nat) (magnitude : Float) {exponent : Int}
    (negative : exponent < 0) :
    ∃ scaled, scaleMagnitude bound magnitude exponent = some scaled := by
  induction bound generalizing magnitude exponent with
  | zero => exact ⟨magnitude, rfl⟩
  | succ bound hypothesis =>
      have below : ¬ 0 ≤ exponent := by omega
      simp only [scaleMagnitude, if_neg below]
      split
      · exact ⟨_, rfl⟩
      · split
        · exact ⟨_, rfl⟩
        · exact hypothesis _ (by omega)

theorem one_le_growth : 1 ≤ growth := by
  norm_num [growth]

/-- A power of ten that does not overflow is one of those that are listed or rounded. -/
theorem exponent_le_of_lt_overflow {exponent : Nat} (finite : (10 : ℚ) ^ exponent < overflow) :
    exponent ≤ 308 := by
  have natural : 10 ^ exponent < overflow := by exact_mod_cast finite
  have limit : overflow < 10 ^ 309 := by decide +kernel
  have less := (Nat.pow_lt_pow_iff_right (by decide)).mp (Nat.lt_trans natural limit)
  omega

theorem Scales.exists_floatNumber {significand : Nat} {exponent : Int}
    (scales : Scales significand exponent) (positive : Bool) :
    ∃ number, ∀ rest, floatNumber positive significand exponent rest = .ok (number, rest) := by
  have scaled : ∃ scaled, scaleMagnitude 4 significand.toUInt64.toFloat exponent = some scaled := by
    rcases scales with negative | ⟨nonzero, fits, finite⟩
    · exact exists_scaleMagnitude_of_neg 4 _ negative
    · rcases Int.lt_or_le exponent 0 with negative | natural
      · exact exists_scaleMagnitude_of_neg 4 _ negative
      rcases Int.eq_ofNat_of_zero_le natural with ⟨power, rfl⟩
      rw [zpow_natCast] at finite
      have one : (1 : ℚ) ≤ significand := by exact_mod_cast nonzero
      have grown : 1 ≤ growth ^ 2 := one_le_pow₀ one_le_growth
      -- As the significand is one at least, the power alone would overflow otherwise.
      have small : power ≤ 308 := by
        apply exponent_le_of_lt_overflow
        refine lt_of_le_of_lt ?_ finite
        rw [mul_right_comm]
        exact le_mul_of_one_le_left (by positivity) (one_le_mul_of_one_le_of_one_le one grown)
      have same : significand.toUInt64.toNat = significand :=
        Nat.mod_eq_of_lt (Nat.lt_of_le_of_lt fits (by decide))
      have calm := isInf_mul_power (by rw [same]; exact nonzero) small (by rw [same]; exact finite)
      refine ⟨significand.toUInt64.toFloat * Float.ofScientific 1 false power, ?_⟩
      simp only [scaleMagnitude, Int.natAbs_natCast, if_pos small, if_pos natural, calm,
        Bool.false_eq_true, if_false]
  rcases scaled with ⟨magnitude, scaled⟩
  exact ⟨signedFloat positive magnitude, fun rest => by rw [floatNumber, scaled]⟩

/-! ## Fractions and exponents -/

theorem skipDigits_append {digits more : List Char} (all : ∀ char ∈ digits, char.isDigit)
    (stops : NoDigit more) : skipDigits (digits ++ more) = more := by
  rw [skipDigits, List.dropWhile_append_of_pos all]
  cases more with
  | nil => rfl
  | cons char rest => simp [stops char rfl]

/-- Digits after the point are taken as long as they fit, so that the number is not above. -/
theorem exists_readFraction (positive : Bool) {significand : Nat} (exponent : Int)
    {digits : List Char} (all : ∀ char ∈ digits, char.isDigit) (fits : significand ≤ maxNatural) :
    ∃ taken final, significand ≤ taken ∧ taken ≤ maxNatural ∧ final ≤ exponent ∧
      (taken : ℚ) * 10 ^ final ≤
        Nat.ofDigitChars 10 digits significand * 10 ^ (exponent - digits.length) ∧
      ∀ more, NoDigit more → readFraction positive significand exponent true (digits ++ more) =
        readOptionalExponent positive taken final more := by
  induction digits generalizing significand exponent with
  | nil =>
      refine ⟨significand, exponent, le_refl _, fits, le_refl _, by simp, ?_⟩
      intro more stops
      cases more with
      | nil => rfl
      | cons char rest => simp [readFraction, stops char rfl]
  | cons digit digits hypothesis =>
      rw [List.forall_mem_cons] at all
      -- The digits from the first that does not fit on are dropped, which lowers the value.
      by_cases large : maxNatural < significand * 10 + Text.digitValue digit
      · refine ⟨significand, exponent, le_refl _, fits, le_refl _, ?_, ?_⟩
        · have least : (significand : ℚ) * 10 ^ (digit :: digits).length ≤
              Nat.ofDigitChars 10 (digit :: digits) significand := by
            rw [Nat.ofDigitChars_eq_ofDigitChars_zero, Nat.mul_comm]
            exact_mod_cast Nat.le_add_right ..
          have power : (10 : ℚ) ^ exponent = 10 ^ (digit :: digits).length *
              10 ^ (exponent - (digit :: digits).length) := by
            rw [← zpow_natCast, ← zpow_add₀ (by norm_num), add_sub_cancel]
          rw [power, ← mul_assoc]
          exact mul_le_mul_of_nonneg_right least (by positivity)
        · intro more stops
          simp only [List.cons_append, readFraction, if_pos all.1, if_pos large,
            skipDigits_append all.2 stops]
      · rcases hypothesis (exponent - 1) all.2 (Nat.not_lt.mp large) with
          ⟨taken, final, more, small, lower, value, read⟩
        refine ⟨taken, final, by omega, small, by omega, ?_, ?_⟩
        · have same : exponent - 1 - digits.length = exponent - (digit :: digits).length := by
            rw [List.length_cons]
            omega
          rw [same, Nat.mul_comm] at value
          rw [Nat.ofDigitChars_cons]
          exact value
        · intro rest stops
          simp only [List.cons_append, readFraction, if_pos all.1, if_neg large, read rest stops]

theorem fits_of_small {whole : Nat} (small : whole < 10 ^ 16) {digit : Char}
    (isDigit : digit.isDigit) : whole * 10 + Text.digitValue digit ≤ maxNatural := by
  have value : Text.digitValue digit ≤ 9 := Text.digitValue_le_nine isDigit
  have limit : 10 ^ 17 ≤ maxNatural := by decide
  omega

theorem readFraction_cons (positive : Bool) {whole : Nat} (small : whole < 10 ^ 16) {digit : Char}
    (isDigit : digit.isDigit) (rest : List Char) :
    readFraction positive whole 0 false (digit :: rest) =
      readFraction positive (whole * 10 + Text.digitValue digit) (-1) true rest := by
  simp only [readFraction, if_pos isDigit, if_neg (Nat.not_lt.mpr (fits_of_small small isDigit))]
  rfl

theorem readOptionalExponent_of_ends (positive : Bool) (significand : Nat) (exponent : Int)
    {more : List Char} (ends : Ends more) :
    readOptionalExponent positive significand exponent more =
      floatNumber positive significand exponent more := by
  cases ends <;> rfl

/-- A number with a fraction and without an exponent. -/
theorem exists_readFraction_of_small (positive : Bool) {whole : Nat} (small : whole < 10 ^ 16)
    {digits : List Char} (some : digits ≠ []) (all : ∀ char ∈ digits, char.isDigit) :
    ∃ number, ∀ more, Ends more →
      readFraction positive whole 0 false (digits ++ more) = .ok (number, more) := by
  cases digits with
  | nil => exact absurd rfl some
  | cons digit digits =>
      rw [List.forall_mem_cons] at all
      rcases exists_readFraction positive (-1) all.2 (fits_of_small small all.1) with
        ⟨taken, final, _, _, lower, _, read⟩
      have scales : Scales taken final := Or.inl (by omega)
      rcases scales.exists_floatNumber positive with ⟨number, scaled⟩
      refine ⟨number, ?_⟩
      intro more ends
      rw [List.cons_append, readFraction_cons positive small all.1, read more ends.noDigit,
        readOptionalExponent_of_ends positive taken final ends, scaled]

theorem readExponentDigits_append (positive : Bool) (significand : Nat) (start : Int) (raise : Bool)
    {exponent : Nat} {digits more : List Char} (all : ∀ char ∈ digits, char.isDigit)
    (fits : Nat.ofDigitChars 10 digits exponent ≤ maxExponent) (stops : NoDigit more) :
    readExponentDigits positive significand start raise exponent (digits ++ more) =
      floatNumber positive significand
        (if raise then start + Nat.ofDigitChars 10 digits exponent
          else start - Nat.ofDigitChars 10 digits exponent) more := by
  induction digits generalizing exponent with
  | nil =>
      cases more with
      | nil => rfl
      | cons char rest =>
          simp [readExponentDigits, stops char rfl]
  | cons digit digits hypothesis =>
      rw [List.forall_mem_cons] at all
      rw [Nat.ofDigitChars_cons, Nat.mul_comm 10] at fits ⊢
      have small : ¬ maxExponent < exponent * 10 + Text.digitValue digit :=
        Nat.not_lt.mpr (Nat.le_trans (Text.le_ofDigitChars digits _) fits)
      simp only [List.cons_append, readExponentDigits, if_pos all.1, if_neg small]
      exact hypothesis all.2 fits

/-- A negative exponent can be as large as it likes. -/
theorem exists_readExponentDigits_lower (positive : Bool) (significand : Nat) {start : Int}
    {exponent : Nat} {digits : List Char} (all : ∀ char ∈ digits, char.isDigit)
    (below : start < Nat.ofDigitChars 10 digits exponent) :
    ∃ number, ∀ more, NoDigit more →
      readExponentDigits positive significand start false exponent (digits ++ more) =
        .ok (number, more) := by
  induction digits generalizing exponent with
  | nil =>
      have scales : Scales significand (start - exponent) := Or.inl (by simpa using below)
      rcases scales.exists_floatNumber positive with ⟨number, scaled⟩
      refine ⟨number, ?_⟩
      intro more stops
      cases more with
      | nil => exact scaled []
      | cons char rest =>
          simp [readExponentDigits, stops char rfl, scaled]
  | cons digit digits hypothesis =>
      rw [List.forall_mem_cons] at all
      rw [Nat.ofDigitChars_cons, Nat.mul_comm 10] at below
      by_cases large : maxExponent < exponent * 10 + Text.digitValue digit
      · refine ⟨signedFloat positive 0.0, ?_⟩
        intro more stops
        simp [readExponentDigits, all.1, large, skipDigits_append all.2 stops]
      · rcases hypothesis all.2 below with ⟨number, read⟩
        refine ⟨number, ?_⟩
        intro more stops
        simp only [List.cons_append, readExponentDigits, if_pos all.1, if_neg large]
        exact read more stops

/-- An exponent that was written is read, and the number it belongs to does not overflow. -/
theorem exists_readExponent (positive : Bool) {significand : Nat} {start power : Int}
    (small : power ≤ 308) (lower : power < 0 → start ≤ 0)
    (scales : 0 ≤ power → Scales significand (start + power)) :
    ∃ number, ∀ more, NoDigit more →
      readExponent positive significand start
        ((if power < 0 then '-' else '+') :: Nat.toDigits 10 power.natAbs ++ more) =
          .ok (number, more) := by
  have all : ∀ char ∈ Nat.toDigits 10 power.natAbs, char.isDigit := by
    intro char member
    exact Nat.isDigit_of_mem_toDigits (by decide) (by decide) member
  have value : Nat.ofDigitChars 10 (Nat.toDigits 10 power.natAbs) 0 = power.natAbs := by simp
  cases digits : Nat.toDigits 10 power.natAbs with
  | nil => exact absurd digits Nat.toDigits_ne_nil
  | cons first rest =>
      rw [digits, List.forall_mem_cons] at all
      rw [digits, Nat.ofDigitChars_cons, Nat.mul_zero, Nat.zero_add] at value
      by_cases negative : power < 0
      · have below : start < Nat.ofDigitChars 10 rest (Text.digitValue first) := by
          have start := lower negative
          change _ < ((Nat.ofDigitChars 10 rest (first.toNat - '0'.toNat) : Nat) : Int)
          omega
        rcases exists_readExponentDigits_lower positive significand all.2 below with
          ⟨number, read⟩
        refine ⟨number, ?_⟩
        intro more stops
        simp only [if_pos negative, List.cons_append, readExponent, if_pos all.1]
        exact read more stops
      · rcases (scales (by omega)).exists_floatNumber positive with ⟨number, scaled⟩
        refine ⟨number, ?_⟩
        intro more stops
        simp only [if_neg negative, List.cons_append, readExponent, if_pos all.1]
        have limit : 308 ≤ maxExponent := by decide
        have read := readExponentDigits_append positive significand start true all.2
          (by rw [value]; omega) stops
        have same : start + (power.natAbs : Int) = start + power := by omega
        rw [value, if_pos rfl, same, scaled] at read
        exact read

/-! ## The forms of a decimal -/

/-- The exponent of a number in scientific notation. -/
def exponentChars (power : Int) : List Char :=
  (if power < 0 then ['e', '-'] else ['e', '+']) ++ Nat.toDigits 10 power.natAbs

theorem exponentChars_eq (power : Int) :
    exponentChars power =
      'e' :: (if power < 0 then '-' else '+') :: Nat.toDigits 10 power.natAbs := by
  unfold exponentChars
  split <;> rfl

/-- A decimal is written with a point among few digits, or with an exponent. -/
theorem placed_cases {digits : List Char} (leading : Text.Leading digits) (exponent : Int) :
    (∃ whole fraction, placed digits exponent = whole ++ '.' :: fraction ∧
      (whole = ['0'] ∨ Text.Leading whole) ∧ whole.length ≤ 16 ∧
      fraction ≠ [] ∧ ∀ char ∈ fraction, char.isDigit) ∨
    (∃ digit, digits = [digit] ∧ placed digits exponent = digit :: exponentChars exponent) ∨
    ∃ digit other others, digits = digit :: other :: others ∧
      placed digits exponent = digit :: '.' :: (other :: others) ++
        exponentChars (digits.length + exponent - 1) := by
  have zeros : ∀ count, ∀ char ∈ List.replicate count '0', char.isDigit := by
    intro count char member
    rw [List.eq_of_mem_replicate member]
    rfl
  unfold placed
  dsimp only
  split
  · rename_i positional
    simp only [Bool.and_eq_true, decide_eq_true_eq] at positional
    have short : (digits ++ List.replicate exponent.toNat '0').length ≤ 16 := by
      rw [List.length_append, List.length_replicate]
      omega
    exact Or.inl ⟨_, ['0'], rfl, Or.inr (leading.append (zeros _)), short, by simp, by simp⟩
  · rename_i notWhole
    simp only [Bool.and_eq_true, decide_eq_true_eq, not_and] at notWhole
    split
    · rename_i inside
      simp only [Bool.and_eq_true, decide_eq_true_eq] at inside
      have some : 0 < (digits.length + exponent).toNat := by omega
      have short : (digits.take (digits.length + exponent).toNat).length ≤ 16 := by
        rw [List.length_take]
        omega
      have fraction : digits.drop (digits.length + exponent).toNat ≠ [] := by
        rw [Ne, List.drop_eq_nil_iff]
        omega
      exact Or.inl ⟨_, _, rfl, Or.inr (leading.take some), short, fraction,
        fun char member => leading.all char (List.mem_of_mem_drop member)⟩
    · split
      · refine Or.inl ⟨['0'], _, rfl, Or.inl rfl, by decide, ?_, ?_⟩
        · rcases leading.first with ⟨first, rest, rfl, _⟩
          simp
        · intro char member
          rcases List.mem_append.mp member with zero | digit
          · exact zeros _ char zero
          · exact leading.all char digit
      · right
        rcases leading.first with ⟨digit, others, rfl, _⟩
        cases others with
        | nil =>
            have same : ([digit].length : Int) + exponent - 1 = exponent := by simp
            rw [same]
            exact Or.inl ⟨digit, rfl, rfl⟩
        | cons other others =>
            refine Or.inr ⟨digit, other, others, rfl, ?_⟩
            simp [exponentChars]

/-- A short number with a point is read. -/
theorem exists_readNumber_point (positive : Bool) {whole fraction : List Char}
    (leading : whole = ['0'] ∨ Text.Leading whole) (short : whole.length ≤ 16)
    (some : fraction ≠ []) (all : ∀ char ∈ fraction, char.isDigit) :
    ∃ number, ∀ more, Ends more →
      readNumber positive (whole ++ '.' :: fraction ++ more) = .ok (number, more) := by
  have stops : ∀ rest, NoDigit ('.' :: rest) := by simp [NoDigit]
  rcases leading with rfl | leading
  · rcases exists_readFraction_of_small positive (by decide : 0 < 10 ^ 16) some all with
      ⟨number, read⟩
    refine ⟨number, ?_⟩
    intro more ends
    simp only [List.cons_append, List.nil_append, readNumber_zero (stops _), readAfterInteger,
      read more ends]
  · have small : Nat.ofDigitChars 10 whole 0 < 10 ^ 16 :=
      calc Nat.ofDigitChars 10 whole 0 < (0 + 1) * 10 ^ whole.length :=
            Text.ofDigitChars_lt leading.all 0
        _ = 10 ^ whole.length := by omega
        _ ≤ 10 ^ 16 := Nat.pow_le_pow_right (by decide) short
    have fits : Nat.ofDigitChars 10 whole 0 ≤ maxNatural :=
      Nat.le_of_lt (Nat.lt_trans small (by decide))
    rcases exists_readFraction_of_small positive small some all with ⟨number, read⟩
    refine ⟨number, ?_⟩
    intro more ends
    rw [List.append_assoc, List.cons_append, readNumber_append leading fits (stops _)]
    exact read more ends

section Scientific

variable (positive : Bool) {digit : Char} {power : Int}

omit positive in
theorem ofDigitChars_lt_ten (leading : Text.Leading [digit]) :
    Nat.ofDigitChars 10 [digit] 0 < 10 :=
  Text.ofDigitChars_lt leading.all 0

theorem exists_readNumber_digit (leading : Text.Leading [digit]) (small : power ≤ 308)
    (finite : (Nat.ofDigitChars 10 [digit] 0 : ℚ) * 10 ^ power * growth ^ 2 < overflow) :
    ∃ number, ∀ more, Ends more →
      readNumber positive (digit :: exponentChars power ++ more) = .ok (number, more) := by
  have fits : Nat.ofDigitChars 10 [digit] 0 ≤ maxNatural := (ofDigitChars_lt_ten leading).le.trans
    (by decide)
  have scales : 0 ≤ power → Scales (Nat.ofDigitChars 10 [digit] 0) (0 + power) := by
    intro _
    rw [Int.zero_add]
    exact Or.inr ⟨leading.pos, fits, finite⟩
  rcases exists_readExponent positive small (fun _ => le_refl 0) scales with ⟨number, read⟩
  refine ⟨number, ?_⟩
  intro more ends
  have stops : NoDigit (exponentChars power ++ more) := by simp [exponentChars_eq, NoDigit]
  have first : readNumber positive ([digit] ++ (exponentChars power ++ more)) = _ :=
    readNumber_append leading fits stops
  rw [exponentChars_eq] at first ⊢
  exact first.trans (read more ends.noDigit)

theorem exists_readNumber_digits {other : Char} {others : List Char}
    (leading : Text.Leading (digit :: other :: others)) (small : power ≤ 308)
    (finite : (Nat.ofDigitChars 10 (digit :: other :: others) 0 : ℚ) *
      10 ^ (power - (other :: others).length) * growth ^ 2 < overflow) :
    ∃ number, ∀ more, Ends more →
      readNumber positive (digit :: '.' :: (other :: others) ++ exponentChars power ++ more) =
        .ok (number, more) := by
  have first : Text.Leading [digit] := by
    rcases leading with ⟨all, char, rest, same, nonzero⟩
    rw [List.cons.injEq] at same
    exact ⟨fun char member => all char (List.mem_cons.mpr (Or.inl (by simpa using member))), digit,
      [], rfl, same.1 ▸ nonzero⟩
  have positiveDigit := first.pos
  have single := ofDigitChars_lt_ten first
  have tiny : Nat.ofDigitChars 10 [digit] 0 < 10 ^ 16 := by omega
  have rest := leading.all
  rw [List.forall_mem_cons, List.forall_mem_cons] at rest
  have whole : Nat.ofDigitChars 10 (digit :: other :: others) 0 =
      Nat.ofDigitChars 10 others
        (Nat.ofDigitChars 10 [digit] 0 * 10 + Text.digitValue other) := by
    rw [Nat.mul_comm]
    rfl
  rcases exists_readFraction positive (-1) rest.2.2 (fits_of_small tiny rest.2.1) with
    ⟨taken, final, more, fits, lower, value, read⟩
  have scales : 0 ≤ power → Scales taken (final + power) := by
    intro _
    refine Or.inr ⟨by omega, fits, lt_of_le_of_lt ?_ finite⟩
    have same : power - (other :: others).length = -1 - (others.length : Int) + power := by
      rw [List.length_cons]
      omega
    rw [same, zpow_add₀ (by norm_num), zpow_add₀ (by norm_num), ← mul_assoc, ← mul_assoc, whole]
    have ten : (0 : ℚ) ≤ 10 ^ power := by positivity
    have grown : 0 ≤ growth ^ 2 := le_trans zero_le_one (one_le_pow₀ one_le_growth)
    exact mul_le_mul_of_nonneg_right (mul_le_mul_of_nonneg_right value ten) grown
  rcases exists_readExponent positive small (fun _ => by omega) scales with ⟨number, onward⟩
  refine ⟨number, ?_⟩
  intro text ends
  have point : NoDigit ('.' :: other :: (others ++ (exponentChars power ++ text))) := by
    simp [NoDigit]
  have mark : NoDigit (exponentChars power ++ text) := by simp [exponentChars_eq, NoDigit]
  have start : readNumber positive
      ([digit] ++ '.' :: other :: (others ++ (exponentChars power ++ text))) = _ :=
    readNumber_append first (single.le.trans (by decide)) point
  have fraction := readFraction_cons positive tiny rest.2.1
    (others ++ (exponentChars power ++ text))
  rw [read _ mark, exponentChars_eq] at fraction
  rw [exponentChars_eq] at start ⊢
  simp only [List.cons_append, List.nil_append, List.append_assoc] at start fraction ⊢
  rw [start]
  exact fraction.trans (onward text ends.noDigit)

end Scientific

/-- The leading digit of a decimal that does not overflow stands for a listed power of ten. -/
theorem point_le_of_lt_overflow {digits : List Char} {exponent : Int}
    (leading : Text.Leading digits)
    (finite : (Nat.ofDigitChars 10 digits 0 : ℚ) * 10 ^ exponent * growth ^ 2 < overflow) :
    digits.length + exponent - 1 ≤ 308 := by
  rcases Int.lt_or_le (digits.length + exponent - 1) 0 with negative | natural
  · omega
  rcases Int.eq_ofNat_of_zero_le natural with ⟨power, same⟩
  rw [same]
  have some : 0 < digits.length := by
    rcases leading.first with ⟨first, rest, rfl, _⟩
    exact Nat.succ_pos _
  have least : (10 : ℚ) ^ (digits.length - 1) ≤ Nat.ofDigitChars 10 digits 0 := by
    exact_mod_cast leading.pow_le
  have value : (10 : ℚ) ^ power = 10 ^ (digits.length - 1) * 10 ^ exponent := by
    rw [← zpow_natCast, ← zpow_natCast, ← zpow_add₀ (by norm_num)]
    congr 1
    omega
  have small : power ≤ 308 := by
    apply exponent_le_of_lt_overflow
    calc (10 : ℚ) ^ power ≤ Nat.ofDigitChars 10 digits 0 * 10 ^ exponent := by
          rw [value]
          exact mul_le_mul_of_nonneg_right least (by positivity)
      _ ≤ Nat.ofDigitChars 10 digits 0 * 10 ^ exponent * growth ^ 2 :=
          le_mul_of_one_le_right (mul_nonneg (Nat.cast_nonneg _) (zpow_nonneg (by norm_num) _))
            (one_le_pow₀ one_le_growth)
      _ < overflow := finite
  omega

/-- A decimal that does not overflow is read in whichever form it was written. -/
theorem exists_readNumber_placed (positive : Bool) {digits : List Char} {exponent : Int}
    (leading : Text.Leading digits)
    (finite : (Nat.ofDigitChars 10 digits 0 : ℚ) * 10 ^ exponent * growth ^ 2 < overflow) :
    ∃ number, ∀ more, Ends more →
      readNumber positive (placed digits exponent ++ more) = .ok (number, more) := by
  have small := point_le_of_lt_overflow leading finite
  rcases placed_cases leading exponent with
    ⟨whole, fraction, written, start, short, some, all⟩ | ⟨digit, rfl, written⟩ |
      ⟨digit, other, others, rfl, written⟩
  · rw [written]
    exact exists_readNumber_point positive start short some all
  · rw [List.length_singleton, Nat.cast_one, add_sub_cancel_left] at small
    rw [written]
    exact exists_readNumber_digit positive leading small finite
  · have same : ((digit :: other :: others).length : Int) + exponent - 1 -
        (other :: others).length = exponent := by
      simp only [List.length_cons]
      omega
    rw [← same] at finite
    rw [written]
    exact exists_readNumber_digits positive leading small finite

/-! ## Doubles -/

/-- What may round to a double that is not among the two greatest does not overflow. -/
theorem interval_lt_overflow {number : Binary} (finite : number.IsFinite)
    (lower : number.scale = 971 → number.mantissa + 2 < 2 ^ 53) :
    (4 * number.mantissa + 2) * (2 : ℚ) ^ (number.scale - 2) * growth ^ 2 < overflow := by
  have split : (2 : ℚ) ^ (970 : Int) = 2 ^ (968 : Int) * 2 ^ (2 : Int) :=
    zpow_add₀ (by norm_num) 968 2
  have limit : (overflow : ℚ) = (2 ^ 54 - 1) * 4 * 2 ^ (968 : Int) := by
    rw [overflow_eq, split]
    ring
  have power : (0 : ℚ) < 2 ^ (968 : Int) := by positivity
  have slack : (2 ^ 54 - 5) * 4 * growth ^ 2 < (2 ^ 54 - 1 : ℚ) * 4 := by norm_num [growth]
  have bound : (4 * number.mantissa + 2) * (2 : ℚ) ^ (number.scale - 2) ≤
      (2 ^ 54 - 5) * 4 * 2 ^ (968 : Int) := by
    rcases Int.lt_or_eq_of_le finite.below with less | greatest
    · have mantissa : (number.mantissa : ℚ) ≤ 2 ^ 53 := by exact_mod_cast finite.narrow.le
      have scale : (2 : ℚ) ^ (number.scale - 2) ≤ 2 ^ (968 : Int) :=
        zpow_le_zpow_right₀ (by norm_num) (by omega)
      exact mul_le_mul (by linarith) scale (by positivity) (by norm_num)
    · have mantissa : (number.mantissa : ℚ) + 3 ≤ 2 ^ 53 := by exact_mod_cast lower greatest
      have scale : (2 : ℚ) ^ (number.scale - 2) = 2 ^ (968 : Int) * 2 := by
        rw [greatest]
        exact zpow_add_one₀ (by norm_num) 968
      rw [scale, ← mul_assoc, mul_right_comm]
      exact mul_le_mul_of_nonneg_right (by linarith) power.le
  calc (4 * number.mantissa + 2) * (2 : ℚ) ^ (number.scale - 2) * growth ^ 2
      ≤ (2 ^ 54 - 5) * 4 * 2 ^ (968 : Int) * growth ^ 2 :=
        mul_le_mul_of_nonneg_right bound (by norm_num [growth])
    _ = (2 ^ 54 - 5) * 4 * growth ^ 2 * 2 ^ (968 : Int) := by ring
    _ < (2 ^ 54 - 1) * 4 * 2 ^ (968 : Int) := mul_lt_mul_of_pos_right slack power
    _ = overflow := limit.symm

theorem exists_readNumber_of_scaled (positive : Bool) (significand : Nat) {chars : List Char}
    (read : ∀ more, Ends more → readNumber positive (chars ++ more) =
      floatNumber positive significand 292 more)
    (scaled : (scaleMagnitude 4 significand.toUInt64.toFloat 292).isSome) :
    ∃ number, ∀ more, Ends more → readNumber positive (chars ++ more) = .ok (number, more) := by
  rcases Option.isSome_iff_exists.mp scaled with ⟨magnitude, some⟩
  refine ⟨signedFloat positive magnitude, ?_⟩
  intro more ends
  rw [read more ends, floatNumber, some]

/-- The products that the two greatest doubles are read as are next to the overflow. -/
theorem exists_readNumber_greatest (positive : Bool) {mantissa : Nat}
    (greatest : mantissa = 2 ^ 53 - 1 ∨ mantissa = 2 ^ 53 - 2) :
    ∃ number, ∀ more, Ends more →
      readNumber positive ((Binary.mk mantissa 971 false).chars ++ more) = .ok (number, more) := by
  rcases greatest with rfl | rfl
  · have chars : (Binary.mk (2 ^ 53 - 1) 971 false).chars =
        "1.7976931348623157e+308".toList := by decide +kernel
    rw [chars]
    apply exists_readNumber_of_scaled positive 17976931348623157 ?_ (by decide +kernel)
    intro more ends
    cases ends <;>
      simp [readNumber, readInteger, readAfterInteger, readFraction, readOptionalExponent,
        readExponent, readExponentDigits, Text.digitValue, maxNatural, maxExponent]
  · have chars : (Binary.mk (2 ^ 53 - 2) 971 false).chars =
        "1.7976931348623155e+308".toList := by decide +kernel
    rw [chars]
    apply exists_readNumber_of_scaled positive 17976931348623155 ?_ (by decide +kernel)
    intro more ends
    cases ends <;>
      simp [readNumber, readInteger, readAfterInteger, readFraction, readOptionalExponent,
        readExponent, readExponentDigits, Text.digitValue, maxNatural, maxExponent]

/-- The text of a finite double is read, whatever follows it. -/
theorem exists_readNumber_chars (positive : Bool) {number : Binary} (finite : number.IsFinite) :
    ∃ again, ∀ more, Ends more →
      readNumber positive (number.chars ++ more) = .ok (again, more) := by
  by_cases zero : number.mantissa = 0
  · have digits : number.chars = ['0'] ++ '.' :: ['0'] := by simp [Binary.chars, zero]
    rw [digits]
    exact exists_readNumber_point positive (Or.inl rfl) (by decide) (by simp) (by simp)
  have written : number.chars = placed number.shortest.normal.1 number.shortest.normal.2 := by
    rw [Binary.chars, if_neg zero]
  -- The bound on rounding is too coarse for the two greatest doubles.
  by_cases lower : number.scale = 971 → number.mantissa + 2 < 2 ^ 53
  · rw [written]
    rcases exists_shortest zero with none | ⟨leading, value⟩
    · rw [none]
      exact exists_readNumber_point positive (Or.inl rfl) (by decide) (by simp) (by simp)
    · apply exists_readNumber_placed positive leading
      exact lt_of_le_of_lt (mul_le_mul_of_nonneg_right value (by norm_num [growth]))
        (interval_lt_overflow finite lower)
  · rcases number with ⟨mantissa, scale, narrow⟩
    rcases finite with ⟨small, below, powerOfTwo⟩
    simp only [Classical.not_imp, not_lt] at lower small below powerOfTwo
    rcases lower with ⟨rfl, large⟩
    have wide : narrow = false := by
      rw [← Bool.not_eq_true]
      intro only
      have middle := powerOfTwo only
      omega
    subst wide
    exact exists_readNumber_greatest positive (by omega)

end Workload.Json
