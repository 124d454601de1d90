import Mathlib

/-!
# How far rounding takes a double

A product of doubles is computed exactly and cut down to the 53 bits of a mantissa. Rounding adds
half of the last bit that is kept at most, so that a number from one on does not grow by more than
its 2⁵³rd part, and a number below 2¹⁰²⁴ − 2⁹⁷⁰ does not become infinite.
-/

namespace Workload.Decimal

open Float.Model UnpackedFloat

/-! ## Cutting a mantissa down -/

/-- A mantissa from which nothing was cut off yet. -/
def exactly (mantissa : Nat) : ExtendedMantissa :=
  ⟨mantissa, false, false⟩

@[simp]
theorem mantissa_exactly (mantissa : Nat) : (exactly mantissa).mantissa = mantissa :=
  rfl

theorem mantissa_shiftRight (extended : ExtendedMantissa) (count : Nat) :
    (extended >>> count).mantissa = extended.mantissa / 2 ^ count := by
  induction count with
  | zero => exact (Nat.div_one _).symm
  | succ count hypothesis =>
      change (extended >>> count).mantissa / 2 = _
      rw [hypothesis, Nat.div_div_eq_div_mul, Nat.pow_succ]

/-- The last bit that is cut off decides whether the mantissa is rounded up. -/
theorem roundBit_shiftRight (extended : ExtendedMantissa) (count : Nat) :
    (extended >>> (count + 1)).roundBit.toNat = extended.mantissa / 2 ^ count % 2 := by
  change ((extended >>> count).mantissa % 2 != 0).toNat = _
  rw [mantissa_shiftRight]
  rcases Nat.mod_two_eq_zero_or_one (extended.mantissa / 2 ^ count) with even | odd
  · rw [even]
    rfl
  · rw [odd]
    rfl

theorem mantissa_le_roundedMantissa (extended : ExtendedMantissa) :
    extended.mantissa ≤ extended.roundedMantissa := by
  rcases extended with ⟨mantissa, _ | _, _ | _⟩ <;>
    simp [ExtendedMantissa.roundedMantissa, ExtendedMantissa.accuracy, Accuracy.roundToNearestEven]

theorem roundedMantissa_le (extended : ExtendedMantissa) :
    extended.roundedMantissa ≤ extended.mantissa + extended.roundBit.toNat := by
  rcases extended with ⟨mantissa, _ | _, _ | _⟩ <;>
    simp [ExtendedMantissa.roundedMantissa, ExtendedMantissa.accuracy, Accuracy.roundToNearestEven]
  omega

/-- Rounding adds half of the last bit that is kept at most. -/
theorem roundedMantissa_shiftRight_le (mantissa count : Nat) :
    2 ^ (count + 1) * (exactly mantissa >>> count).roundedMantissa ≤
      2 * mantissa + 2 ^ count := by
  cases count with
  | zero =>
      change 2 ^ (0 + 1) * mantissa ≤ _
      omega
  | succ count =>
      have rounded := roundedMantissa_le (exactly mantissa >>> (count + 1))
      rw [mantissa_shiftRight, roundBit_shiftRight, mantissa_exactly, Nat.pow_succ,
        ← Nat.div_div_eq_div_mul] at rounded
      have kept : 2 ^ count * (mantissa / 2 ^ count) ≤ mantissa := Nat.mul_div_le ..
      -- The last bit of this quotient is the one that is cut off last.
      generalize mantissa / 2 ^ count = quotient at rounded kept
      have twice : 2 * (exactly mantissa >>> (count + 1)).roundedMantissa ≤ quotient + 1 := by
        omega
      calc 2 ^ (count + 1 + 1) * (exactly mantissa >>> (count + 1)).roundedMantissa
          = 2 ^ (count + 1) * (2 * (exactly mantissa >>> (count + 1)).roundedMantissa) := by ring
        _ ≤ 2 ^ (count + 1) * (quotient + 1) := Nat.mul_le_mul_left _ twice
        _ = 2 * (2 ^ count * quotient) + 2 ^ (count + 1) := by ring
        _ ≤ 2 * mantissa + 2 ^ (count + 1) := by omega

theorem shiftToTargetExponent_eq {mantissa : Nat} (exponent : Int) (wide : 2 ^ 52 ≤ mantissa)
    (above : -1074 ≤ exponent + (mantissa.log2 - 52 : Nat)) :
    shiftToTargetExponent .binary64 mantissa exponent .exact =
      (exactly mantissa >>> (mantissa.log2 - 52), exponent + (mantissa.log2 - 52 : Nat)) := by
  have bits : 52 ≤ mantissa.log2 := (Nat.le_log2 (by omega)).mpr wide
  have shift : (Format.binary64.targetExponent (totalExponent mantissa exponent) -
      exponent).toNat = mantissa.log2 - 52 := by
    simp only [Format.targetExponent, totalExponent, Format.mantissaBits, Format.minExponent]
    omega
  simp only [shiftToTargetExponent, shiftToExponent, shift]
  rfl

/-! ## Doubles from one on -/

/-- A double from one on that is finite and does not exceed the bound. -/
inductive UpTo (bound : ℚ) : UnpackedFloat → Prop where
  | intro (sign : Sign) (mantissa : Nat) (exponent : Int) (positive : 0 < mantissa)
      (wide : 2 ^ 52 ≤ mantissa) (narrow : mantissa < 2 ^ 53) (above : -52 ≤ exponent)
      (below : exponent ≤ 971) (small : (mantissa : ℚ) * 2 ^ exponent ≤ bound) :
      UpTo bound (.finite sign mantissa exponent positive)

/-- How much a number from one on grows at most when it is rounded. -/
def growth : ℚ := 1 + 1 / 2 ^ 53

/-- The least number that is rounded to infinity. -/
def overflow : Nat := 18014398509481983 * 2 ^ 970

theorem overflow_eq : (overflow : ℚ) = (2 ^ 54 - 1) * 2 ^ (970 : Int) := by
  have power : (2 : ℚ) ^ (970 : Int) = (2 ^ 970 : Nat) := by
    rw [Nat.cast_pow]
    exact zpow_natCast 2 970
  rw [power, overflow, Nat.cast_mul]
  norm_num only

variable {sign : Sign} {mantissa : Nat} {exponent : Int}

/-- A mantissa that was rounded up to 2⁵³ is cut down by one bit more. -/
theorem exists_finite_of_rounded (exponent : Int) {rounded : Nat} (wide : 2 ^ 52 ≤ rounded)
    (narrow : rounded ≤ 2 ^ 53) (above : -1074 ≤ exponent) :
    ∃ (mantissa : Nat) (final : Int), 2 ^ 52 ≤ mantissa ∧ mantissa < 2 ^ 53 ∧ exponent ≤ final ∧
      (mantissa : ℚ) * 2 ^ final = rounded * 2 ^ exponent ∧
      shiftToTargetExponent .binary64 rounded exponent .exact = (exactly mantissa, final) := by
  rcases Nat.lt_or_eq_of_le narrow with less | rfl
  · have bits : rounded.log2 = 52 := (Nat.log2_eq_iff (by omega)).mpr ⟨wide, less⟩
    refine ⟨rounded, exponent, wide, less, le_refl _, rfl, ?_⟩
    rw [shiftToTargetExponent_eq exponent wide (by omega), bits]
    simp
    rfl
  · refine ⟨2 ^ 52, exponent + 1, le_refl _, by decide, by omega, ?_, ?_⟩
    · rw [zpow_add_one₀ (by norm_num)]
      push_cast
      ring
    · rw [shiftToTargetExponent_eq exponent wide (by omega), Nat.log2_two_pow]
      rfl

/-- What is cut off of a number of 53 bits or more, and what rounding makes of the rest. -/
theorem exists_lastBit (wide : 2 ^ 52 ≤ mantissa) (exponent : Int) :
    ∃ count : Nat, mantissa.log2 - 52 = count ∧
      2 ^ 52 ≤ (exactly mantissa >>> count).roundedMantissa ∧
      2 ^ 52 * (2 : ℚ) ^ (exponent + (count : Int)) ≤ mantissa * 2 ^ exponent ∧
      (mantissa : ℚ) * 2 ^ exponent < 2 ^ 53 * 2 ^ (exponent + (count : Int)) ∧
      ((exactly mantissa >>> count).roundedMantissa : ℚ) * 2 ^ (exponent + (count : Int)) ≤
        mantissa * 2 ^ exponent + 2 ^ (exponent + (count : Int)) / 2 := by
  have nonzero : mantissa ≠ 0 := by omega
  have bits : 52 ≤ mantissa.log2 := (Nat.le_log2 nonzero).mpr wide
  rcases Nat.exists_eq_add_of_le bits with ⟨count, same⟩
  have least : 2 ^ 52 * 2 ^ count ≤ mantissa := by
    rw [← Nat.pow_add, ← same]
    exact Nat.log2_self_le nonzero
  have most : mantissa < 2 ^ 53 * 2 ^ count := by
    have less : mantissa < 2 ^ (mantissa.log2 + 1) := Nat.lt_log2_self
    rw [same, Nat.add_right_comm, Nat.pow_add] at less
    exact less
  have full := mantissa_le_roundedMantissa (exactly mantissa >>> count)
  rw [mantissa_shiftRight, mantissa_exactly] at full
  have half : (2 : ℚ) ^ (count + 1) * (exactly mantissa >>> count).roundedMantissa ≤
      2 * mantissa + 2 ^ count := by
    exact_mod_cast roundedMantissa_shiftRight_le mantissa count
  have power : (0 : ℚ) < 2 ^ exponent := by positivity
  have unit : (2 : ℚ) ^ (exponent + (count : Int)) = 2 ^ count * 2 ^ exponent := by
    rw [zpow_add₀ (by norm_num), zpow_natCast, mul_comm]
  have whole : 2 ^ 52 ≤ mantissa / 2 ^ count :=
    (Nat.le_div_iff_mul_le (by positivity)).mpr least
  refine ⟨count, by omega, Nat.le_trans whole full, ?_, ?_, ?_⟩
  · rw [unit, ← mul_assoc]
    exact mul_le_mul_of_nonneg_right (by exact_mod_cast least) power.le
  · rw [unit, ← mul_assoc]
    exact mul_lt_mul_of_pos_right (by exact_mod_cast most) power
  · have scaled := mul_le_mul_of_nonneg_right half power.le
    rw [pow_succ] at scaled
    rw [unit]
    linarith

theorem roundWithAccuracy_eq_finite {extended : ExtendedMantissa} {middle final : Int}
    {rounded : Nat} (sign : Sign)
    (cut : shiftToTargetExponent .binary64 mantissa exponent .exact = (extended, middle))
    (again : shiftToTargetExponent .binary64 extended.roundedMantissa middle .exact =
      (exactly rounded, final)) (positive : 0 < rounded) :
    roundWithAccuracy .binary64 sign mantissa exponent .exact =
      .finite sign rounded final positive := by
  simp [roundWithAccuracy, cut, again, positive.ne']

/-- A number of 53 bits or more that does not overflow is rounded to a double near it. -/
theorem upTo_roundWithAccuracy (sign : Sign) (wide : 2 ^ 52 ≤ mantissa)
    (one : 1 ≤ (mantissa : ℚ) * 2 ^ exponent)
    (finite : (mantissa : ℚ) * 2 ^ exponent < overflow) :
    UpTo (mantissa * 2 ^ exponent * growth)
      (roundWithAccuracy .binary64 sign mantissa exponent .exact) := by
  rcases exists_lastBit wide exponent with ⟨count, shift, whole, least, most, half⟩
  have unit : (0 : ℚ) < 2 ^ (exponent + (count : Int)) := by positivity
  have above : -52 ≤ exponent + (count : Int) := by
    have power : (1 : ℚ) < 2 ^ (53 + (exponent + (count : Int))) := by
      rw [zpow_add₀ (by norm_num)]
      exact lt_of_le_of_lt one most
    have positive := (one_lt_zpow_iff_right₀ (by norm_num)).mp power
    omega
  have below : exponent + (count : Int) ≤ 971 := by
    have power : (2 : ℚ) ^ (52 + (exponent + (count : Int))) < 2 ^ (54 + 970 : Int) := by
      rw [zpow_add₀ (by norm_num) 52, zpow_add₀ (by norm_num) 54]
      refine lt_of_le_of_lt least (lt_trans finite ?_)
      rw [overflow_eq]
      exact mul_lt_mul_of_pos_right (by norm_num) (by positivity)
    have less := (zpow_lt_zpow_iff_right₀ (by norm_num)).mp power
    omega
  have cut := shiftToTargetExponent_eq exponent wide (by omega)
  rw [shift] at cut
  have narrow : (exactly mantissa >>> count).roundedMantissa < 2 ^ 53 + 1 := by
    have less : ((exactly mantissa >>> count).roundedMantissa : ℚ) < 2 ^ 53 + 1 := by
      by_contra more
      have scaled := mul_le_mul_of_nonneg_right (not_lt.mp more) unit.le
      linarith
    exact_mod_cast less
  rcases exists_finite_of_rounded _ whole (Nat.le_of_lt_succ narrow)
    (by omega : -1074 ≤ exponent + (count : Int)) with
    ⟨rounded, final, wide, narrow, onward, value, again⟩
  rw [roundWithAccuracy_eq_finite sign cut again (by omega)]
  refine .intro sign rounded final (by omega) wide narrow (by omega) ?_ ?_
  · -- An exponent of 972 is only reached by rounding up, and not from below the limit.
    by_contra large
    have kept : (2 : ℚ) ^ (exponent + (count : Int)) ≤ 2 ^ (1 + 970 : Int) :=
      zpow_le_zpow_right₀ (by norm_num) (by omega)
    have power : (2 : ℚ) ^ (2 + 970 : Int) ≤ 2 ^ final :=
      zpow_le_zpow_right₀ (by norm_num) (by omega)
    rw [zpow_add₀ (by norm_num) 1] at kept
    rw [zpow_add₀ (by norm_num) 2] at power
    have bits : (2 : ℚ) ^ 52 ≤ rounded := by exact_mod_cast wide
    have product : (2 : ℚ) ^ 52 * (2 ^ (2 : Int) * 2 ^ (970 : Int)) ≤ rounded * 2 ^ final :=
      mul_le_mul bits power (by positivity) (by positivity)
    rw [value] at product
    rw [overflow_eq] at finite
    generalize (2 : ℚ) ^ (970 : Int) = power at kept product finite
    norm_num at kept product finite half
    linarith
  · rw [value, growth]
    linarith

/-! ## Packing and unpacking -/

/-- Packing loses nothing of a double whose mantissa has 53 bits. -/
theorem UpTo.pack {bound : ℚ} {double : UnpackedFloat} (upTo : UpTo bound double) :
    UpTo bound (Float.Model.pack double).unpack := by
  cases upTo with
  | intro sign mantissa exponent positive wide narrow above below small =>
      have bits : mantissa.log2 + 1 = 53 := by
        rw [(Nat.log2_eq_iff (by omega)).mpr ⟨wide, narrow⟩]
      have biased : (exponent + 1023 + 52).toNat = exponent + 1075 := by omega
      have finite : ¬ 2048 ≤ (exponent + 1023 + 52).toNat + 1 := by omega
      have packed : UnpackedFloat.pack .binary64 (.finite sign mantissa exponent positive) =
          packComponents .binary64 sign (BitVec.ofNat 11 (exponent + 1023 + 52).toNat)
            (BitVec.ofNat 52 mantissa) := by
        simp [UnpackedFloat.pack, Format.exponentBias, Format.mantissaBits, bits, finite]
      change UpTo bound (UnpackedFloat.unpack .binary64 (UnpackedFloat.pack .binary64 _))
      rw [packed]
      generalize (exponent + 1023 + 52).toNat = field at biased finite
      have wrapped : field % 2048 = field := Nat.mod_eq_of_lt (by omega)
      have notAll : (BitVec.ofNat 11 field) ≠ -1#11 := by
        intro same
        have number := congrArg BitVec.toNat same
        simp [wrapped] at number
        omega
      have notNone : (BitVec.ofNat 11 field) ≠ 0#11 := by
        intro same
        have number := congrArg BitVec.toNat same
        simp [wrapped] at number
        omega
      simp only [UnpackedFloat.unpack, unpackExponent_packComponents,
        unpackMantissa_packComponents, if_neg notAll, if_neg notNone]
      have value : (1#1 ++ BitVec.ofNat 52 mantissa).toNat = mantissa := by
        rw [BitVec.toNat_append, ← Nat.shiftLeft_add_eq_or_of_lt (BitVec.isLt _)]
        simp [Nat.shiftLeft_eq]
        omega
      have exponentEq : ((BitVec.ofNat 11 field).toNat : Int) -
          ((Format.binary64.exponentBias : Int) + (52 : Nat)) = exponent := by
        simp [Format.exponentBias, wrapped]
        omega
      refine .intro _ _ _ _ ?_ ?_ ?_ ?_ ?_
      · rw [value]
        exact wide
      · rw [value]
        exact narrow
      · rw [exponentEq]
        exact above
      · rw [exponentEq]
        exact below
      · rw [exponentEq, value]
        exact small

/-! ## Naturals, products and powers of ten -/

theorem UpTo.mono {bound larger : ℚ} {double : UnpackedFloat} (upTo : UpTo bound double)
    (less : bound ≤ larger) : UpTo larger double := by
  cases upTo with
  | intro sign mantissa exponent positive wide narrow above below small =>
      exact .intro sign mantissa exponent positive wide narrow above below (le_trans small less)

theorem UpTo.isInf_eq_false {bound : ℚ} {double : UnpackedFloat} (upTo : UpTo bound double) :
    double.isInf = false := by
  cases upTo
  rfl

theorem one_le_value (wide : 2 ^ 52 ≤ mantissa) (above : -52 ≤ exponent) :
    1 ≤ (mantissa : ℚ) * 2 ^ exponent := by
  have bits : (2 : ℚ) ^ 52 ≤ mantissa := by exact_mod_cast wide
  have power : (2 : ℚ) ^ (-52 : Int) ≤ 2 ^ exponent := zpow_le_zpow_right₀ (by norm_num) above
  have product := mul_le_mul bits power (by positivity) (by positivity)
  norm_num at product
  exact product

theorem UpTo.mul {first second : ℚ} {left right : Float} (leftUpTo : UpTo first left.toModel.unpack)
    (rightUpTo : UpTo second right.toModel.unpack) (finite : first * second < overflow) :
    UpTo (first * second * growth) (left * right).toModel.unpack := by
  change UpTo _ (Float.Model.pack (UnpackedFloat.mul .binary64 _ _)).unpack
  apply UpTo.pack
  generalize left.toModel.unpack = left at leftUpTo
  generalize right.toModel.unpack = right at rightUpTo
  cases leftUpTo with
  | intro sign mantissa exponent positive wide narrow above below small =>
  cases rightUpTo with
  | intro sign' mantissa' exponent' positive' wide' narrow' above' below' small' =>
      have one := one_le_value wide above
      have one' := one_le_value wide' above'
      have value : ((mantissa * mantissa' : Nat) : ℚ) * 2 ^ (exponent + exponent') =
          (mantissa * 2 ^ exponent) * (mantissa' * 2 ^ exponent') := by
        rw [zpow_add₀ (by norm_num), Nat.cast_mul]
        ring
      have product := mul_le_mul small small' (by linarith) (by linarith)
      rw [← value] at product
      have rounded := upTo_roundWithAccuracy (sign * sign')
        (Nat.le_trans wide (Nat.le_mul_of_pos_right mantissa positive'))
        (by rw [value]; exact one_le_mul_of_one_le_of_one_le one one')
        (lt_of_le_of_lt product finite)
      exact rounded.mono (mul_le_mul_of_nonneg_right product (by norm_num [growth]))

/-- A natural is shifted to 53 bits, or cut down to them. -/
theorem upTo_toFloat {number : UInt64} (positive : 0 < number.toNat) :
    UpTo (number.toNat * growth) number.toFloat.toModel.unpack := by
  have nonzero : number.toNat ≠ 0 := positive.ne'
  change UpTo _ (Float.Model.pack (UnpackedFloat.ofNat .binary64 number.toNat)).unpack
  apply UpTo.pack
  have small : number.toNat < 2 ^ 64 := number.toNat_lt
  generalize number.toNat = natural at positive nonzero small
  have compared : compare (natural : Int) 0 = .gt := by
    rw [Int.compare_eq_gt]
    exact_mod_cast positive
  have shift : (-Format.binary64.targetExponent (totalExponent natural 0)).toNat =
      52 - natural.log2 := by
    simp only [Format.targetExponent, totalExponent, Format.mantissaBits, Format.minExponent]
    omega
  have same : UnpackedFloat.ofNat .binary64 natural = roundWithAccuracy .binary64 .positive
      (natural * 2 ^ (52 - natural.log2)) (-(52 - natural.log2 : Nat)) .exact := by
    simp only [UnpackedFloat.ofNat, UnpackedFloat.ofInt, UnpackedFloat.normalize, compared,
      UnpackedFloat.round, decreaseExponent, Int.toNat_natCast, shift, Nat.shiftLeft_eq,
      Int.zero_sub]
  have value : ((natural * 2 ^ (52 - natural.log2) : Nat) : ℚ) *
      2 ^ (-((52 - natural.log2 : Nat) : Int)) = natural := by
    rw [Nat.cast_mul, Nat.cast_pow, zpow_neg, zpow_natCast]
    field_simp
    rfl
  have wide : 2 ^ 52 ≤ natural * 2 ^ (52 - natural.log2) :=
    calc 2 ^ 52 ≤ 2 ^ (natural.log2 + (52 - natural.log2)) :=
          Nat.pow_le_pow_right (by decide) (by omega)
      _ = 2 ^ natural.log2 * 2 ^ (52 - natural.log2) := Nat.pow_add ..
      _ ≤ natural * 2 ^ (52 - natural.log2) :=
          Nat.mul_le_mul_right _ (Nat.log2_self_le nonzero)
  have finite : natural < overflow := Nat.lt_trans small (by decide +kernel)
  have rounded := upTo_roundWithAccuracy .positive wide (by rw [value]; exact_mod_cast positive)
    (by rw [value]; exact_mod_cast finite)
  rw [value, ← same] at rounded
  exact rounded

/-- Whether a double has 53 bits and is the given power of ten. -/
def isPower (exponent : Nat) : UnpackedFloat → Bool
  | .finite _ mantissa power _ =>
      2 ^ 52 ≤ mantissa && mantissa < 2 ^ 53 && -52 ≤ power && power ≤ 971 &&
        mantissa * 2 ^ (power + 52).toNat = 10 ^ exponent * 2 ^ 52
  | _ => false

theorem upTo_of_isPower {exponent : Nat} {double : UnpackedFloat}
    (power : isPower exponent double) : UpTo (10 ^ exponent) double := by
  unfold isPower at power
  split at power
  · rename_i sign mantissa binary positive
    simp only [Bool.and_eq_true, decide_eq_true_eq] at power
    rcases power with ⟨⟨⟨⟨wide, narrow⟩, above⟩, below⟩, same⟩
    refine .intro sign mantissa binary positive wide narrow above below (le_of_eq ?_)
    rcases Int.eq_ofNat_of_zero_le (by omega : 0 ≤ binary + 52) with ⟨shift, raised⟩
    have exact : binary = (shift : Int) - 52 := by omega
    rw [raised, Int.toNat_natCast] at same
    have equation : (mantissa : ℚ) * 2 ^ shift = 10 ^ exponent * 2 ^ 52 := by exact_mod_cast same
    rw [exact, zpow_sub₀ (by norm_num), zpow_natCast, ← mul_div_assoc, equation]
    norm_num
  · cases power

/-- The small powers of ten are taken from a table, the others are rounded. -/
theorem upTo_power {exponent : Nat} (small : exponent ≤ 308) :
    UpTo (10 ^ exponent * growth) (Float.ofScientific 1 false exponent).toModel.unpack := by
  by_cases listed : exponent ≤ 22
  · have table : ∀ exponent < 23,
        isPower exponent (Float.ofScientific 1 false exponent).toModel.unpack := by
      decide +kernel
    have exact := upTo_of_isPower (table exponent (by omega))
    apply exact.mono
    rw [growth]
    have positive : (0 : ℚ) < 10 ^ exponent := by positivity
    linarith
  · have value : ((2 ^ 53 * 10 ^ exponent : Nat) : ℚ) * 2 ^ (-53 : Int) = 10 ^ exponent := by
      rw [Nat.cast_mul, Nat.cast_pow, Nat.cast_pow, zpow_neg]
      field_simp
      norm_num
    have finite : 10 ^ exponent < overflow :=
      Nat.lt_of_le_of_lt (Nat.pow_le_pow_right (by decide) small) (by decide +kernel)
    have slow : Float.ofScientific 1 false exponent =
        .ofModel (.pack (roundWithAccuracy .binary64 .positive (2 ^ 53 * 10 ^ exponent) (-53)
          .exact)) := by
      have bits : (2 : Int) ^ Format.binary64.exponentBits = 2048 := rfl
      rw [Float.ofScientific, dif_neg (by omega)]
      change Float.ofModel (.pack (UnpackedFloat.ofScientific .binary64 1 (exponent : Int))) = _
      rw [UnpackedFloat.ofScientific, dif_neg (by decide), bits, if_neg (by omega),
        if_neg (by omega), if_pos (by omega)]
      rfl
    rw [slow]
    apply UpTo.pack
    have wide : 2 ^ 52 ≤ 2 ^ 53 * 10 ^ exponent :=
      Nat.le_trans (by decide) (Nat.le_mul_of_pos_right _ (Nat.pow_pos (by decide)))
    have rounded := upTo_roundWithAccuracy .positive wide
      (by rw [value]; exact one_le_pow₀ (by norm_num)) (by rw [value]; exact_mod_cast finite)
    rw [value] at rounded
    exact rounded

/-- The product of a natural and a power of ten is finite if both may still grow by rounding. -/
theorem isInf_mul_power {significand : UInt64} {exponent : Nat} (positive : 0 < significand.toNat)
    (small : exponent ≤ 308)
    (finite : (significand.toNat : ℚ) * 10 ^ exponent * growth ^ 2 < overflow) :
    (significand.toFloat * Float.ofScientific 1 false exponent).isInf = false := by
  have product := (upTo_toFloat positive).mul (upTo_power small) (by
    calc (significand.toNat : ℚ) * growth * (10 ^ exponent * growth)
        = significand.toNat * 10 ^ exponent * growth ^ 2 := by ring
      _ < overflow := finite)
  exact product.isInf_eq_false

end Workload.Decimal
