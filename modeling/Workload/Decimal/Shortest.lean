/-!
# The shortest decimal text of a binary floating point number

A finite double is `mantissa · 2^scale`. Of all decimals that lie in the interval of numbers
rounding to it (ends included when the mantissa is even) the ones with the fewest digits are taken,
and of those the nearest. The search tries 1, 2, …, 17 digits and looks at the two neighbours of the
number on each decimal grid.
-/

namespace Workload.Decimal

/-- A finite double without its sign: `mantissa · 2^scale`. -/
structure Binary where
  mantissa : Nat
  scale : Int
  /-- Whether the next smaller double is only half a step away. -/
  narrowBelow : Bool
deriving Repr, DecidableEq

/-- The magnitude of the double with the given bits. -/
def Binary.ofBits (bits : UInt64) : Binary :=
  let fraction := (bits &&& 0xFFFFFFFFFFFFF).toNat
  let exponent := ((bits >>> 52) &&& 0x7FF).toNat
  if exponent = 0 then ⟨fraction, -1074, false⟩
  else ⟨fraction + 0x10000000000000, (exponent : Int) - 1075, fraction = 0 && exponent > 1⟩

/-- Whether the double with the given bits is negative or negative zero. -/
def isNegative (bits : UInt64) : Bool :=
  bits >>> 63 == 1

/-- A decimal `digits · 10^exponent`. -/
structure Digits where
  digits : Nat
  exponent : Int
deriving Repr, DecidableEq

/-- A ratio of two naturals equal to `factor · base^exponent`. -/
def ratio (factor base : Nat) (exponent : Int) : Nat × Nat :=
  if 0 ≤ exponent then (factor * Nat.pow base exponent.toNat, 1)
  else (factor, Nat.pow base (-exponent).toNat)

/-- The decimal exponent of the leading digit of a positive number `numerator / denominator`. -/
def leadingExponent (numerator denominator : Nat) : Int :=
  if denominator ≤ numerator then
    ((Nat.toDigits 10 (numerator / denominator)).length : Int) - 1
  else
    match (List.range 400).find? fun shift => denominator ≤ numerator * Nat.pow 10 (shift + 1) with
    | some shift => -((shift : Int) + 1)
    | none => -400

/-- Whether `digits · 10^exponent` rounds to the given double. -/
def Binary.readsBack (number : Binary) (digits : Nat) (exponent : Int) : Bool :=
  let low := 4 * number.mantissa - (if number.narrowBelow then 1 else 2)
  let high := 4 * number.mantissa + 2
  let binary := ratio 1 2 (number.scale - 2)
  let decimal := ratio digits 10 exponent
  let place := decimal.1 * binary.2
  let least := low * binary.1 * decimal.2
  let greatest := high * binary.1 * decimal.2
  if number.mantissa % 2 = 0 then least ≤ place && place ≤ greatest
  else least < place && place < greatest

/-- The nearer of the two neighbours with `count` digits that round to the given double. -/
def Binary.withDigits? (number : Binary) (count : Nat) : Option Digits :=
  let value := ratio number.mantissa 2 number.scale
  let exponent := leadingExponent value.1 value.2 - (count : Int) + 1
  let grid := ratio 1 10 exponent
  let below := value.1 * grid.2 / (value.2 * grid.1)
  let gapBelow := value.1 * grid.2 - below * (value.2 * grid.1)
  let gapAbove := (below + 1) * (value.2 * grid.1) - value.1 * grid.2
  match number.readsBack below exponent, number.readsBack (below + 1) exponent with
  | true, true =>
      if gapBelow < gapAbove || (gapBelow = gapAbove && below % 2 = 0) then some ⟨below, exponent⟩
      else some ⟨below + 1, exponent⟩
  | true, false => some ⟨below, exponent⟩
  | false, true => some ⟨below + 1, exponent⟩
  | false, false => none

/-- The shortest decimal that reads back as the given positive double. -/
def Binary.shortest (number : Binary) : Digits :=
  ((List.range 17).findSome? fun count => number.withDigits? (count + 1)).getD ⟨0, 0⟩

/-- The digits of a decimal without trailing zeros, and its exponent raised accordingly. -/
def Digits.normal (decimal : Digits) : List Char × Int :=
  let written := Nat.toDigits 10 decimal.digits
  let zeros := (written.reverse.takeWhile (· = '0')).length
  (written.take (written.length - zeros), decimal.exponent + zeros)

/--
How digits are written whose last one counts for `10^exponent`: positional with a decimal point from
10⁻⁵ up to 10¹⁶, otherwise one leading digit and a signed exponent.
-/
def placed (digits : List Char) (exponent : Int) : List Char :=
  let point : Int := digits.length + exponent
  if 0 ≤ exponent && point ≤ 16 then
    digits ++ List.replicate exponent.toNat '0' ++ ['.', '0']
  else if 0 < point && point ≤ 16 then
    digits.take point.toNat ++ '.' :: digits.drop point.toNat
  else if -5 < point && point ≤ 0 then
    ['0', '.'] ++ List.replicate (-point).toNat '0' ++ digits
  else
    let power := point - 1
    let mark := if power < 0 then ['e', '-'] else ['e', '+']
    let magnitude := Nat.toDigits 10 power.natAbs
    match digits with
    | [] => []
    | [digit] => digit :: (mark ++ magnitude)
    | digit :: others => digit :: '.' :: (others ++ mark ++ magnitude)

/-- The text of a double without its sign. -/
def Binary.chars (number : Binary) : List Char :=
  if number.mantissa = 0 then ['0', '.', '0']
  else placed number.shortest.normal.1 number.shortest.normal.2

/-- The text of the double with the given bits. -/
def floatText (bits : UInt64) : String :=
  let sign := if isNegative bits then "-" else ""
  sign ++ String.ofList (Binary.ofBits bits).chars

end Workload.Decimal
