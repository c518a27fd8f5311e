/-! # Numbers with 53 significant bits

Finite numbers of the interchange format binary64, as a sign and a magnitude `mantissa * 2 ^ exponent`.
Every rounding is done exactly on natural numbers: to the nearest number of the format, a tie going to
the even mantissa.

* `roundQuotient_error`   `roundQuotient` is within half a unit of the quotient
-/

namespace CardServer

/-- A finite number of the format: a sign and the magnitude `mantissa * 2 ^ exponent`.

    `ofFraction` builds the canonical form: the mantissa is below `2 ^ 53`, and it is at least `2 ^ 52`
    unless the exponent is the least one. -/
structure Binary64 where
  negative : Bool
  mantissa : Nat
  exponent : Int
  deriving DecidableEq, Repr

/-- The integer nearest to `num / den`, a tie going to the even one. -/
def roundQuotient (num den : Nat) : Nat :=
  let q := num / den
  let r := num % den
  if 2 * r < den then q
  else if den < 2 * r then q + 1
  else q + q % 2

/-- The rounded quotient is within half a unit of the quotient. -/
theorem roundQuotient_error (num : Nat) {den : Nat} (hd : 0 < den) :
    2 * (roundQuotient num den * den) ≤ 2 * num + den ∧
      2 * num ≤ 2 * (roundQuotient num den * den) + den := by
  have h := Nat.div_add_mod num den
  have hc : num / den * den = den * (num / den) := Nat.mul_comm _ _
  have hr := Nat.mod_lt num hd
  simp only [roundQuotient]
  split
  · constructor <;> omega
  · split
    · simp only [Nat.add_mul, Nat.one_mul]
      constructor <;> omega
    · rcases Nat.mod_two_eq_zero_or_one (num / den) with h2 | h2 <;> rw [h2]
      · simp only [Nat.add_zero]
        constructor <;> omega
      · simp only [Nat.add_mul, Nat.one_mul]
        constructor <;> omega

namespace Binary64

/-- The least exponent of the format. -/
def leastExponent : Int := -1074

/-- The greatest exponent of the format. -/
def greatestExponent : Int := 971

/-- The least mantissa of 53 bits: two to the 52nd. -/
def leastMantissa : Nat := 4503599627370496

/-- Zero, with a sign. -/
def zero (negative : Bool) : Binary64 := ⟨negative, 0, leastExponent⟩

/-- The fraction `num / den * 2 ^ shift`, as numerator and denominator. -/
def shiftFraction (num den : Nat) (shift : Int) : Nat × Nat :=
  if 0 ≤ shift then (num * Nat.pow 2 shift.toNat, den) else (num, den * Nat.pow 2 (-shift).toNat)

/-- The exponent of the unit in the last place of the fraction `num / den`: the one that leaves 53
    bits before the point, or the least exponent if that is greater. -/
def unitExponent (num den : Nat) : Int :=
  let scale : Int := (Nat.log2 num : Int) - Nat.log2 den
  let (lower, upper) := shiftFraction num den (-scale)
  max leastExponent (if upper ≤ lower then scale - 52 else scale - 53)

/-- The number of the format nearest to a fraction, or `none` if that is beyond the greatest one. -/
def ofFraction (negative : Bool) (num den : Nat) : Option Binary64 :=
  if num = 0 then
    some (zero negative)
  else
    let exponent := unitExponent num den
    let (n, d) := shiftFraction num den (-exponent)
    let rounded := roundQuotient n d
    let (mantissa, exponent) :=
      if rounded = 2 * leastMantissa then (leastMantissa, exponent + 1) else (rounded, exponent)
    if greatestExponent < exponent then none else some ⟨negative, mantissa, exponent⟩

/-- The magnitude of a number as a fraction. -/
def toFraction (x : Binary64) : Nat × Nat :=
  shiftFraction x.mantissa 1 x.exponent

/-- The rounded product, or `none` if it is beyond the greatest number. -/
def mul? (x y : Binary64) : Option Binary64 :=
  let (a, b) := x.toFraction
  let (c, d) := y.toFraction
  ofFraction (x.negative != y.negative) (a * c) (b * d)

/-- The rounded quotient by a number other than zero, or `none` if it is beyond the greatest
    number. -/
def div? (x y : Binary64) : Option Binary64 :=
  let (a, b) := x.toFraction
  let (c, d) := y.toFraction
  ofFraction (x.negative != y.negative) (a * d) (b * c)

/-- The number nearest to a natural number. -/
def ofNat? (n : Nat) : Option Binary64 := ofFraction false n 1

/-- The number nearest to a power of ten. -/
def powerOfTen? (k : Nat) : Option Binary64 := ofNat? (Nat.pow 10 k)

/-- The greatest power of ten that is within the format. -/
def greatestPower : Nat := 308

/-- Divides by `10 ^ k`, at most by the greatest power of ten at a time and rounding each quotient. -/
def scaleDown? (x : Binary64) (k : Nat) : Option Binary64 := do
  if x.mantissa = 0 then
    return x
  else if greatestPower < k then
    scaleDown? (← x.div? (← powerOfTen? greatestPower)) (k - greatestPower)
  else
    x.div? (← powerOfTen? k)
termination_by k
decreasing_by
  simp only [greatestPower] at *
  omega

/-- The number `significand * 10 ^ exponent`, found in two roundings: the significand is rounded,
    and then its product with, or its quotient by, a rounded power of ten.  `none` if that is beyond
    the greatest number. -/
def ofScaled? (negative : Bool) (significand : Nat) (exponent : Int) : Option Binary64 := do
  let x ← ofNat? significand
  let scaled ←
    if exponent < 0 then
      x.scaleDown? (-exponent).toNat
    else if x.mantissa = 0 then
      some x
    else if greatestPower < exponent.toNat then
      none
    else
      x.mul? (← powerOfTen? exponent.toNat)
  return { scaled with negative := negative }

/-- How many decimal digits a natural number has; zero has none. -/
def digitCount (n : Nat) : Nat :=
  if n = 0 then 0 else (Nat.toDigits 10 n).length

/-- The number nearest to `digits * 10 ^ exponent`, in one rounding; `none` if it is beyond the
    greatest number.  Exponents far outside the format are settled without computing the power. -/
def ofDecimal? (negative : Bool) (digits : Nat) (exponent : Int) : Option Binary64 :=
  let magnitude := (digitCount digits : Int) + exponent
  if digits = 0 ∨ magnitude < -330 then
    some (zero negative)
  else if 330 < magnitude then
    none
  else if 0 ≤ exponent then
    ofFraction negative (digits * Nat.pow 10 exponent.toNat) 1
  else
    ofFraction negative digits (Nat.pow 10 (-exponent).toNat)

/-- The magnitude rounded to an integer, a half going away from zero. -/
def roundHalfAway (x : Binary64) : Nat :=
  let (num, den) := x.toFraction
  (2 * num + den) / (2 * den)

end Binary64

end CardServer
