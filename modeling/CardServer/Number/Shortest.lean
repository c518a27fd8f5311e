import CardServer.Number.Binary64

/-! # The shortest decimal text of a number

The decimal that a number is written with has the fewest digits that still read back as the number,
and of the decimals with that many digits it is the nearest.  `Binary64.shortest` finds it by trying
one digit, then two, and so on up to the seventeen that always suffice.

Two layouts are built on it.  The plain layout never uses an exponent.  The exponent layout is
positional for decimal exponents from -5 to 15 and always shows a point or an exponent.
-/

namespace CardServer

/-- A decimal `digits * 10 ^ exponent`. -/
structure Decimal where
  digits : Nat
  exponent : Int
  deriving DecidableEq, Repr

namespace Decimal

/-- The decimal digits of the significand. -/
def text (d : Decimal) : List Char := Nat.toDigits 10 d.digits

/-- The exponent of the first digit: 0 for units, 1 for tens, -1 for tenths. -/
def leading (d : Decimal) : Int := (d.text.length : Int) + d.exponent - 1

/-- The digits with a point and no exponent; an integer gets no point. -/
def positional (d : Decimal) : List Char :=
  let text := d.text
  if 0 ≤ d.exponent then
    text ++ List.replicate d.exponent.toNat '0'
  else
    let places := (-d.exponent).toNat
    if places < text.length then
      text.take (text.length - places) ++ '.' :: text.drop (text.length - places)
    else
      '0' :: '.' :: (List.replicate (places - text.length) '0' ++ text)

/-- One digit, a point if more follow, and the exponent with its sign. -/
def scientific (d : Decimal) : List Char :=
  let text := d.text
  let fraction := text.drop 1
  let exponent := d.leading
  text.take 1 ++ (if fraction.isEmpty then [] else '.' :: fraction) ++
    'e' :: (if exponent < 0 then '-' else '+') :: Nat.toDigits 10 exponent.natAbs

end Decimal

namespace Binary64

/-- The exponent of the first decimal digit of a fraction that is not zero. -/
def leadingExponent (num den : Nat) : Int :=
  if den ≤ num then
    (digitCount (num / den) : Int) - 1
  else
    match (List.range 400).find? fun k => den ≤ num * Nat.pow 10 k with
    | some k => -(k : Int)
    | none => -400

/-- The nearest decimal with `count` digits that reads back as the number, if there is one. -/
def nearestWith? (x : Binary64) (count : Nat) : Option Decimal :=
  let (num, den) := x.toFraction
  let unit := leadingExponent num den - count + 1
  let (n, d) :=
    if 0 ≤ unit then (num, den * Nat.pow 10 unit.toNat) else (num * Nat.pow 10 (-unit).toNat, den)
  let below := n / d
  let readsBack (digits : Nat) : Bool := ofDecimal? x.negative digits unit == some x
  let nearer := if 2 * (n % d) ≤ d then [below, below + 1] else [below + 1, below]
  (nearer.find? readsBack).map fun digits =>
    if digits = Nat.pow 10 count then ⟨1, unit + count⟩ else ⟨digits, unit⟩

/-- The decimal with the fewest digits that reads back as the number. -/
def shortest (x : Binary64) : Decimal :=
  if x.mantissa = 0 then
    ⟨0, 0⟩
  else
    match ((List.range 17).map (· + 1)).findSome? x.nearestWith? with
    | some d => d
    | none => ⟨x.mantissa, 0⟩

/-- The sign in front of the text of a number. -/
def signText (x : Binary64) : List Char := if x.negative then ['-'] else []

/-- The plain layout: never an exponent, and no point for an integer. -/
def plainText (x : Binary64) : String :=
  String.ofList (x.signText ++ x.shortest.positional)

/-- The exponent layout: positional for decimal exponents from -5 to 15, an integer ending in `.0`. -/
def exponentText (x : Binary64) : String :=
  let d := x.shortest
  let body :=
    if -5 ≤ d.leading ∧ d.leading ≤ 15 then
      if 0 ≤ d.exponent then d.positional ++ ['.', '0'] else d.positional
    else
      d.scientific
  String.ofList (x.signText ++ body)

end Binary64

end CardServer
