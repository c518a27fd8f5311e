import CardServer.Number.Shortest

/-! # Numbers with infinities

What a number in a settings file can be: a finite number, an infinity or no number at all.
-/

namespace CardServer

/-- A finite number, an infinity or no number at all. -/
inductive Real64 where
  | finite (value : Binary64)
  | infinite (negative : Bool)
  | nan
  deriving DecidableEq, Repr

namespace Real64

/-- The number nearest to a decimal, infinite if it is beyond the greatest number. -/
def ofDecimal (negative : Bool) (digits : Nat) (exponent : Int) : Real64 :=
  match Binary64.ofDecimal? negative digits exponent with
  | some value => .finite value
  | none => .infinite negative

/-- The nearest natural number up to a limit: a half goes up, what is negative or no number is
    zero. -/
def toNat (limit : Nat) : Real64 → Nat
  | .finite value => if value.negative then 0 else min limit value.roundHalfAway
  | .infinite negative => if negative then 0 else limit
  | .nan => 0

/-- A finite number as a quotient of an integer and a natural number. -/
def quotient (x : Binary64) : Int × Nat :=
  let (num, den) := x.toFraction
  (if x.negative then -num else num, den)

/-- Whether a number comes before another or is equal to it; what is no number comes before all. -/
def isAtMost : Real64 → Real64 → Bool
  | .nan, _ => true
  | _, .nan => false
  | .infinite true, _ => true
  | _, .infinite false => true
  | .infinite false, _ => false
  | _, .infinite true => false
  | .finite x, .finite y =>
    let (n, d) := quotient x
    let (m, e) := quotient y
    n * e ≤ m * d

/-- The plain text of a number. -/
def text : Real64 → String
  | .finite value => value.plainText
  | .infinite negative => if negative then "-inf" else "inf"
  | .nan => "NaN"

end Real64

end CardServer
