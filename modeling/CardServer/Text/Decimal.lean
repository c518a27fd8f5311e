/-! # Decimal numbers

How a natural number is read where a text stands for one: decimal digits, zeros in front allowed, and
a plus sign in front of them allowed too.
-/

namespace CardServer.Text

/-- A text without one plus sign in front. -/
def withoutPlus : List Char → List Char
  | '+' :: rest => rest
  | text => text

/-- The natural number that a text writes. -/
def decimal? (text : List Char) : Option Nat :=
  let digits := withoutPlus text
  if digits.isEmpty ∨ !digits.all Char.isDigit then none else some (Nat.ofDigitChars 10 digits 0)

end CardServer.Text
