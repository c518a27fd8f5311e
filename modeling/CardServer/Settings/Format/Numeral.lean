import CardServer.Number.Real

/-! # Numerals in settings files

The digits, integers and decimals that several file formats write alike.  An integer is kept exactly if
64 bits with a sign hold it.

* `natural?`, `integer?`   the number that some digits write
* `decimal?`               the number that digits with a point and an exponent write
-/

namespace CardServer.Settings.Format

/-- The value of a digit to a base up to 36. -/
def digitValue? (base : Nat) (c : Char) : Option Nat :=
  let value :=
    if c.isDigit then c.toNat - '0'.toNat
    else if c.isLower then c.toNat - 'a'.toNat + 10
    else if c.isUpper then c.toNat - 'A'.toNat + 10
    else base
  if value < base then some value else none

/-- Whether a character is a digit to a base. -/
def isDigitTo (base : Nat) (c : Char) : Bool := (digitValue? base c).isSome

/-- The natural number that some digits write. -/
def natural? (base : Nat) (digits : List Char) : Option Nat :=
  if digits.isEmpty then none
  else (digits.mapM (digitValue? base)).map (·.foldl (fun n d => n * base + d) 0)

/-- A number without its sign, and whether it is negative. -/
def splitSign : List Char → Bool × List Char
  | '-' :: rest => (true, rest)
  | '+' :: rest => (false, rest)
  | rest => (false, rest)

/-- The least integer of 64 bits. -/
def leastInteger : Int := -9223372036854775808

/-- The greatest integer of 64 bits. -/
def greatestInteger : Int := 9223372036854775807

/-- The integer of 64 bits that an optional sign and some digits write. -/
def integer? (base : Nat) (text : List Char) : Option Int :=
  let (negative, digits) := splitSign text
  ((natural? base digits).map fun n => if negative then -(n : Int) else n).filter
    fun n => leastInteger ≤ n ∧ n ≤ greatestInteger

/-- The exponent behind the letter of a decimal; no letter means zero. -/
def exponent? (text : List Char) : Option Int :=
  match text with
  | [] => some 0
  | c :: rest =>
    if c = 'e' ∨ c = 'E' then
      let (down, digits) := splitSign rest
      (natural? 10 digits).map fun n => if down then -(n : Int) else n
    else
      none

/-- The number that a decimal with an optional sign, an optional fraction and an optional exponent
    writes; digits may be missing before or behind the point. -/
def decimal? (text : List Char) : Option Real64 := do
  let (negative, text) := splitSign text
  let whole := text.takeWhile Char.isDigit
  let rest := text.drop whole.length
  let (fraction, rest) := match rest with
    | '.' :: more => (more.takeWhile Char.isDigit, more.dropWhile Char.isDigit)
    | rest => ([], rest)
  let shift ← exponent? rest
  let digits ← natural? 10 (whole ++ fraction)
  return .ofDecimal negative digits (shift - (fraction.length : Int))

/-- The number that a text writes as a decimal, as an infinity or as no number; the words for the last
    two may be in any case. -/
def real? (text : List Char) : Option Real64 :=
  let (negative, digits) := splitSign text
  let word := String.ofList (digits.map Char.toLower)
  if word = "inf" ∨ word = "infinity" then some (.infinite negative)
  else if word = "nan" then some .nan
  else decimal? text

end CardServer.Settings.Format
