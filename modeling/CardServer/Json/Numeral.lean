import CardServer.Json.Basic
import CardServer.Json.Fault

/-! # Numbers in a Json text

A numeral is an optional minus sign, an integer part without superfluous zeros, an optional fraction
and an optional exponent.  `Numeral.scan` cuts it from the front of a text, `Numeral.value?` gives
the number it stands for.

The significand is kept in 64 bits: digits are taken as long as they fit.  Further integer digits only
raise the exponent and further fraction digits are dropped.  A numeral without fraction and
exponent that fits in 64 bits is an integer; every other one is rounded by `Binary64.ofScaled?`.
-/

namespace CardServer.Json

/-- The parts of a numeral, as digits. -/
structure Numeral where
  negative : Bool
  integer : List Char
  fraction : Option (List Char)
  /-- The sign of the exponent, negative for `true`, and its digits. -/
  exponent : Option (Bool × List Char)
  deriving DecidableEq, Repr

/-- The value of a decimal digit. -/
def digitValue (c : Char) : Nat := c.toNat - '0'.toNat

namespace Numeral

/-- The digits at the front of a text and the text after them. -/
def spanDigits (text : List Char) : List Char × List Char :=
  (text.takeWhile Char.isDigit, text.dropWhile Char.isDigit)

/-- Cuts the integer part from the front of a text. -/
def scanInteger (text : List Char) : Except Fault (List Char × List Char) :=
  match text with
  | [] => .error (.atEnd .endInValue)
  | '0' :: rest =>
    match rest with
    | c :: _ => if c.isDigit then .error (.here .invalidNumber rest) else .ok (['0'], rest)
    | [] => .ok (['0'], [])
  | c :: _ => if c.isDigit then .ok (spanDigits text) else .error (.here .invalidNumber text)

/-- Cuts the fraction, if a point announces one, from the front of a text. -/
def scanFraction (text : List Char) : Except Fault (Option (List Char) × List Char) :=
  match text with
  | '.' :: rest =>
    match spanDigits rest with
    | ([], []) => .error (.atEnd .endInValue)
    | ([], _) => .error (.here .invalidNumber rest)
    | (digits, rest) => .ok (some digits, rest)
  | _ => .ok (none, text)

/-- Cuts the sign of an exponent from the front of a text; `true` is a minus sign. -/
def scanSign : List Char → Bool × List Char
  | '+' :: rest => (false, rest)
  | '-' :: rest => (true, rest)
  | rest => (false, rest)

/-- Cuts the exponent, if a letter announces one, from the front of a text. -/
def scanExponent (text : List Char) : Except Fault (Option (Bool × List Char) × List Char) :=
  match text with
  | c :: rest =>
    if c = 'e' ∨ c = 'E' then
      let (negative, rest) := scanSign rest
      match spanDigits rest with
      | ([], []) => .error (.atEnd .endInValue)
      | ([], _) => .error (.here .invalidNumber rest)
      | (digits, rest) => .ok (some (negative, digits), rest)
    else
      .ok (none, text)
  | [] => .ok (none, [])

/-- Cuts a numeral, its minus sign already taken off, from the front of a text. -/
def scan (negative : Bool) (text : List Char) : Except Fault (Numeral × List Char) :=
  match scanInteger text with
  | .error fault => .error fault
  | .ok (integer, rest) =>
    match scanFraction rest with
    | .error fault => .error fault
    | .ok (fraction, rest) =>
      match scanExponent rest with
      | .error fault => .error fault
      | .ok (exponent, rest) => .ok (⟨negative, integer, fraction, exponent⟩, rest)

/-- The greatest significand, of 64 bits. -/
def greatestSignificand : Nat := 18446744073709551615

/-- The greatest size of an exponent that is looked at, of 31 bits. -/
def greatestExponent : Nat := 2147483647

/-- The greatest size of a negative integer that is kept exactly: two to the 63rd. -/
def greatestNegative : Nat := 9223372036854775808

/-- Appends digits to a number as long as it stays within a limit; the digits that did not fit are
    given back. -/
def absorb (limit : Nat) (value : Nat) : List Char → Nat × List Char
  | [] => (value, [])
  | c :: rest =>
    let next := value * 10 + digitValue c
    if next ≤ limit then absorb limit next rest else (value, c :: rest)

/-- The number of a numeral, or `none` if it is beyond the greatest one. -/
def value? (n : Numeral) : Option Number :=
  let (significand, dropped) := absorb greatestSignificand 0 n.integer
  match n.fraction, n.exponent, dropped with
  | none, none, [] =>
    if n.negative then
      if 0 < significand ∧ significand ≤ greatestNegative then
        some (.int (-significand))
      else
        (Binary64.ofScaled? true significand 0).map .real
    else
      some (.int significand)
  | fraction, exponent, dropped =>
    let digits := fraction.getD []
    let (significand, ignored) := absorb greatestSignificand significand digits
    let places : Int := (dropped.length : Int) - (digits.length - ignored.length : Nat)
    let shift : Int :=
      match exponent with
      | none => 0
      | some (negative, digits) =>
        let size := (absorb greatestExponent 0 digits).1
        let size := if (absorb greatestExponent 0 digits).2.isEmpty then size else greatestExponent
        if negative then -size else size
    (Binary64.ofScaled? n.negative significand (places + shift)).map .real

/-- How many exponent digits follow the one that takes the exponent beyond its greatest size. -/
def unreadDigits (n : Numeral) : Nat :=
  match n.exponent with
  | none => 0
  | some (_, digits) => (absorb greatestExponent 0 digits).2.length - 1

/-- Reads a number, its minus sign already taken off, from the front of a text. -/
def read (negative : Bool) (text : List Char) : Except Fault (Number × List Char) :=
  match scan negative text with
  | .error fault => .error fault
  | .ok (numeral, rest) =>
    match numeral.value? with
    | some value => .ok (value, rest)
    | none => .error ⟨.numberOutOfRange, byteLength rest + numeral.unreadDigits⟩

end Numeral

end CardServer.Json
