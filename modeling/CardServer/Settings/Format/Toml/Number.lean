import CardServer.Settings.Format.Toml.Text

/-! # Numbers of a file of tables

Integers in decimal or behind `0x`, `0o` or `0b`, and numbers with a fraction or an exponent.
Underscores may stand between digits.  Integers have 64 bits.
-/

namespace CardServer.Settings.Format.Toml

open Scan Walk

/-- Cuts off the digits that a text starts with, each with or without an underscore before it. -/
def splitDigits (isDigit : Char → Bool) : List Char → List Char × List Char
  | [] => ([], [])
  | c :: rest =>
    if c = '_' then
      match rest with
      | d :: rest' =>
        if isDigit d then
          let (digits, left) := splitDigits isDigit rest'
          (d :: digits, left)
        else
          ([], c :: rest)
      | [] => ([], [c])
    else if isDigit c then
      let (digits, left) := splitDigits isDigit rest
      (c :: digits, left)
    else
      ([], c :: rest)

/-- Takes the digits of a number behind its first digit. -/
def moreDigits (isDigit : Char → Bool) : Walk (List Char) := do
  let (digits, rest) := splitDigits isDigit (← get)
  set rest
  if ← accept "_" then
    final (expecting ["digit"] fail)
  return digits

/-- Takes one digit at least. -/
def someDigits (isDigit : Char → Bool) : Walk (List Char) := do
  return (← one isDigit) :: (← moreDigits isDigit)

/-- Takes an optional sign and gives it as a text. -/
def sign : Walk (List Char) := do
  return (← attempt? (one fun c => c = '+' || c = '-')).toList

/-- Takes the digits of a decimal integer; a zero stands alone. -/
def plainDigits : Walk (List Char) := do
  let first ← one Char.isDigit
  if first = '0' then
    return [first]
  else
    return first :: (← moreDigits Char.isDigit)

/-- Takes a decimal integer and gives its sign and its digits. -/
def decimalInteger : Walk (List Char) := within "integer" do
  return (← sign) ++ (← plainDigits)

/-- The integer of some digits, if 64 bits hold it; `start` is where it stands. -/
def integerOf (start : List Char) (base : Nat) (text : List Char) : Walk Int :=
  match integer? base text with
  | some n => return n
  | none => final (refuse start (.overflow (text.head? = some '-')))

/-- Takes the integer behind the mark of its base. -/
def integerBehind (start : List Char) (construct : String) (base : Nat) : Walk Int := do
  drop 2
  let digits ← final (within construct (someDigits (isDigitTo base)))
  integerOf start base digits

/-- Takes an integer. -/
def integer : Walk Int := do
  let start ← get
  match start with
  | '0' :: 'x' :: _ => integerBehind start "hexadecimal integer" 16
  | '0' :: 'o' :: _ => integerBehind start "octal integer" 8
  | '0' :: 'b' :: _ => integerBehind start "binary integer" 2
  | _ => integerOf start 10 (← decimalInteger)

/-- Takes an exponent and gives its text. -/
def exponent : Walk (List Char) := do
  let letter ← one fun c => c = 'e' || c = 'E'
  let sign ← sign
  return letter :: sign ++ (← final (someDigits Char.isDigit))

/-- Takes a fraction and gives its text. -/
def fraction : Walk (List Char) := do
  text "."
  return '.' :: (← final (expecting ["digit"] (someDigits Char.isDigit)))

/-- Takes a number with a fraction or an exponent. -/
def plainReal : Walk Real64 := do
  let start ← get
  let whole ← decimalInteger
  let rest ← exponent.orElse do
    return (← fraction) ++ ((← attempt? exponent).getD [])
  match decimal? (whole ++ rest) with
  | some (.infinite false) => final (refuseSilently start)
  | some x => return x
  | none => fail
where
  /-- Gives up without a cause. -/
  refuseSilently (start : List Char) : Walk Real64 := stopAt start {}

/-- Takes an infinity or the word for no number. -/
def specialReal : Walk Real64 := do
  let negative := (← sign) = ['-']
  (text "inf" *> return .infinite negative).orElse (text "nan" *> return .nan)

/-- Takes a number with a fraction or an exponent, an infinity or the word for no number. -/
def real : Walk Real64 := within "floating-point number" (plainReal.orElse specialReal)

end CardServer.Settings.Format.Toml
