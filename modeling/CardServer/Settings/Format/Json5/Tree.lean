import CardServer.Settings.Format.Json5.Walk

/-! # Relaxed Json as it is written

A file is first read into a tree that keeps numbers and strings as they are written; what they mean is
decided afterwards, when the whole file is known to follow the grammar.
-/

namespace CardServer.Settings.Format.Json5

open Walk

/-- How a character of a string or a name is written. -/
inductive Spelling where
  /-- As itself. -/
  | plain
  /-- As a letter behind a backslash. -/
  | escape
  | nul
  /-- As its number, in two hexadecimal digits. -/
  | byte
  /-- As a unit of 16 bits, in four hexadecimal digits. -/
  | unit
  deriving DecidableEq, Repr

/-- A character of a string or a name: how it is written, and the characters that do so. -/
structure Piece where
  spelling : Spelling
  text : List Char
  deriving DecidableEq, Repr

/-- A value as it is written. -/
inductive Tree where
  | null
  | boolean (value : Bool)
  | string (pieces : List Piece)
  | number (text : List Char)
  | object (members : List (List Piece × Tree))
  | array (items : List Tree)
  deriving Inhabited

/-! ## Strings and names -/

/-- A hexadecimal digit. -/
def hexDigit : Walk Char :=
  one fun c => c.isDigit || 'a' ≤ c && c ≤ 'f' || 'A' ≤ c && c ≤ 'F'

/-- A character that stands for itself. -/
def literal : Walk Piece :=
  named .literal do return ⟨.plain, [← one fun c => c ≠ '\\' && !isLineEnd c]⟩

/-- The four digits of a unit. -/
def unitEscape : Walk Piece := named .unitEscape do return ⟨.unit, ← times 4 hexDigit⟩

/-- What may follow a backslash in place of a character. -/
def escape : Walk Piece :=
  (named .escape do
    return ⟨.escape, [← one fun c => !(c.isDigit || c = 'x' || c = 'u' || isLineEnd c)]⟩) <|>
  (named .nulEscape do return ⟨.nul, [← one (· = '0')]⟩) <|>
  (mark "x" *> named .byteEscape do return ⟨.byte, ← times 2 hexDigit⟩) <|>
  (mark "u" *> unitEscape)

/-- The end of a line. -/
def lineEnd : Walk Unit := mark "\r\n" <|> discard (one isLineEnd)

/-- A character that does not come next. -/
def notNext (c : Char) : Walk Unit := do if (← get).head? = some c then failure

/-- A character of a string in certain quotes; a line that goes on behind its end has none. -/
def stringPiece? (quote : Char) : Walk (Option Piece) :=
  (mark "\\" *> some <$> escape) <|>
  (mark "\\" *> lineEnd *> pure none) <|>
  (notNext quote *> some <$> literal)

/-- A string in certain quotes. -/
def stringIn (quote : Char) : Walk (List Piece) := do
  discard (one (· = quote))
  let pieces ← many (stringPiece? quote)
  discard (one (· = quote))
  return pieces.reduceOption

/-- A string. -/
def string : Walk (List Piece) := named .string (stringIn '"' <|> stringIn '\'')

/-- A character of a name, from a class or by its number. -/
def namePiece (p : Char → Bool) : Walk Piece :=
  (do return ⟨.plain, [← one p]⟩) <|> (mark "\\u" *> unitEscape)

/-- A name without quotes. -/
def identifier : Walk (List Piece) :=
  named .identifier do return (← namePiece isNameStart) :: (← many (namePiece isNamePart))

/-! ## Numbers -/

/-- A run of digits. -/
def digits : Walk Unit := modify (·.dropWhile Char.isDigit)

/-- A run of one digit at least. -/
def someDigits : Walk Unit := one Char.isDigit *> digits

/-- A sign, if there is one. -/
def sign : Walk Unit := discard (optional (one fun c => c = '+' || c = '-'))

/-- An integer in decimal digits, which does not start with a zero unless it is one. -/
def decimalInteger : Walk Unit := mark "0" <|> (one (fun c => c.isDigit && c ≠ '0') *> digits)

/-- An exponent. -/
def exponent : Walk Unit := one (fun c => c = 'e' || c = 'E') *> sign *> someDigits

/-- A number without its sign. -/
def magnitude : Walk Unit :=
  ((mark "0x" <|> mark "0X") *> hexDigit *> discard (many hexDigit)) <|>
  (decimalInteger *> mark "." *> digits *> discard (optional exponent)) <|>
  (mark "." *> someDigits *> discard (optional exponent)) <|>
  (decimalInteger *> discard (optional exponent)) <|>
  mark "Infinity" <|>
  mark "NaN"

/-- A number. -/
def number : Walk (List Char) := named .number (taken (sign *> magnitude))

/-! ## Values -/

/-- A value with at most so many values around one another. -/
def value : Nat → Walk Tree
  | 0 => failure
  | depth + 1 =>
    (named .null (mark "null" *> pure .null)) <|>
    (named .boolean
      ((mark "true" *> pure (.boolean true)) <|> (mark "false" *> pure (.boolean false)))) <|>
    (.string <$> string) <|>
    (.number <$> number) <|>
    (named .object do return .object (← enclosed "\x7b" "\x7d" do
      let name ← identifier <|> string
      blanks
      mark ":"
      blanks
      return (name, ← value depth))) <|>
    (named .array do return .array (← enclosed "[" "]" (value depth)))

/-- A value that nothing but blanks surround. -/
def document (depth : Nat) : Walk Tree := do
  blanks
  let tree ← value depth
  blanks
  named .endOfFile do if !(← get).isEmpty then failure
  return tree

/-- The tree of a text, or what is missing in it. -/
def Tree.ofText (text : String) : Except Missing Tree :=
  match ((document (text.length + 1)).run text.toList).run ⟨text.length, []⟩ with
  | (some (tree, _), _) => .ok tree
  | (none, missing) => .error missing

end CardServer.Settings.Format.Json5
