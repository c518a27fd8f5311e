import CardServer.Settings.Format.Json5.Letter

/-! # Walking through relaxed Json

A walk takes characters from the front of a text, or fails and takes none.  Where one of two ways fails
the other is tried, so a failure is no fault in itself; but the places at which named constructs were
missing are kept, and a file that cannot be read is reported with the furthest of them.
-/

namespace CardServer.Settings.Format.Json5

/-- A construct that a report may name. -/
inductive Construct where
  | endOfFile
  | array
  | boolean
  | escape
  | literal
  | byteEscape
  | identifier
  | nulEscape
  | null
  | number
  | object
  | string
  | unitEscape
  deriving DecidableEq, Repr

/-- The name of a construct in a report. -/
def Construct.name : Construct → String
  | .endOfFile => "EOI"
  | .array => "array"
  | .boolean => "boolean"
  | .escape => "char_escape_sequence"
  | .literal => "char_literal"
  | .byteEscape => "hex_escape_sequence"
  | .identifier => "identifier"
  | .nulEscape => "nul_escape_sequence"
  | .null => "null"
  | .number => "number"
  | .object => "object"
  | .string => "string"
  | .unitEscape => "unicode_escape_sequence"

/-- All constructs in the order in which a report names them. -/
def Construct.all : List Construct :=
  [.endOfFile, .array, .boolean, .escape, .literal, .byteEscape, .identifier, .nulEscape, .null,
    .number, .object, .string, .unitEscape]

/-- The furthest place at which constructs were missing, as the number of characters behind it, and the
    constructs that were missing there. -/
structure Missing where
  left : Nat
  constructs : List Construct
  deriving DecidableEq, Repr

namespace Missing

/-- Notes that a construct was missing with so many characters left. -/
def note (missing : Missing) (left : Nat) (construct : Construct) : Missing :=
  if left < missing.left then ⟨left, [construct]⟩
  else if left = missing.left then ⟨left, construct :: missing.constructs⟩
  else missing

end Missing

/-- A walk through the characters of a text that may fail. -/
abbrev Walk := StateT (List Char) (OptionT (StateM Missing))

namespace Walk

variable {α : Type}

/-- Notes that a construct is missing if the walk through it fails. -/
def named (construct : Construct) (walk : Walk α) : Walk α := fun text =>
  walk text <|> do
    modify (·.note text.length construct)
    failure

/-- Takes the next character if it belongs to a class. -/
def one (p : Char → Bool) : Walk Char := do
  match ← get with
  | c :: rest => if p c then set rest *> return c else failure
  | [] => failure

/-- Takes certain characters. -/
def mark (wanted : String) : Walk Unit := do
  let text ← get
  if wanted.toList.isPrefixOf text then set (text.drop wanted.length) else failure

/-- Walks as often as possible, at most so many times. -/
def manyUpTo (walk : Walk α) : Nat → Walk (List α)
  | 0 => return []
  | count + 1 => (do return (← walk) :: (← manyUpTo walk count)) <|> return []

/-- Walks until the walk fails.  Each time takes a character at least, and the last fails. -/
def many (walk : Walk α) : Walk (List α) := do manyUpTo walk ((← get).length + 1)

/-- Walks so many times. -/
def times (count : Nat) (walk : Walk α) : Walk (List α) := (List.replicate count walk).mapM id

/-- The characters that a walk takes. -/
def taken (walk : Walk α) : Walk (List Char) := do
  let before ← get
  discard walk
  return before.take (before.length - (← get).length)

/-- What follows a comment that ends in an asterisk and a slash. -/
def afterComment? : List Char → Option (List Char)
  | '*' :: '/' :: rest => some rest
  | _ :: rest => afterComment? rest
  | [] => none

/-- What follows the blanks and comments at the front of a text.  A comment that is not closed is
    none. -/
def afterBlanks (steps : Nat) (text : List Char) : List Char :=
  match steps with
  | 0 => text
  | steps + 1 =>
    let text := text.dropWhile isBlank
    match text with
    | '/' :: '/' :: rest => afterBlanks steps (rest.dropWhile (!isLineEnd ·))
    | '/' :: '*' :: rest => ((afterComment? rest).map (afterBlanks steps)).getD text
    | _ => text

/-- Takes blanks and comments. -/
def blanks : Walk Unit := modify fun text => afterBlanks (text.length + 1) text

/-- Takes items with commas between them and brackets around them; a comma may follow the last. -/
def enclosed (start stop : String) (item : Walk α) : Walk (List α) :=
  (do
    mark start
    blanks
    mark stop
    return []) <|>
  (do
    mark start
    blanks
    let first ← item
    let others ← many do
      blanks
      mark ","
      blanks
      item
    blanks
    discard (optional (mark ","))
    blanks
    mark stop
    return first :: others)

end Walk

end CardServer.Settings.Format.Json5
