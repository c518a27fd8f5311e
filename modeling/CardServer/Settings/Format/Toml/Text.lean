import CardServer.Settings.Format.Numeral
import CardServer.Settings.Format.Toml.Complaint

/-! # Blanks, strings and keys of a file of tables

Strings are in double quotes, where a backslash starts an escape, or in single quotes, where it is
taken as it stands; three quotes enclose a string that may span lines.  A key is a run of letters,
digits, underscores and dashes or a string on one line, and a dotted key is several of them.
-/

namespace CardServer.Settings.Format.Toml

open Scan Walk

/-! ## Blanks and line ends -/

/-- Whether a character is a blank inside a line. -/
def isBlank (c : Char) : Bool := c = ' ' || c = '\t'

/-- Whether a character may stand in a comment: a tab, or anything but a control character. -/
def isVisible (c : Char) : Bool := c = '\t' || (' ' ≤ c && c ≤ '~') || 0x80 ≤ c.toNat

/-- Takes a line end; a walk that finds another character gives up behind it. -/
def lineBreak : Walk Unit := do
  let c ← one fun _ => true
  if c = '\r' then
    let _ ← one (· = '\n')
  else if c ≠ '\n' then
    fail

/-- Takes a line end, or nothing at the end of the file. -/
def lineEnd : Walk Unit := lineBreak.orElse do
  if !(← get).isEmpty then fail

/-- Takes a comment. -/
def comment : Walk Unit := do
  text "#"
  skip isVisible

/-- Takes what may stand behind a heading or a value on its line. -/
def lineRest : Walk Unit := expecting ["newline", "`#`"] do
  skip isBlank
  let _ ← attempt? comment
  lineEnd

/-- Takes blanks, line ends and comments; every round takes a character at least. -/
def skipLines (steps : Nat) : Walk Unit := do
  match steps with
  | 0 => fail
  | steps + 1 =>
    skip isBlank
    match ← peek? with
    | some '#' =>
      comment
      lineBreak
      skipLines steps
    | some '\n' | some '\r' =>
      lineBreak
      skipLines steps
    | _ => return

/-! ## Strings -/

/-- Whether a character stands for itself in a string in certain quotes. -/
def isPlain (quote c : Char) : Bool :=
  isVisible c && c != quote && (quote = '\'' || c != '\\')

/-- Takes the hexadecimal digits of a code point. -/
def codePoint (count : Nat) : Walk Char := do
  let start ← get
  let digits := (start.take count).takeWhile (isDigitTo 16)
  if digits.length < count then fail
  let n := (natural? 16 digits).getD 0
  if !decide n.isValidChar then refuse start .outOfRange
  drop count
  return Char.ofNat n

/-- The character that an escape of one letter stands for. -/
def escapedBy? : Char → Option Char
  | 'b' => some '\x08'
  | 't' => some '\t'
  | 'n' => some '\n'
  | 'f' => some '\x0c'
  | 'r' => some '\r'
  | '"' => some '"'
  | '\\' => some '\\'
  | _ => none

/-- Takes an escape with its backslash. -/
def escape : Walk Char := do
  text "\\"
  let start ← get
  let c ← one fun _ => true
  match escapedBy? c with
  | some c => return c
  | none =>
    if c = 'u' then
      final (within "unicode 4-digit hex code" (codePoint 4))
    else if c = 'U' then
      final (within "unicode 8-digit hex code" (codePoint 8))
    else
      if 1 < c.utf8Size then set start
      final (within "escape sequence"
        (expecting ["`b`", "`f`", "`n`", "`r`", "`t`", "`u`", "`U`", "`\\`", "`\"`"] fail))

/-- Takes the rest of a string in double quotes; `done` is what it begins with, in reverse. -/
def basicRest (steps : Nat) (done : List Char) : Walk String := do
  match steps with
  | 0 => fail
  | steps + 1 =>
    let done := (← span (isPlain '"')).reverse ++ done
    match ← attempt? escape with
    | some c => basicRest steps (c :: done)
    | none =>
      final (within "basic string" (text "\""))
      return String.ofList done.reverse

/-- Takes a string on one line. -/
def shortString (steps : Nat) (quote : Char) : Walk String := do
  text (String.singleton quote)
  if quote = '"' then
    basicRest steps []
  else
    let content ← span (isPlain quote)
    final (within "literal string" (text (String.singleton quote)))
    return String.ofList content

/-- Takes a backslash, the rest of its line, which is blank, and the blanks on the next lines. -/
def foldedLine (steps : Nat) : Walk Unit := do
  text "\\"
  skip isBlank
  lineBreak
  blankLines steps
where
  /-- Takes blanks and line ends. -/
  blankLines (steps : Nat) : Walk Unit := do
    match steps with
    | 0 => fail
    | steps + 1 =>
      skip isBlank
      if (← attempt? lineBreak).isSome then
        blankLines steps

/-- Takes a piece of a string that may span lines, other than its quotes. -/
def longPiece (steps : Nat) (quote : Char) : Walk (List Char) := do
  let plain ← span (isPlain quote)
  if !plain.isEmpty then
    return plain
  if quote = '"' then
    if (← attempt? (foldedLine steps)).isSome then
      return []
    if let some c ← attempt? escape then
      return [c]
  lineBreak
  return ['\n']

/-- Takes the rest of a string that may span lines, up to three quotes; up to two more belong to it.
    Fewer quotes belong to it if something else follows.  Double quotes count as read even if what
    follows them cannot. -/
def longRest (steps : Nat) (quote : Char) (done : List Char) : Walk String := do
  match steps with
  | 0 => fail
  | steps + 1 =>
    match ← attempt? (longPiece steps quote) with
    | some piece => longRest steps quote (piece.reverse ++ done)
    | none =>
      let start ← get
      let quotes := start.takeWhile (· = quote)
      let after := start.drop quotes.length
      if 3 ≤ quotes.length then
        let extra := min (quotes.length - 3) 2
        drop (extra + 3)
        return String.ofList (List.replicate extra quote ++ done).reverse
      if quotes.isEmpty ∨ after.isEmpty then fail
      set after
      match ← attempt? (longPiece steps quote) with
      | some piece => longRest steps quote (piece.reverse ++ quotes ++ done)
      | none =>
        if quote = '\'' then set start
        fail

/-- Takes a string of any kind. -/
def anyString (steps : Nat) (quote : Char) : Walk String := do
  if ← accept (String.ofList [quote, quote, quote]) then
    let _ ← attempt? lineBreak
    let construct :=
      if quote = '"' then "multiline basic string" else "multiline literal string"
    within construct (final (longRest steps quote []))
  else
    shortString steps quote

/-! ## Keys -/

/-- One part of a key, and where it stands without the blanks around it. -/
structure KeyPart where
  name : String
  stretch : Stretch
  deriving DecidableEq, Repr

/-- Takes one part of a key and the blanks around it. -/
def keyPart (steps : Nat) : Walk KeyPart := do
  skip isBlank
  let (name, stretch) ← measured do
    match ← peek? with
    | some '"' => shortString steps '"'
    | some '\'' => shortString steps '\''
    | _ => do
      let part ← span isKeyChar
      if part.isEmpty then fail
      return String.ofList part
  skip isBlank
  return ⟨name, stretch⟩

/-- Takes the further parts of a key, as long as a part follows a point. -/
def keyRest (steps : Nat) : Walk (List KeyPart) := do
  match steps with
  | 0 => fail
  | steps + 1 =>
    match ← attempt? (text "." *> keyPart steps) with
    | some part => return part :: (← keyRest steps)
    | none => return []

/-- How deep values may stand inside values, and how many parts a key may have: less than this. -/
def depthLimit : Nat := 80

/-- Takes a dotted key. -/
def key (steps : Nat) : Walk (List KeyPart) := do
  let start ← get
  let path ← within "key" do
    return (← keyPart steps) :: (← keyRest steps)
  if depthLimit ≤ path.length then refuse start .tooDeep
  return path

end CardServer.Settings.Format.Toml
