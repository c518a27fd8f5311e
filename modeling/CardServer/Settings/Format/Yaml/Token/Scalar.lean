import CardServer.Settings.Format.Numeral
import CardServer.Settings.Format.Yaml.Token.Walk

/-! # Scalars of a file of blocks

A scalar is plain, in quotes or a block of lines.  In plain and in quoted scalars a line end is a blank,
and further line ends are kept.  The lines of a block keep their ends behind a bar; behind an angle they
are joined unless one of them is indented further.  What happens to the last line ends a sign behind the
bar or the angle says.
-/

namespace CardServer.Settings.Format.Yaml.Walk

/-- What has been gathered of a scalar: its text, in reverse, and the blanks that count only if more
    follows. -/
structure Gathered where
  text : List Char := []
  /-- The blanks behind the text on its line, in reverse. -/
  blanks : List Char := []
  /-- Whether a line end follows that is not kept. -/
  isBroken : Bool := false
  /-- How many line ends follow that are kept. -/
  breaks : Nat := 0

namespace Gathered

/-- The text with the line ends behind it: a single one is a blank. -/
def joined (gathered : Gathered) : Gathered :=
  let kept := List.replicate gathered.breaks '\n'
  let between := if gathered.isBroken && gathered.breaks = 0 then [' '] else kept
  { gathered with text := between ++ gathered.text, isBroken := false, breaks := 0 }

/-- The text with the blanks behind it. -/
def spaced (gathered : Gathered) : Gathered :=
  { gathered with text := gathered.blanks ++ gathered.text, blanks := [] }

/-- Adds a line end. -/
def broken (gathered : Gathered) (isFirst : Bool) : Gathered :=
  if isFirst then { gathered with blanks := [], isBroken := true }
  else { gathered with breaks := gathered.breaks + 1 }

end Gathered

/-! ## Quoted scalars -/

/-- The character that an escape of one character stands for. -/
def escapedBy? : Char → Option Char
  | '0' => some '\x00'
  | 'a' => some '\x07'
  | 'b' => some '\x08'
  | 't' | '\t' => some '\t'
  | 'n' => some '\n'
  | 'v' => some '\x0b'
  | 'f' => some '\x0c'
  | 'r' => some '\r'
  | 'e' => some '\x1b'
  | ' ' => some ' '
  | '"' => some '"'
  | '/' => some '/'
  | '\\' => some '\\'
  | 'N' => some '\u0085'
  | '_' => some '\u00a0'
  | 'L' => some '\u2028'
  | 'P' => some '\u2029'
  | _ => none

/-- How many digits an escape of a code point has. -/
def escapedDigits? : Char → Option Nat
  | 'x' => some 2
  | 'u' => some 4
  | 'U' => some 8
  | _ => none

/-- Passes an escape. -/
def escape (start : Mark) : Walk Char := do
  let c ← ahead 1
  match escapedBy? c, escapedDigits? c with
  | some c, _ => passMany 2 *> return c
  | none, none => failAt start .quotedEscape
  | none, some count =>
    passMany 2
    let digits := ((← get).rest.take count).takeWhile (isDigitTo 16)
    if digits.length < count then failAt start .quotedDigits
    match (natural? 16 digits).filter (·.isValidChar) with
    | some n => passMany count *> return Char.ofNat n
    | none => failAt start .quotedCodePoint

/-- Passes the characters of a quoted scalar up to the next blank, line end or quote.  The result tells
    also whether the line ended behind a backslash. -/
def quotedWord (quote : Char) (start : Mark) (steps : Nat) (done : List Char) :
    Walk (List Char × Bool) := do
  match steps with
  | 0 => return (done, false)
  | steps + 1 =>
    let c ← look
    if isBlankOrEnd c then
      return (done, false)
    else if c = quote then
      if quote = '\'' ∧ (← ahead 1) = '\'' then
        passMany 2
        quotedWord quote start steps ('\'' :: done)
      else
        return (done, false)
    else if c = '\\' ∧ quote = '"' then
      if isBreak (← ahead 1) then
        pass
        passBreak
        return (done, true)
      quotedWord quote start steps ((← escape start) :: done)
    else
      pass
      quotedWord quote start steps (c :: done)

/-- Passes the blanks and line ends inside a quoted scalar; `isFolded` tells whether a line has ended. -/
def quotedBlanks (steps : Nat) (isFolded : Bool) (gathered : Gathered) : Walk (Gathered × Bool) := do
  match steps with
  | 0 => return (gathered, isFolded)
  | steps + 1 =>
    let c ← look
    if isBlank c then
      if isFolded then
        let walker ← get
        if c = '\t' ∧ (walker.mark.column : Int) < walker.indent then fail .quotedTab
        passBlank
        quotedBlanks steps true gathered
      else
        passBlank
        quotedBlanks steps false { gathered with blanks := c :: gathered.blanks }
    else if isBreak c then
      passBreak
      quotedBlanks steps true (gathered.broken (!isFolded))
    else
      return (gathered, isFolded)

/-- Passes the rest of a quoted scalar up to its quote, which is left. -/
def quotedRest (quote : Char) (start : Mark) (steps : Nat) (gathered : Gathered) :
    Walk (List Char) := do
  match steps with
  | 0 => return gathered.text.reverse
  | steps + 1 =>
    let walker ← get
    if walker.mark.column = 0 ∧ (← atDocument) then failAt start .quotedDocument
    if isEnd (← look) then failAt start .quotedOpen
    if (walker.mark.column : Int) < walker.indent then failAt start .quotedIndentation
    let (text, isFolded) ← quotedWord quote start (walker.rest.length + 1) gathered.text
    let gathered := { gathered with text }
    if (← look) = quote then
      return gathered.text.reverse
    let (gathered, isFolded) ← quotedBlanks (walker.rest.length + 1) isFolded gathered
    quotedRest quote start steps (if isFolded then gathered.joined else gathered.spaced)

/-- Passes a quoted scalar, and checks what follows it on its line. -/
def quoted (quote : Char) : Walk Token := do
  let start ← place
  pass
  let text ← quotedRest quote start ((← get).rest.length + 1) {}
  pass
  let _ ← passToEnd true
  let walker ← get
  let c ← look
  let isFlowEnd := 0 < walker.depth && (c = ',' || c = '\x7d' || c = ']')
  let isKey := c = ':' && (0 < walker.depth || start.line = walker.mark.line)
  if !(isFlowEnd || isBreakOrEnd c || isKey) then fail .quotedEnd
  return .scalar false (String.ofList text)

/-! ## Plain scalars -/

/-- Whether the next character may stand in a plain scalar. -/
def isPlainNext : Walk Bool := do
  let c ← look
  let inFlow := 0 < (← get).depth
  let next ← ahead 1
  return !(c = ':' && (isBlankOrEnd next || (inFlow && isFlow next))) && !(inFlow && isFlow c)

/-- Passes the characters of a plain scalar up to the next blank or the end of the scalar. -/
def plainWord (steps : Nat) (done : List Char) : Walk (List Char) := do
  match steps with
  | 0 => return done
  | steps + 1 =>
    let c ← look
    if isBlankOrEnd c || !(← isPlainNext) then
      return done
    pass
    plainWord steps (c :: done)

/-- Passes the blanks and line ends behind the words of a plain scalar. -/
def plainBlanks (start : Mark) (indent : Int) (steps : Nat) (gathered : Gathered) :
    Walk Gathered := do
  match steps with
  | 0 => return gathered
  | steps + 1 =>
    let walker ← get
    let c ← look
    if isBlank c then
      if !walker.isFresh then
        passBlank
        plainBlanks start indent steps { gathered with blanks := c :: gathered.blanks }
      else if c = '\t' ∧ (walker.mark.column : Int) < indent then
        let _ ← passToEnd true
        if !isBreakOrEnd (← look) then failAt start .plainTab
        plainBlanks start indent steps gathered
      else
        passBlank
        plainBlanks start indent steps gathered
    else if isBreak c then
      passBreak
      plainBlanks start indent steps (gathered.broken (!walker.isFresh))
    else
      return gathered

/-- Passes the rest of a plain scalar. -/
def plainRest (start : Mark) (indent : Int) (steps : Nat) (gathered : Gathered) :
    Walk (List Char) := do
  match steps with
  | 0 => return gathered.text.reverse
  | steps + 1 =>
    let walker ← get
    let c ← look
    if (walker.mark.column = 0 && (← atDocument)) || c = '#' then
      return gathered.text.reverse
    if 0 < walker.depth ∧ c = '-' ∧ isFlow (← ahead 1) then fail .plainDash
    let gathered ← do
      if isBlankOrEnd c || !(← isPlainNext) then
        pure gathered
      else
        let gathered := if walker.isFresh then gathered.joined else gathered.spaced
        pure { gathered with text := ← plainWord (walker.rest.length + 1) gathered.text }
    let c ← look
    if !(isBlank c || isBreak c) then
      return gathered.text.reverse
    let gathered ← plainBlanks start indent (walker.rest.length + 1) gathered
    let walker ← get
    if walker.depth = 0 ∧ (walker.mark.column : Int) < indent then
      return gathered.text.reverse
    plainRest start indent steps gathered

/-- Passes a plain scalar. -/
def plain : Walk Token := do
  settle
  let walker ← get
  let start := walker.mark
  let indent := walker.indent + 1
  if 0 < walker.depth ∧ (start.column : Int) < indent then failAt start .flowIndentation
  let text ← plainRest start indent (walker.rest.length + 1) {}
  if (← get).isFresh then allowKey true
  if text.isEmpty then failAt start .plainEmpty
  return .scalar true (String.ofList text)

/-! ## Blocks of lines -/

/-- What happens to the line ends behind a block: all but one go, all go, or all stay. -/
inductive Chomping where
  | clip
  | strip
  | keep
  deriving DecidableEq, Repr

/-- Passes the sign that says what happens to the last line ends. -/
def chomping? : Walk (Option Chomping) := do
  match ← look with
  | '+' => pass *> return some .keep
  | '-' => pass *> return some .strip
  | _ => return none

/-- Passes the digit that says how far a block is indented; zero is none. -/
def indicator (start : Mark) : Walk Nat := do
  let c ← look
  if !c.isDigit then
    return 0
  if c = '0' then failAt start .blockIndicatorZero
  pass
  return c.toNat - '0'.toNat

/-- Passes blank lines and the indentation of the next line, and counts the lines. -/
def blockIndent (indent : Nat) (steps : Nat) (breaks : Nat) : Walk Nat := do
  match steps with
  | 0 => return breaks
  | steps + 1 =>
    let walker ← get
    let room := indent - walker.mark.column
    let spaces := (walker.rest.take room).takeWhile (· = ' ')
    let _ ← spaces.mapM fun _ => passBlank
    if isBreak (← look) then
      passBreak
      blockIndent indent steps (breaks + 1)
    else
      return breaks

/-- Passes blank lines and all spaces of the next line; gives the number of lines and the greatest
    column. -/
def firstIndent (steps : Nat) (breaks greatest : Nat) : Walk (Nat × Nat) := do
  match steps with
  | 0 => return (breaks, greatest)
  | steps + 1 =>
    passBlanksWhile (· = ' ')
    let greatest := max greatest (← place).column
    if isBreak (← look) then
      passBreak
      firstIndent steps (breaks + 1) greatest
    else
      return (breaks, greatest)

/-- Passes the lines of a block; `isBroken` tells whether a line end that is not yet part of the text
    is behind it, and `wasIndented` whether the last line starts with a blank. -/
def blockLines (literal : Bool) (indent steps : Nat) (text : List Char) (isBroken wasIndented : Bool)
    (breaks : Nat) : Walk (List Char × Bool × Nat) := do
  match steps with
  | 0 => return (text, isBroken, breaks)
  | steps + 1 =>
    let walker ← get
    let c ← look
    if walker.mark.column ≠ indent ∨ isEnd c ∨ (indent = 0 ∧ (← atDocumentMark "...")) then
      return (text, isBroken, breaks)
    let kept := List.replicate breaks '\n'
    let between :=
      if !literal && isBroken && !wasIndented && !isBlank c then
        if breaks = 0 then [' '] else kept
      else
        kept ++ (if isBroken then ['\n'] else [])
    let line := walker.rest.takeWhile fun c => !isBreakOrEnd c
    let _ ← line.mapM fun _ => passBlank
    let text := line.reverse ++ between ++ text
    if isEnd (← look) then
      return (text, false, 0)
    passBreak
    let breaks ← blockIndent indent (walker.rest.length + 1) 0
    blockLines literal indent steps text true (isBlank c) breaks

/-- Passes a block of lines; gives it with the place of its first line. -/
def block (literal : Bool) : Walk Placed := do
  let start ← place
  pass
  settle
  let early ← chomping?
  let increment ← indicator start
  let late ← if early.isNone ∧ 0 < increment then chomping? else pure none
  let chomping := (early.or late).getD .clip
  let _ ← passToEnd true
  let c ← look
  if !isBreakOrEnd c then failAt start .blockHeader
  let hasBreak := isBreak c
  passBreak
  if (← look) = '\t' then failAt start .blockTab
  let outer := (← get).indent
  let size := (← get).rest.length + 1
  let (indent, breaks) ←
    if 0 < increment then do
      let indent := (max outer 0).toNat + increment
      pure (indent, ← blockIndent indent size 0)
    else do
      let (breaks, greatest) ← firstIndent size 0 0
      pure (max greatest (outer + 1).toNat, breaks)
  let walker ← get
  if isEnd (← look) then
    let content :=
      if chomping = .strip || walker.mark.line = start.line then ""
      else if chomping = .clip || breaks = 0 then (if hasBreak then "\n" else "")
      else String.ofList (List.replicate breaks '\n')
    return ⟨start, .scalar false content⟩
  if walker.mark.column < indent ∧ outer < walker.mark.column then fail .blockIndentation
  let first := walker.mark
  let (text, isBroken, breaks) ← blockLines literal indent (size + 1) [] false false breaks
  let atEnd := isEnd (← look) && max indent 1 ≤ (← place).column
  let last := (if isBroken then ['\n'] else []) ++ (if atEnd then ['\n'] else [])
  let text := match chomping with
    | .strip => text
    | .clip => last ++ text
    | .keep => List.replicate breaks '\n' ++ last ++ text
  return ⟨first, .scalar false (String.ofList text.reverse)⟩

end CardServer.Settings.Format.Yaml.Walk
