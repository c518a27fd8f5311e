import CardServer.Settings.Format.Yaml.Token

/-! # Walking through a file of blocks

What a walk through the characters of a file keeps: its place, the indentation of the collections around
it, and which of the last tokens may turn out to be a key.  A character that is missing reads as the null
character, which ends a file.
-/

namespace CardServer.Settings.Format.Yaml

/-! ## Classes of characters -/

/-- Whether a character ends the file. -/
def isEnd (c : Char) : Bool := c = '\x00'

/-- Whether a character ends a line. -/
def isBreak (c : Char) : Bool := c = '\n' || c = '\r'

/-- Whether a character ends a line or the file. -/
def isBreakOrEnd (c : Char) : Bool := isBreak c || isEnd c

/-- Whether a character is a blank inside a line. -/
def isBlank (c : Char) : Bool := c = ' ' || c = '\t'

/-- Whether a character is a blank, or ends a line or the file. -/
def isBlankOrEnd (c : Char) : Bool := isBlank c || isBreakOrEnd c

/-- Whether a character is a mark of flow collections. -/
def isFlow (c : Char) : Bool := c = ',' || c = '[' || c = ']' || c = '\x7b' || c = '\x7d'

/-- Whether a character may stand in the name of a directive or of a handle. -/
def isWord (c : Char) : Bool := c.isAlphanum || c = '_' || c = '-'

/-! ## The state of a walk -/

/-- The indentation around a collection; `isBlock` tells whether a token ends the collection. -/
structure Indent where
  outer : Int
  isBlock : Bool
  deriving DecidableEq, Repr

/-- A token that may turn out to be a key. -/
structure KeyCandidate where
  possible : Bool := false
  /-- Whether nothing else can stand there. -/
  required : Bool := false
  /-- How many tokens are before it. -/
  number : Nat := 0
  mark : Mark := {}
  deriving DecidableEq, Repr

/-- The state of a walk. -/
structure Walker where
  rest : List Char
  mark : Mark := {}
  /-- Whether only blanks have been passed on the line. -/
  isFresh : Bool := true
  indent : Int := -1
  /-- The indentations outside, the innermost first. -/
  indents : List Indent := []
  /-- The candidates in the flow collections around the place, the innermost first. -/
  candidates : List KeyCandidate := [{}]
  /-- Whether a key may start here. -/
  keyAllowed : Bool := true
  /-- How many flow collections are around the place. -/
  depth : Nat := 0
  /-- The tokens that have been made and not been handed out. -/
  queue : List Placed := []
  /-- How many tokens have been handed out. -/
  handedOut : Nat := 0
  /-- Whether a flow mapping has been opened by a token. -/
  mappingOpened : Bool := false
  /-- Whether the place is in a mapping without braces that is an item of a flow sequence. -/
  inPair : Bool := false
  /-- Where a colon is a sign without a blank behind it. -/
  tightColonAt : Nat := 0

/-- A walk through a file. -/
abbrev Walk (α : Type) := StateT Walker (Except Fault) α

namespace Walk

/-- The place of a walk. -/
def place : Walk Mark := do return (← get).mark

/-- Stops for some trouble. -/
def failAt {α : Type} (mark : Mark) (trouble : Trouble) : Walk α := throw ⟨trouble, mark⟩

/-- Stops for some trouble where the walk is. -/
def fail {α : Type} (trouble : Trouble) : Walk α := do failAt (← place) trouble

/-- The character so far ahead. -/
def ahead (distance : Nat) : Walk Char := do return (← get).rest.getD distance '\x00'

/-- The next character. -/
def look : Walk Char := ahead 0

/-- The state after passing a character inside a line. -/
def advanced (walker : Walker) (isBlank : Bool) : Walker :=
  { walker with
    rest := walker.rest.drop 1
    mark := { walker.mark with index := walker.mark.index + 1, column := walker.mark.column + 1 }
    isFresh := walker.isFresh && isBlank }

/-- Passes a blank. -/
def passBlank : Walk Unit := modify (advanced · true)

/-- Passes a character that is no blank. -/
def pass : Walk Unit := modify (advanced · false)

/-- Passes so many characters that are no blanks. -/
def passMany : Nat → Walk Unit
  | 0 => return
  | count + 1 => pass *> passMany count

/-- Passes a line end, which may be of two characters. -/
def passBreak : Walk Unit := do
  if (← look) = '\r' ∧ (← ahead 1) = '\n' then
    passBlank
  if isBreak (← look) then
    modify fun walker => { walker with
      rest := walker.rest.drop 1
      mark := ⟨walker.mark.index + 1, walker.mark.line + 1, 0⟩
      isFresh := true }

/-- Passes characters as long as they belong to a class, and gives them. -/
def passWhile (p : Char → Bool) : Walk (List Char) := do
  let taken := (← get).rest.takeWhile p
  passMany taken.length
  return taken

/-- Passes blanks as long as they belong to a class. -/
def passBlanksWhile (p : Char → Bool) : Walk Unit := do
  let taken := (← get).rest.takeWhile p
  let _ ← taken.mapM fun _ => passBlank

/-- Passes a comment up to the end of its line. -/
def passComment : Walk Unit := do
  let _ ← passWhile fun c => !isBreakOrEnd c

/-- What kinds of blanks have been passed. -/
structure Blanks where
  tabs : Bool
  spaces : Bool

/-- Passes the blanks up to the next thing on a line, and a comment, which needs a blank before it. -/
def passToEnd (withTabs : Bool) : Walk Blanks := do
  let taken := (← get).rest.takeWhile fun c => c = ' ' || (withTabs && c = '\t')
  let _ ← taken.mapM fun _ => passBlank
  if (← look) = '#' then
    if taken.isEmpty then fail .tightComment
    passComment
  return ⟨taken.contains '\t', taken.contains ' '⟩

/-! ## Tokens and keys -/

/-- Adds a token. -/
def emit (mark : Mark) (token : Token) : Walk Unit :=
  modify fun walker => { walker with queue := walker.queue ++ [⟨mark, token⟩] }

/-- Puts a token before others that have been made but not handed out; `number` counts the tokens
    before it. -/
def emitBefore (number : Nat) (mark : Mark) (token : Token) : Walk Unit :=
  modify fun walker =>
    let position := number - walker.handedOut
    { walker with
      queue := walker.queue.take position ++ ⟨mark, token⟩ :: walker.queue.drop position }

/-- Says whether a key may start at the next token. -/
def allowKey (allowed : Bool) : Walk Unit := modify ({ · with keyAllowed := allowed })

/-- The candidate of the innermost collection. -/
def candidate : Walk KeyCandidate := do return (← get).candidates.headD {}

/-- Changes the candidate of the innermost collection. -/
def setCandidate (candidate : KeyCandidate) : Walk Unit :=
  modify fun walker => { walker with candidates := candidate :: walker.candidates.drop 1 }

/-- Makes the next token a candidate, if a key may start there. -/
def saveCandidate : Walk Unit := do
  let walker ← get
  if walker.keyAllowed then
    setCandidate {
      possible := true
      required := walker.depth = 0 && walker.indent = walker.mark.column &&
        (walker.indents.head?.map Indent.isBlock).getD false
      number := walker.handedOut + walker.queue.length
      mark := walker.mark }

/-- Gives up the candidate of the innermost collection. -/
def dropCandidate : Walk Unit := do
  let candidate ← candidate
  if candidate.possible && candidate.required then fail .keyExpected
  setCandidate { candidate with possible := false }

/-- How far behind a candidate its colon may be. -/
def keyReach : Nat := 1024

/-- Gives up the candidates that are too far behind: outside flow collections a key ends on its line. -/
def dropStaleCandidates : Walk Unit := do
  let walker ← get
  if walker.depth = 0 then
    let isStale (candidate : KeyCandidate) : Bool :=
      candidate.possible && (candidate.mark.line < walker.mark.line ||
        candidate.mark.index + keyReach < walker.mark.index)
    if walker.candidates.any fun candidate => isStale candidate && candidate.required then
      fail .keyWithoutColon
    let candidates := walker.candidates.map fun candidate : KeyCandidate =>
      { candidate with possible := candidate.possible && !isStale candidate }
    set { walker with candidates }

/-! ## Indentation -/

/-- Opens a block collection at a column, unless one is open there; `number` tells where its token
    belongs if others follow it. -/
def roll (column : Nat) (number : Option Nat) (sign : Sign) (mark : Mark) : Walk Unit := do
  let walker ← get
  if walker.depth = 0 then
    let column : Int := column
    let walker := match walker.indents with
      | ⟨outer, false⟩ :: indents =>
        if walker.indent ≤ column then { walker with indent := outer, indents } else walker
      | _ => walker
    set walker
    if walker.indent < column then
      set { walker with indent := column, indents := ⟨walker.indent, true⟩ :: walker.indents }
      match number with
      | some number => emitBefore number mark (.sign sign)
      | none => emit mark (.sign sign)

/-- The state when the collections indented further than a column are left. -/
def unrolled (column : Int) (walker : Walker) : List Indent → Walker
  | [] => walker
  | ⟨outer, isBlock⟩ :: indents =>
    if column < walker.indent then
      let ended : List Placed := if isBlock then [⟨walker.mark, .sign .blockEnd⟩] else []
      unrolled column { walker with indent := outer, indents, queue := walker.queue ++ ended } indents
    else
      walker

/-- Leaves the collections indented further than a column. -/
def unroll (column : Int) : Walk Unit :=
  modify fun walker => if walker.depth = 0 then unrolled column walker walker.indents else walker

/-- Makes what follows belong to a block collection only if it is indented further. -/
def rollOne : Walk Unit :=
  modify fun walker =>
    if walker.depth = 0 && (walker.indents.head?.map Indent.isBlock).getD false then
      { walker with indent := walker.indent + 1, indents := ⟨walker.indent, false⟩ :: walker.indents }
    else
      walker

/-- The state with the innermost indentations that no token ends left. -/
def settled (walker : Walker) : List Indent → Walker
  | ⟨outer, false⟩ :: indents => settled { walker with indent := outer, indents } indents
  | _ => walker

/-- Leaves the innermost indentations that no token ends. -/
def settle : Walk Unit := modify fun walker => settled walker walker.indents

/-- Whether three characters that mark the start or the end of a document are next. -/
def atDocumentMark (mark : String) : Walk Bool := do
  let rest := (← get).rest
  return mark.toList.isPrefixOf rest && isBlankOrEnd (rest.getD 3 '\x00')

/-- Whether the start or the end of a document is next. -/
def atDocument : Walk Bool := do
  return (← atDocumentMark "---") || (← atDocumentMark "...")

end Walk

end CardServer.Settings.Format.Yaml
