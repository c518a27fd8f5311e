import CardServer.Settings.Format.Yaml.Token.Property
import CardServer.Settings.Format.Yaml.Token.Scalar

/-! # The tokens of a file of blocks

A key is told from other nodes by the colon behind it only, so a token is handed out when it is settled
whether a key starts there.

* `Placed.ofText`   the tokens of a file and what stops them, if anything does
-/

namespace CardServer.Settings.Format.Yaml

namespace Walk

/-! ## Between tokens -/

/-- Passes blanks, line ends and comments up to the next token. -/
def passToToken (steps : Nat) : Walk Unit := do
  match steps with
  | 0 => return
  | steps + 1 =>
    let walker ← get
    let c ← look
    if c = '\t' ∧ !walker.indents.isEmpty ∧ walker.isFresh ∧
        (walker.mark.column : Int) < walker.indent then
      let _ ← passToEnd true
      if !isBreakOrEnd (← look) then fail .tabInIndentation
      passToToken steps
    else if isBlank c then
      passBlank
      passToToken steps
    else if isBreak c then
      passBreak
      if walker.depth = 0 then allowKey true
      passToToken steps
    else if c = '#' then
      passComment
      passToToken steps

/-- Passes spaces, line ends and comments behind the sign of a key, where a blank has to follow. -/
def passBehindKey (steps : Nat) (isMissing : Bool) : Walk Unit := do
  match steps with
  | 0 => return
  | steps + 1 =>
    let c ← look
    if c = ' ' then
      passBlank
      passBehindKey steps false
    else if isBreak c then
      passBreak
      if (← get).depth = 0 then allowKey true
      passBehindKey steps false
    else if c = '#' then
      passComment
      passBehindKey steps isMissing
    else if isMissing then
      fail .blankExpected

/-! ## Flow collections -/

/-- How deep flow collections may stand inside each other. -/
def depthLimit : Nat := 255

/-- Ends the item of a flow sequence that is a mapping without braces.  One such mapping is open at a
    time: the first comma or closing sign behind its colon ends it, wherever that stands. -/
def endPair : Walk Unit := do
  let walker ← get
  if walker.inPair then
    set { walker with mappingOpened := false, inPair := false }
    emit walker.mark (.sign .flowMappingEnd)

/-- Passes the sign that opens a flow collection. -/
def flowStart (isMapping : Bool) : Walk Unit := do
  saveCandidate
  rollOne
  let walker ← get
  if depthLimit ≤ walker.depth then fail .tooDeep
  let start := walker.mark
  set { walker with
    candidates := ({} : KeyCandidate) :: walker.candidates
    depth := walker.depth + 1
    keyAllowed := true
    mappingOpened := walker.mappingOpened || isMapping }
  pass
  let _ ← passToEnd true
  emit start (.sign (if isMapping then .flowMappingStart else .flowSequenceStart))

/-- Passes the sign that closes a flow collection. -/
def flowEnd (isMapping : Bool) : Walk Unit := do
  dropCandidate
  modify fun walker =>
    if walker.depth = 0 then walker
    else { walker with depth := walker.depth - 1, candidates := walker.candidates.drop 1 }
  allowKey false
  endPair
  let start ← place
  pass
  let _ ← passToEnd true
  modify fun walker =>
    if 0 < walker.depth then { walker with tightColonAt := walker.mark.index } else walker
  emit start (.sign (if isMapping then .flowMappingEnd else .flowSequenceEnd))

/-- Passes the comma between the items of a flow collection. -/
def flowEntry : Walk Unit := do
  dropCandidate
  allowKey true
  endPair
  let start ← place
  pass
  let _ ← passToEnd true
  emit start (.sign .flowEntry)

/-! ## Items, keys and values -/

/-- Passes the dash of an item. -/
def blockEntry : Walk Unit := do
  let walker ← get
  let start := walker.mark
  if 0 < walker.depth then fail .itemInFlow
  if !walker.keyAllowed then fail .itemNotAllowed
  match walker.queue.getLast? with
  | some ⟨mark, .anchor _⟩ | some ⟨mark, .tag _ _⟩ =>
    if start.column = 0 ∧ mark.column = 0 ∧ -1 < walker.indent then failAt mark .anchorIndentation
  | _ => pure ()
  pass
  roll start.column none .blockSequenceStart start
  let blanks ← passToEnd true
  if blanks.tabs ∧ (← look) = '-' ∧ isBlankOrEnd (← ahead 1) then fail .tabAfterDash
  let _ ← passToEnd false
  let c ← look
  if isBreak c || isFlow c then rollOne
  dropCandidate
  allowKey true
  emit (← place) (.sign .blockEntry)

/-- Passes the question mark of a key. -/
def key : Walk Unit := do
  let walker ← get
  let start := walker.mark
  if walker.depth = 0 then
    if !walker.keyAllowed then fail .keyNotAllowed
    roll start.column none .blockMappingStart start
  else
    set { walker with mappingOpened := true }
  dropCandidate
  allowKey (walker.depth = 0)
  pass
  passBehindKey (walker.rest.length + 1) true
  if (← look) = '\t' then fail .tab
  emit start (.sign .key)

/-- Passes the colon of a value.  If a candidate stands before it, that is the key. -/
def value : Walk Unit := do
  let candidate ← candidate
  let walker ← get
  let start := walker.mark
  let isPair := 0 < walker.depth && !walker.mappingOpened
  set { walker with inPair := isPair }
  pass
  if (← look) = '\t' then
    let blanks ← passToEnd true
    let c ← look
    if !blanks.spaces ∧ (c = '-' ∨ isWord c) then fail .tabAfterColon
  if candidate.possible then
    emitBefore candidate.number candidate.mark (.sign .key)
    if isPair then
      if candidate.mark.line < start.line then failAt start .misplacedColon
      emitBefore candidate.number (← place) (.sign .flowMappingStart)
    roll candidate.mark.column (some candidate.number) .blockMappingStart start
    rollOne
    setCandidate { candidate with possible := false }
    allowKey false
  else
    if isPair then emit (← place) (.sign .flowMappingStart)
    if walker.depth = 0 then
      if !walker.keyAllowed then failAt start .valueNotAllowed
      roll start.column none .blockMappingStart start
    rollOne
    allowKey (walker.depth = 0)
  emit start (.sign .value)

/-! ## Documents -/

/-- Passes the three characters that start or end a document. -/
def documentMark (sign : Sign) : Walk Unit := do
  unroll (-1)
  dropCandidate
  allowKey false
  let start ← place
  passMany 3
  emit start (.sign sign)

/-- Ends the file, which is on a line of its own. -/
def streamEnd : Walk Unit := do
  modify fun walker =>
    if walker.mark.column = 0 then walker
    else { walker with mark := { walker.mark with line := walker.mark.line + 1, column := 0 } }
  if (← get).candidates.any fun candidate => candidate.possible && candidate.required then
    fail .keyExpected
  modify fun walker =>
    { walker with candidates := walker.candidates.map ({ · with possible := false }) }
  unroll (-1)
  dropCandidate
  allowKey false
  emit (← place) (.sign .streamEnd)

/-! ## All tokens -/

/-- Passes a scalar that may be a key. -/
def scalar (keyAfterwards : Bool) (token : Walk Placed) : Walk Unit := do
  saveCandidate
  allowKey keyAfterwards
  let placed ← token
  emit placed.mark placed.token

/-- Passes a quoted scalar and what is behind it up to the next token. -/
def quotedScalar (quote : Char) (steps : Nat) : Walk Unit := do
  let start ← place
  scalar false do
    let token ← quoted quote
    passToToken steps
    modify fun walker => { walker with tightColonAt := walker.mark.index }
    return ⟨start, token⟩

/-- Passes a plain scalar. -/
def plainScalar : Walk Unit := do
  let start ← place
  scalar false do return ⟨start, ← plain⟩

/-- Passes what is next and makes its tokens. -/
def step : Walk Unit := do
  let steps := (← get).rest.length + 1
  passToToken steps
  dropStaleCandidates
  unroll (← place).column
  let walker ← get
  let c ← look
  let next ← ahead 1
  let tight := isBlankOrEnd next
  let inFlow := 0 < walker.depth
  if isEnd c then
    streamEnd
  else if walker.mark.column = 0 ∧ c = '%' then
    directive steps
  else if walker.mark.column = 0 ∧ (← atDocumentMark "---") then
    documentMark .documentStart
  else if walker.mark.column = 0 ∧ (← atDocumentMark "...") then
    documentMark .documentEnd
    let _ ← passToEnd true
    if !isBreakOrEnd (← look) then fail .afterDocumentEnd
  else if (walker.mark.column : Int) < walker.indent then
    fail .badIndentation
  else if c = '[' then flowStart false
  else if c = '\x7b' then flowStart true
  else if c = ']' then flowEnd false
  else if c = '\x7d' then flowEnd true
  else if c = ',' then flowEntry
  else if c = '-' ∧ tight then blockEntry
  else if c = '?' ∧ tight then key
  else if c = ':' ∧ (tight ∨ (inFlow ∧ (isFlow next ∨ walker.mark.index = walker.tightColonAt))) then
    value
  else if c = '*' then anchor .alias
  else if c = '&' then anchor .anchor
  else if c = '!' then tag steps
  else if c = '|' ∧ !inFlow then scalar true (block true)
  else if c = '>' ∧ !inFlow then scalar true (block false)
  else if c = '\'' ∨ c = '"' then quotedScalar c steps
  else if c = '%' ∨ c = '@' ∨ c = '`' then fail (.stray c)
  else plainScalar

/-- Whether the first token that is ready may still turn out to be a key. -/
def isUnsettled (walker : Walker) : Bool :=
  walker.candidates.any fun candidate =>
    candidate.possible && candidate.number = walker.handedOut

/-- Gives up candidates that are too far behind, if a token is ready. -/
def review : Walk Unit := do
  if !(← get).queue.isEmpty then dropStaleCandidates

/-- Hands out the tokens of the rest of a file, and what stops them, if anything does. -/
def tokens (steps : Nat) (walker : Walker) : List Placed × Option Fault :=
  match steps with
  | 0 => ([], none)
  | steps + 1 =>
    match review.run walker with
    | .error fault => ([], some fault)
    | .ok (_, walker) =>
      match walker.queue, isUnsettled walker with
      | placed :: queue, false =>
        if placed.is .streamEnd then
          ([placed], none)
        else
          let (others, fault) :=
            tokens steps { walker with queue, handedOut := walker.handedOut + 1 }
          (placed :: others, fault)
      | _, _ =>
        match step.run walker with
        | .error fault => ([], some fault)
        | .ok (_, walker) => tokens steps walker

end Walk

/-- The tokens of a file, and what stops them, if anything does. -/
def Placed.ofText (text : String) : List Placed × Option Fault :=
  Walk.tokens (8 * text.length + 16) { rest := text.toList }

end CardServer.Settings.Format.Yaml
