import CardServer.Settings.Format.Toml.Number
import CardServer.Settings.Format.Toml.Setting

/-! # Settings in tables under headings

Lines `key = value` under headings in brackets.  Keys and headings may be dotted, a heading in double
brackets opens one more item of a list of tables, and values are strings, numbers, truth values,
times, arrays and tables in braces.  Times are kept as texts.  A file that breaks a rule is reported
with the line where it does and a mark under the place.

* `read`     the table of a file, or why there is none
-/

namespace CardServer.Settings.Format.Toml

open Scan Walk

/-! ## Values -/

/-- Takes a truth value, an infinity or the word for no number by its first letter. -/
def word : Walk Scalar :=
  within "string" (expecting ["`\"`", "`'`"] do
    match ← peek? with
    | some 't' => final (text "true") *> return .bool true
    | some 'f' => final (text "false") *> return .bool false
    | some 'i' => text "inf" *> return .real (.infinite false)
    | some 'n' => text "nan" *> return .real .nan
    | _ => fail)

/-- Takes an integer as a scalar. -/
def integerScalar : Walk Scalar := do return .int (← integer)

/-- Takes a number with a fraction or an exponent as a scalar. -/
def realScalar : Walk Scalar := do return .real (← real)

/-- Takes a scalar that is no time. -/
def scalar (steps : Nat) : Walk Scalar := do
  match ← peek? with
  | none => fail
  | some c =>
    if c = '"' ∨ c = '\'' then
      return .text (← anyString steps c)
    else if c = '+' ∨ c = '-' ∨ c.isDigit then
      realScalar.orElse integerScalar
    else if c = '_' then
      expecting ["leading digit"] integerScalar
    else if c = '.' then
      expecting ["leading digit"] realScalar
    else
      word

/-- Takes a scalar. -/
def anyScalar (steps : Nat) : Walk Node := do
  let plain : Walk Node := do
    let (scalar, stretch) ← measured (scalar steps)
    return .scalar stretch scalar
  match ← peek? with
  | some c =>
    if c = '+' ∨ c = '-' ∨ c.isDigit then
      Walk.orElse (do
        let (time, stretch) ← measured time
        return .time stretch time) plain
    else
      plain
  | none => fail

/-- Takes the sign between a key and its value. -/
def equals : Walk Unit := final (expecting ["`.`", "`=`"] (text "="))

mutual

/-- Takes a value that stands inside `depth` others. -/
def value (depth steps : Nat) : Walk Node := do
  match steps with
  | 0 => fail
  | steps + 1 =>
    let start ← get
    match start.head? with
    | some '[' =>
      if depthLimit ≤ depth + 1 then final (refuse start .tooDeep)
      drop 1
      let items ← final do
        let items ← items (depth + 1) steps
        skipLines steps
        return items
      final (within "array" (expecting ["`]`"] (text "]")))
      return .array ⟨start, ← get⟩ items
    | some '\x7b' =>
      if depthLimit ≤ depth + 1 then final (refuse start .tooDeep)
      drop 1
      let inside ← get
      let pairs ← final do
        let pairs ← pairs (depth + 1) steps
        skip isBlank
        return pairs
      match braced pairs with
      | .error cause => final (refuse inside cause)
      | .ok entries =>
        final (within "inline table" (expecting ["`\x7d`"] (text "\x7d")))
        return .table true .declared ⟨start, ← get⟩ entries
    | _ => anyScalar steps

/-- Takes the items of an array with the commas between them, and a comma behind the last. -/
def items (depth steps : Nat) : Walk (List Node) := do
  match steps with
  | 0 => fail
  | steps + 1 =>
    match ← attempt? (item depth steps) with
    | none => return []
    | some first =>
      let others ← itemsBehind depth steps
      let _ ← attempt? (text ",")
      return first :: others

/-- Takes the items of an array behind one, each with a comma before it. -/
def itemsBehind (depth steps : Nat) : Walk (List Node) := do
  match steps with
  | 0 => fail
  | steps + 1 =>
    match ← attempt? (text "," *> item depth steps) with
    | none => return []
    | some next => return next :: (← itemsBehind depth steps)

/-- Takes an item of an array and the line ends around it. -/
def item (depth steps : Nat) : Walk Node := do
  match steps with
  | 0 => fail
  | steps + 1 =>
    skipLines steps
    let node ← value depth steps
    skipLines steps
    return node

/-- Takes the dotted keys in braces with their values and the commas between them. -/
def pairs (depth steps : Nat) : Walk (List (List KeyPart × Node)) := do
  match steps with
  | 0 => fail
  | steps + 1 =>
    match ← attempt? (pair depth steps) with
    | none => return []
    | some first => return first :: (← pairsBehind depth steps)

/-- Takes the dotted keys in braces behind one, each with a comma before it. -/
def pairsBehind (depth steps : Nat) : Walk (List (List KeyPart × Node)) := do
  match steps with
  | 0 => fail
  | steps + 1 =>
    match ← attempt? (text "," *> pair depth steps) with
    | none => return []
    | some next => return next :: (← pairsBehind depth steps)

/-- Takes a dotted key in braces with its value. -/
def pair (depth steps : Nat) : Walk (List KeyPart × Node) := do
  match steps with
  | 0 => fail
  | steps + 1 =>
    let path ← key steps
    equals
    final do
      skip isBlank
      let node ← value depth steps
      skip isBlank
      return (path, node)

end

/-! ## Lines -/

/-- The tables after a change, which is refused in front of some text if it cannot be. -/
def settle {α : Type} (start : List Char) (result : Except Cause α) : Walk α :=
  match result with
  | .ok result => return result
  | .error cause => refuse start cause

/-- Takes a heading. -/
def heading (steps : Nat) (draft : Draft) : Walk Draft := within "table header" do
  let start ← get
  if start.length < 2 then fail
  let isItem ← accept "[["
  if !isItem then text "["
  let close := if isItem then "]]" else "]"
  let path ← key steps
  expecting ["`.`", "`" ++ close ++ "`"] (text close)
  let behind ← get
  lineRest
  settle start (draft.openTable path isItem ⟨start, behind⟩)

/-- Takes a line with a key and its value. -/
def assignment (steps : Nat) (draft : Draft) : Walk Draft := do
  let start ← get
  let path ← key steps
  equals
  skip isBlank
  let node ← value 0 steps
  lineRest
  settle start (draft.assign path node)

/-- Takes the lines of a file. -/
def lines (steps : Nat) (draft : Draft) : Walk Draft := do
  match steps with
  | 0 => fail
  | steps + 1 =>
    skip isBlank
    match ← peek? with
    | none => return draft
    | some '#' =>
      comment
      lineEnd
      lines steps draft
    | some '[' => lines steps (← heading steps draft)
    | some c =>
      if c = '\n' ∨ c = '\r' then
        match ← attempt? lineBreak with
        | none => return draft
        | some _ => lines steps draft
      else
        lines steps (← assignment steps draft)

/-- Takes a file, which may start with a mark of its byte order. -/
def document (steps : Nat) : Walk Entries := do
  let _ ← accept "\ufeff"
  let draft ← lines steps {}
  let rest ← get
  if !rest.isEmpty then fail
  settle rest draft.settled

/-- Reads a file, or says why it cannot be read. -/
def read (origin : Origin) (text : String) : Except String Value :=
  match (document (4 * text.length + 8)).whole {} text >>= Node.tableValue origin with
  | .ok value => .ok value
  | .error stop => .error (message text stop)

end CardServer.Settings.Format.Toml
