import CardServer.Settings.Environment
import CardServer.Text.Alphanumeric
import CardServer.Text.Blank

/-! # Files of variables

A file of variables holds one assignment per line, `NAME=value`, perhaps with `export` in front.
Quotes may span lines, `#` behind a blank starts a comment, and `$NAME` or a name in braces stands for
the value of a variable.  Variables that are set already keep their value.  Reading stops without a
word at the first line that is malformed, and what was assigned up to there holds.
-/

namespace CardServer.Settings.EnvFile

/-! ## Lines -/

/-- Where a line stands between its characters. -/
inductive LineState where
  | complete
  | blank
  | escape
  | strong
  | strongEscape
  | weak
  | weakEscape
  deriving DecidableEq, Repr

/-- The state after a character outside quotes. -/
def LineState.opening (c : Char) : LineState :=
  match c with
  | '\\' => .escape
  | '"' => .weak
  | '\'' => .strong
  | _ => .complete

/-- The state after one more character. -/
def LineState.next (state : LineState) (c : Char) : LineState :=
  match state with
  | .complete =>
    if Text.isBlank c ∧ c ≠ '\n' ∧ c ≠ '\r' then .blank else LineState.opening c
  | .blank => LineState.opening c
  | .escape => .complete
  | .weak => if c = '\\' then .weakEscape else if c = '"' then .complete else .weak
  | .weakEscape => .weak
  | .strong => if c = '\\' then .strongEscape else if c = '\'' then .complete else .strong
  | .strongEscape => .strong

/-- Reads a line from some state: the state at its end, or the characters before the comment that
    ends it. -/
def scanLine (state : LineState) (done : List Char) : List Char → LineState ⊕ List Char
  | [] => .inl state
  | c :: rest =>
    if state = .blank ∧ c = '#' then .inr done.reverse
    else scanLine (state.next c) (c :: done) rest

/-- A line without its line feed and a carriage return before that. -/
def dropLineEnd (line : List Char) : List Char :=
  match line.reverse with
  | '\n' :: '\r' :: rest => rest.reverse
  | '\n' :: rest => rest.reverse
  | _ => line

/-- Joins the lines that quotes hold together; `none` stands for a line that cannot be read.
    `pending` is the part of the current line that has been read, `state` where it stands. -/
def joinLines (pending : List Char) (state : LineState) :
    List (Option (List Char)) → List (Option (List Char))
  | [] => if state = .complete then [] else [none]
  | none :: _ => [none]
  | some line :: rest =>
    let whole := pending ++ line
    if (Text.skipBlanks whole).head? = some '#' then
      some [] :: joinLines [] .complete rest
    else
      match scanLine state [] line with
      | .inr kept => some (pending ++ kept) :: joinLines [] .complete rest
      | .inl .complete => some (dropLineEnd whole) :: joinLines [] .complete rest
      | .inl state => joinLines whole state rest

/-- The lines of some bytes, each with its line feed. -/
def splitLines (done : List UInt8) : List UInt8 → List (List UInt8)
  | [] => if done.isEmpty then [] else [done.reverse]
  | b :: rest =>
    if b = 10 then (b :: done).reverse :: splitLines [] rest else splitLines (b :: done) rest

/-- The characters of a line, if it is UTF-8. -/
def decodeLine (line : List UInt8) : Option (List Char) :=
  (String.fromUTF8? ⟨line.toArray⟩).map String.toList

/-- The bytes after a byte order mark. -/
def dropMark : List UInt8 → List UInt8
  | 0xEF :: 0xBB :: 0xBF :: rest => rest
  | bytes => bytes

/-- The lines of a file, joined where quotes hold them together. -/
def lines (bytes : ByteArray) : List (Option (List Char)) :=
  joinLines [] .complete ((splitLines [] (dropMark bytes.data.toList)).map decodeLine)

/-! ## Values -/

/-- How the name of a variable to be put in is being read. -/
inductive Substitution where
  | none
  | plain
  | braced
  deriving DecidableEq, Repr

/-- A value that is being read; the texts have the last character first. -/
structure ValueScan where
  strong : Bool
  weak : Bool
  escaped : Bool
  /-- A blank outside quotes has been seen: only blanks and a comment may follow. -/
  ended : Bool
  comment : Bool
  substitution : Substitution
  name : List Char
  output : List Char

/-- A value of which nothing has been read. -/
def ValueScan.start : ValueScan := ⟨false, false, false, false, false, .none, [], []⟩

/-- Puts in the value of the variable whose name has been read. -/
def ValueScan.substitute (look : String → String) (scan : ValueScan) : ValueScan :=
  { scan with
    name := []
    output := (look (String.ofList scan.name.reverse)).toList.reverse ++ scan.output }

/-- Appends a character to the value. -/
def ValueScan.push (scan : ValueScan) (c : Char) : ValueScan :=
  { scan with output := c :: scan.output }

/-- Takes in a character while the name of a variable is being read. -/
def ValueScan.stepName (look : String → String) (scan : ValueScan) (c : Char) : ValueScan :=
  if Text.isAlphanumeric c then
    { scan with name := c :: scan.name }
  else if scan.substitution = .plain then
    if c = '{' ∧ scan.name = [] then
      { scan with substitution := .braced }
    else if c = '$' then
      { scan.substitute look with substitution := .plain }
    else
      { (scan.substitute look).push c with substitution := .none }
  else if c = '}' then
    { scan.substitute look with substitution := .none }
  else
    { scan with name := c :: scan.name }

/-- Takes in one more character of a value; `none` if the value is malformed. -/
def ValueScan.step (look : String → String) (scan : ValueScan) (c : Char) : Option ValueScan :=
  if scan.comment then
    some scan
  else if scan.ended then
    if c = ' ' ∨ c = '\t' then some scan
    else if c = '#' then some { scan with comment := true }
    else none
  else if scan.escaped then
    if c = '\\' ∨ c = '\'' ∨ c = '"' ∨ c = '$' ∨ c = ' ' then
      some { scan.push c with escaped := false }
    else if c = 'n' then
      some { scan.push '\n' with escaped := false }
    else
      none
  else if scan.strong then
    some (if c = '\'' then { scan with strong := false } else scan.push c)
  else if scan.substitution ≠ .none then
    some (scan.stepName look c)
  else if c = '$' then
    some { scan with substitution := .plain }
  else if c = '\\' then
    some { scan with escaped := true }
  else if c = '"' then
    some { scan with weak := !scan.weak }
  else if scan.weak then
    some (scan.push c)
  else if c = '\'' then
    some { scan with strong := true }
  else if c = ' ' ∨ c = '\t' then
    some { scan with ended := true }
  else
    some (scan.push c)

/-- Reads a value; `look` gives the values of variables. -/
def readValue (look : String → String) (text : List Char) : Option String := do
  let scan ← text.foldlM (ValueScan.step look) ValueScan.start
  if scan.substitution = .braced ∨ scan.strong ∨ scan.weak then
    none
  else
    return String.ofList (scan.substitute look).output.reverse

/-! ## Assignments -/

/-- Whether a character may stand in the name of a variable. -/
def isNameChar (c : Char) : Bool := c.isAlphanum || c = '_' || c = '.'

/-- Reads the name of a variable and the blanks after it. -/
def readName (text : List Char) : Option (List Char × List Char) :=
  match text with
  | [] => none
  | c :: _ =>
    if c.isAlpha ∨ c = '_' then
      some (text.takeWhile isNameChar, Text.skipBlanks (text.dropWhile isNameChar))
    else
      none

/-- Reads the equals sign behind a name and the blanks after it. -/
def readEquals : List Char → Option (List Char)
  | '=' :: rest => some (Text.skipBlanks rest)
  | _ => none

/-- Reads the left side of an assignment; `export` in front of a name is passed over. -/
def readTarget (text : List Char) : Option (List Char × List Char) := do
  let (name, rest) ← readName text
  match readEquals rest with
  | some rest => return (name, rest)
  | none =>
    if name = "export".toList then
      let (name, rest) ← readName rest
      return (name, ← readEquals rest)
    else
      none

/-- A line without the blanks at its end. -/
def dropTrailingBlanks (line : List Char) : List Char :=
  (line.reverse.dropWhile Text.isBlank).reverse

/-- What a line of a file is. -/
inductive Line where
  | empty
  | assignment (name value : String)
  | malformed
  deriving DecidableEq, Repr

/-- Reads a line; `look` gives the values of variables. -/
def readLine (look : String → String) (line : List Char) : Line :=
  match Text.skipBlanks (dropTrailingBlanks line) with
  | [] => .empty
  | '#' :: _ => .empty
  | text =>
    match readTarget text with
    | none => .malformed
    | some (name, []) => .assignment (String.ofList name) ""
    | some (name, '#' :: _) => .assignment (String.ofList name) ""
    | some (name, text) =>
      match readValue look text with
      | some value => .assignment (String.ofList name) value
      | none => .malformed

/-- The value that a variable has while a file is read: that of the environment, else the last one
    assigned in the file, else nothing. -/
def look (environment assigned : Environment) (name : String) : String :=
  ((environment.lookUp? name).or (assigned.get? name)).getD ""

/-- The environment with the assignments of some lines, up to the first malformed one.  `assigned`
    holds what the lines before have assigned, the last one first. -/
def apply (environment assigned : Environment) : List (Option (List Char)) → Environment
  | [] => environment
  | none :: _ => environment
  | some line :: rest =>
    match readLine (look environment assigned) line with
    | .malformed => environment
    | .empty => apply environment assigned rest
    | .assignment name value =>
      apply (environment.define name value) ⟨(name, value) :: assigned.entries⟩ rest

/-- The environment with the variables of a file. -/
def load (environment : Environment) (bytes : ByteArray) : Environment :=
  apply environment ⟨[]⟩ (lines bytes)

end CardServer.Settings.EnvFile
