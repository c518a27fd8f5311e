import CardServer.Settings.Format.Numeral
import CardServer.Settings.Format.Scan
import CardServer.Settings.Value
import CardServer.Text.Blank
import CardServer.Text.Quoted

/-! # Settings in sections of lines

Lines `name = value` or `name: value`, under headings in brackets that open a section.  Lines that
start with a semicolon or a number sign are comments.  All values are texts; a value that starts with a
quote goes on behind the closing quote to the end of its line, and a backslash starts an escape.  A
heading that comes again replaces its section.

* `read`   the table of a file, or why there is none
-/

namespace CardServer.Settings.Format.Ini

open Scan

/-- Why a file cannot be read. -/
inductive Obstacle where
  /-- The file ends where one of some ends has to come first; no character is the end of the file. -/
  | openText (ends : List (Option Char))
  /-- No name stands in front of a value. -/
  | noName
  /-- A comment that does not start its line. -/
  | lateComment
  /-- The four characters of an escape that give no code point. -/
  | noCodePoint
  /-- A backslash among the characters of an escape that does not end its line. -/
  | noLineEnd
  deriving DecidableEq, Repr

/-- A walk through a file of sections. -/
abbrev Walk (α : Type) := Scan Obstacle α

/-- A text without the blanks at its end. -/
def trimEnd (text : List Char) : List Char := (text.reverse.dropWhile Text.isBlank).reverse

/-- A text without the blanks around it. -/
def trim (text : List Char) : List Char := trimEnd (Text.skipBlanks text)

/-- Takes the next character of a text that one of some ends has to follow. -/
def next (ends : List (Option Char)) : Walk Char := do
  match ← get with
  | c :: rest => set rest *> return c
  | [] => stop (.openText ends)

/-- Takes the characters that write a code point. -/
def codeText (ends : List (Option Char)) (count : Nat) : Walk (List Char) := do
  match count with
  | 0 => return []
  | count + 1 =>
    let c ← next ends
    if c = '\\' then
      if (← peek?) ≠ some '\n' then stop .noLineEnd
      drop 1
    return c :: (← codeText ends count)

/-- Takes the four characters that write a code point; a plus sign may be the first of them. -/
def codePoint (ends : List (Option Char)) : Walk Char := do
  let start ← get
  let text ← codeText ends 4
  let rest ← get
  let last := start.drop (start.length - rest.length - 1)
  let digits := if text.head? = some '+' then text.drop 1 else text
  match (natural? 16 digits).filter (·.isValidChar) with
  | some n => return Char.ofNat n
  | none => stopAt last .noCodePoint

/-- Takes the character of an escape, if it stands for one. -/
def escaped (ends : List (Option Char)) : Walk (Option Char) := do
  match ← next ends with
  | '0' => return some '\x00'
  | 'a' => return some '\x07'
  | 'b' => return some '\x08'
  | 't' => return some '\t'
  | 'r' => return some '\r'
  | 'n' => return some '\n'
  | '\n' => return none
  | 'x' => return some (← codePoint ends)
  | c => return some c

/-- Takes a text up to one of some ends, which is left; every round takes a character at least. -/
def upTo (ends : List (Option Char)) (steps : Nat) (done : List Char) : Walk (List Char) := do
  match steps with
  | 0 => return done.reverse
  | steps + 1 =>
    if ends.contains (← peek?) then
      return done.reverse
    let c ← next ends
    if c = '\\' then
      upTo ends steps ((← escaped ends).toList ++ done)
    else
      upTo ends steps (c :: done)

/-- Takes the rest of a line. -/
def restOfLine (steps : Nat) : Walk (List Char) := upTo [some '\n', some '\r', none] steps []

/-- Takes the value behind its sign. -/
def value (steps : Nat) : Walk String := do
  skip fun c => Text.isBlank c && c != '\n' && c != '\r'
  let quoted ← match (← peek?).filter fun c => c = '"' || c = '\'' with
    | some quote => do
      drop 1
      let part ← upTo [some quote] steps []
      drop 1
      pure part
    | none => pure []
  return String.ofList (trim (quoted ++ (← restOfLine steps)))

/-- The entries after a line in some section, or outside any. -/
def put (inside : Option String) (name : String) (value : Value)
    (done : List (String × Value)) : List (String × Value) :=
  match inside with
  | none => Value.upsert name (fun _ => value) done
  | some heading =>
    let change (old : Option Value) : Value :=
      .table (Value.upsert name (fun _ => value) ((old.map Value.entries).getD []))
    Value.upsert heading change done

/-- Takes the lines of a file; `inside` is the section that they stand in, and `fresh` tells whether
    what is left starts a line. -/
def document (origin : Origin) (steps : Nat) (inside : Option String) (fresh : Bool)
    (done : List (String × Value)) : Walk (List (String × Value)) := do
  match steps with
  | 0 => return done
  | steps + 1 =>
    let blanks ← span Text.isBlank
    let fresh := if blanks.isEmpty then fresh else blanks.getLast? = some '\n'
    match ← peek? with
    | none => return done
    | some '[' =>
      drop 1
      let heading := String.ofList (trim (← upTo [some ']'] steps []))
      drop 1
      document origin steps (some heading) false (Value.upsert heading (fun _ => .table []) done)
    | some c =>
      if c = ';' ∨ c = '#' then
        if !fresh then stop .lateComment
        skip (· != '\n')
        document origin steps inside true done
      else
        let name := String.ofList (trim (← upTo [some '=', some ':'] steps []))
        if name.isEmpty then stop .noName
        drop 1
        let text ← value steps
        document origin steps inside false (put inside name (.scalar origin (.text text)) done)

/-! ## Reports -/

/-- A character that may be missing, as reports show it. -/
def shown : Option Char → String
  | some c => "Some(" ++ Text.singleQuoted c ++ ")"
  | none => "None"

/-- The wording of an obstacle in front of what is left. -/
def report (stop : Stop Obstacle) : String :=
  match stop.obstacle with
  | .openText ends => "expecting \"[" ++ ", ".intercalate (ends.map shown) ++ "]\" but found EOF."
  | .noName => "missing key"
  | .lateComment => "doesn't support inline comment"
  | .noCodePoint => "unknown character in \\xHH form"
  | .noLineEnd => "expecting \"\\\\n\" but found \"" ++ shown stop.left.head? ++ "\"."

/-- The report of a stop: the line and the column of the next character, and the obstacle.  A line end
    counts to the line that it starts. -/
def message (text : String) (stop : Stop Obstacle) : String :=
  let (line, column) := match stop.left with
    | [] => placeAfter (stop.passed text)
    | c :: _ => placeAfter (stop.passed text ++ [c])
  toString (line + 1) ++ ":" ++ toString (column + 1) ++ " " ++ report stop

/-- Reads a file, or says why it cannot be read. -/
def read (origin : Origin) (text : String) : Except String Value :=
  match (document origin (2 * text.length + 2) none true []).whole .noName text with
  | .ok entries => .ok (.table entries)
  | .error stop => .error (message text stop)

end CardServer.Settings.Format.Ini
