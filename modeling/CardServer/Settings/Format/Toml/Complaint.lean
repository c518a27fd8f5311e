import CardServer.Settings.Format.Scan
import CardServer.Settings.Format.Toml.Key

/-! # What is wrong with a file of tables

A `Complaint` says what was being read where a walk stopped, what could have stood there, and why else
the file is refused.  It is final if no other reading of the same place counts any more.  The combinators
on walks collect these parts while a walk gives up: the innermost name of what was being read is kept, and
the choices are kept in the order in which they are added.

* `message`   the report of a stop
-/

namespace CardServer.Settings.Format.Toml

/-- Why a part of a file is refused that can be read as such. -/
inductive Cause where
  /-- A number of a date or a time, or a code point, that there is not. -/
  | outOfRange
  /-- An integer below 64 bits, or beyond them. -/
  | overflow (below : Bool)
  /-- Values inside values, or parts of a key, without end. -/
  | tooDeep
  /-- A key that the table at some path has already; no path means the table that is being put
      together. -/
  | taken (key : String) (table : Option (List String))
  /-- A heading whose last part the table at some path has already. -/
  | headed (key : String) (table : List String)
  /-- A key into something that is no table; `kind` is what it is. -/
  | noTable (path : List String) (kind : String)
  /-- Something in the place of the text of a time; `found` says what it is. -/
  | noTime (found : String)
  /-- A text that is the text of no time: which part of it is wrong, and what it should have been. -/
  | badTime (part : Option String) (wanted : Option String)
  deriving DecidableEq, Repr

/-- A stretch of a file, by what is left of the file in front of it and behind it. -/
structure Stretch where
  front : List Char
  behind : List Char
  deriving DecidableEq, Repr

/-- How many bytes a stretch has. -/
def Stretch.bytes (stretch : Stretch) : Nat :=
  (String.ofList (stretch.front.take (stretch.front.length - stretch.behind.length))).utf8ByteSize

/-- What is wrong in some place. -/
structure Complaint where
  /-- What was being read. -/
  construct : Option String := none
  /-- What could have stood there. -/
  choices : List String := []
  cause : Option Cause := none
  /-- Whether no other reading of the place counts. -/
  final : Bool := false
  /-- What is left behind the value that is refused, if it is a value and not a place. -/
  behind : Option (List Char) := none
  deriving DecidableEq, Repr

/-- A walk through a file of tables. -/
abbrev Walk (α : Type) := Scan Complaint α

namespace Walk

variable {α : Type}

/-- Gives up at what is next. -/
def fail : Walk α := Scan.stop {}

/-- Gives up in front of some rest of the text for a cause. -/
def refuse (left : List Char) (cause : Cause) : Walk α := Scan.stopAt left { cause := some cause }

/-- Adds to the complaint of a walk that gives up. -/
def complaining (change : Complaint → Complaint) (walk : Walk α) : Walk α := fun text =>
  match walk.run text with
  | .ok result => .ok result
  | .error stop => .error { stop with obstacle := change stop.obstacle }

/-- Names what a walk reads, if nothing inside it has been named. -/
def within (construct : String) : Walk α → Walk α :=
  complaining fun complaint => { complaint with construct := complaint.construct.or (some construct) }

/-- Says what else could stand where a walk gives up. -/
def expecting (choices : List String) : Walk α → Walk α :=
  complaining fun complaint => { complaint with choices := complaint.choices ++ choices }

/-- A walk that nothing else stands in for if it gives up. -/
def final : Walk α → Walk α := complaining ({ · with final := true })

/-- Goes back and gives nothing if a walk gives up, unless it does so finally. -/
def attempt? (walk : Walk α) : Walk (Option α) := fun text =>
  match walk.run text with
  | .ok (value, rest) => .ok (some value, rest)
  | .error stop => if stop.obstacle.final then .error stop else .ok (none, text)

/-- Goes back and walks another way if a walk gives up, unless it does so finally. -/
def orElse (first second : Walk α) : Walk α := fun text =>
  match walk? first text with
  | some result => result
  | none => second.run text
where
  /-- The result of a walk, if no other way is open. -/
  walk? (walk : Walk α) (text : List Char) : Option (Except (Stop Complaint) (α × List Char)) :=
    match walk.run text with
    | .ok result => some (.ok result)
    | .error stop => if stop.obstacle.final then some (.error stop) else none

/-- Takes the next character if it belongs to a class. -/
def one (p : Char → Bool) : Walk Char := do
  match ← get with
  | c :: rest => if p c then set rest *> return c else fail
  | [] => fail

/-- Gives also the stretch that a walk takes. -/
def measured (walk : Walk α) : Walk (α × Stretch) := do
  let front ← get
  let value ← walk
  return (value, ⟨front, ← get⟩)

/-- Takes certain characters, or none of them. -/
def text (wanted : String) : Walk Unit := do
  if !(← Scan.accept wanted) then fail

end Walk

/-! ## Reports -/

/-- The wording of a key that the table at some path has already. -/
def takenText (shown : String) : Option (List String) → String
  | none => "duplicate key `" ++ shown ++ "`"
  | some [] => "duplicate key `" ++ shown ++ "` in document root"
  | some path => "duplicate key `" ++ shown ++ "` in table `" ++ ".".intercalate path ++ "`"

/-- The wording of a cause. -/
def Cause.text : Cause → String
  | .outOfRange => "value is out of range"
  | .overflow below =>
    if below then "number too small to fit in target type" else "number too large to fit in target type"
  | .tooDeep => "recursion limit exceeded"
  | .taken key path => takenText key path
  | .headed key path => takenText (written key) (some path)
  | .noTable path kind =>
    "dotted key `" ++ ".".intercalate path ++ "` attempted to extend non-table type (" ++ kind ++ ")"
  | .noTime found => "invalid type: " ++ found ++ ", expected string containing a datetime"
  | .badTime part wanted =>
    "invalid " ++ part.getD "datetime" ++ ((wanted.map (", expected " ++ ·)).getD "")

/-- The wording of a complaint, a line for each part. -/
def Complaint.text (complaint : Complaint) : String :=
  let construct := complaint.construct.toList.map ("invalid " ++ ·)
  let choices :=
    if complaint.choices.isEmpty then [] else ["expected " ++ ", ".intercalate complaint.choices]
  "\n".intercalate (construct ++ choices ++ complaint.cause.toList.map Cause.text)

/-- The lines before the place of a stop and the characters before it on its line.  The end of a file
    counts to the line that ends there, and in front of a character of several bytes bytes are
    counted. -/
def place (stop : Stop Complaint) (text : String) : Nat × Nat :=
  let passed := stop.passed text
  match stop.left.head? with
  | none =>
    if passed.isEmpty then (0, 0)
    else
      let (line, column) := placeAfter passed.dropLast
      (line, column + 1)
  | some c =>
    let (line, column) := placeAfter passed
    if c.utf8Size = 1 then (line, column)
    else (line, (String.ofList (passed.drop (passed.length - column))).utf8ByteSize)

/-- The report of a stop: where it is, the line with a mark under the place or under the value that is
    refused, and the complaint. -/
def message (text : String) (stop : Stop Complaint) : String :=
  let (line, column) := place stop text
  let number := toString (line + 1)
  let content := (text.splitOn "\n").getD line ""
  let margin := String.ofList (List.replicate (number.length + 1) ' ') ++ "|"
  let width := match stop.obstacle.behind with
    | some behind => max 1 (min (Stretch.bytes ⟨stop.left, behind⟩) content.utf8ByteSize)
    | none => (stop.left.head?.map Char.utf8Size).getD 1
  "TOML parse error at line " ++ number ++ ", column " ++ toString (column + 1) ++ "\n" ++
    margin ++ "\n" ++ number ++ " | " ++ content ++ "\n" ++
    margin ++ String.ofList (List.replicate (column + 1) ' ') ++
    String.ofList (List.replicate width '^') ++ "\n" ++
    stop.obstacle.text ++ "\n"

end CardServer.Settings.Format.Toml
