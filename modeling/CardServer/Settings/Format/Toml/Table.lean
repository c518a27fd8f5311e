import CardServer.Settings.Format.Toml.Time
import CardServer.Settings.Value

/-! # Tables while a file is read

What a later line may still add to a table depends on how the table came about, so `Node` keeps that
with it.  A dotted key goes into tables made by dotted keys only, a heading goes into any table, and
neither opens a table that has been declared before.
-/

namespace CardServer.Settings.Format.Toml

/-- How a table came about. -/
inductive Standing where
  /-- By braces or a heading of its own. -/
  | declared
  /-- By the heading of a table inside it. -/
  | implied
  /-- By a dotted key. -/
  | dotted
  deriving DecidableEq, Repr

/-- A value or a table of a file, with the stretch that reports of it mark.  A table in braces is told
    from one under a heading, and a list of tables is one whose items have headings. -/
inductive Node where
  | scalar (stretch : Stretch) (value : Scalar)
  | time (stretch : Stretch) (time : Time)
  | array (stretch : Stretch) (items : List Node)
  | table (braced : Bool) (standing : Standing) (stretch : Stretch) (entries : List (String × Node))
  | list (stretch : Stretch) (tables : List Node)

namespace Node

/-- The stretch that reports of a node mark. -/
def stretch : Node → Stretch
  | .scalar stretch _ => stretch
  | .time stretch _ => stretch
  | .array stretch _ => stretch
  | .table _ _ stretch _ => stretch
  | .list stretch _ => stretch

/-- What complaints call the kind of a node. -/
def kind : Node → String
  | .scalar _ (.bool _) => "boolean"
  | .scalar _ (.int _) => "integer"
  | .scalar _ (.real _) => "float"
  | .scalar _ _ => "string"
  | .time .. => "datetime"
  | .array .. => "array"
  | .table true .. => "inline table"
  | .table false .. => "table"
  | .list .. => "array of tables"

end Node

/-- The entries of a table while a file is read. -/
abbrev Entries := List (String × Node)

/-- The entries with another node for a name, or with one more. -/
def Entries.set (entries : Entries) (name : String) (node : Node) : Entries :=
  match entries with
  | [] => [(name, node)]
  | entry :: rest => if entry.1 = name then (name, node) :: rest else entry :: Entries.set rest name node

/-- A change of the entries of a table, which may depend on how the table came about. -/
abbrev Change (α : Type) := Standing → Entries → Except Cause (α × Entries)

/-- Changes the table at the rest of a path below a table, making the tables on the way.  `passed` is
    the path so far, `braced` tells the kind of the tables, and `dotted` whether the path is of a
    dotted key. -/
def descend {α : Type} (braced dotted : Bool) (change : Change α) (passed : List String)
    (path : List KeyPart) : Change α := fun standing entries =>
  match path with
  | [] => change standing entries
  | ⟨name, stretch⟩ :: rest => do
    let inside := descend braced dotted change (passed ++ [name]) rest
    match entries.lookup name with
    | none =>
      let made : Standing := if dotted then .dotted else .implied
      let (result, inner) ← inside made []
      return (result, entries.set name (.table braced made stretch inner))
    | some (.table braces standing stretch inner) =>
      if braces ≠ braced then throw (.noTable (passed ++ [name]) "inline table")
      if dotted ∧ standing = .declared then throw (.taken name none)
      let (result, inner) ← inside standing inner
      return (result, entries.set name (.table braces standing stretch inner))
    | some (.list stretch tables) =>
      match tables.getLast? with
      | some (.table braces standing last inner) =>
        let (result, inner) ← inside standing inner
        let changed : Node := .table braces standing last inner
        return (result, entries.set name (.list stretch (tables.dropLast ++ [changed])))
      | _ => throw (.taken name none)
    | some node => throw (.noTable (passed ++ [name]) node.kind)

/-- Puts a value at the last part of a dotted key into the table that the other parts lead to.  `place`
    is the path of the table for a complaint, if it has one. -/
def put (name : String) (node : Node) (isDotted : Bool) (place : Option (List String)) :
    Change Unit := fun standing entries =>
  if decide (standing = .dotted) ≠ isDotted then .error (.taken name none)
  else if (entries.lookup name).isSome then .error (.taken name place)
  else .ok ((), entries ++ [(name, node)])

/-- Puts a value at a dotted key below a table. -/
def assignAt (braced : Bool) (path : List KeyPart) (node : Node) (place : Option (List String))
    (entries : Entries) : Except Cause Entries := do
  let parents := path.dropLast
  let isDotted := !parents.isEmpty
  let change := put ((path.getLast?.map KeyPart.name).getD "") node isDotted place
  return (← descend braced isDotted change [] parents .declared entries).2

/-- The entries that some dotted keys with values in braces make. -/
def braced (pairs : List (List KeyPart × Node)) : Except Cause Entries :=
  pairs.foldlM (fun entries (path, node) => assignAt true path node none entries) []

/-! ## A file -/

/-- The tables of a file so far.  The table under the last heading is kept apart, since the heading
    decides what it may become; no heading means the table of the whole file. -/
structure Draft where
  root : Entries := []
  heading : List KeyPart := []
  /-- From the last heading to the last value under it. -/
  stretch : Stretch := ⟨[], []⟩
  /-- Whether the heading opens one more item of a list. -/
  isItem : Bool := false
  current : Entries := []

namespace Draft

/-- Puts a line with a dotted key under the last heading. -/
def assign (draft : Draft) (path : List KeyPart) (node : Node) : Except Cause Draft := do
  let place := draft.heading.map KeyPart.name
  return { draft with
    stretch := { draft.stretch with behind := node.stretch.behind }
    current := ← assignAt false path node (some place) draft.current }

/-- The tables with the one under the last heading among them. -/
def settled (draft : Draft) : Except Cause Entries := do
  match draft.heading.getLast? with
  | none => return draft.current
  | some ⟨name, _⟩ =>
    let table : Node := .table false .declared draft.stretch draft.current
    let change : Change Unit := fun _ entries =>
      match draft.isItem, entries.lookup name with
      | true, some (.list stretch tables) =>
        let front := if tables.isEmpty then draft.stretch.front else stretch.front
        return ((), entries.set name (.list ⟨front, draft.stretch.behind⟩ (tables ++ [table])))
      | true, _ => throw (.headed name (draft.heading.dropLast.map KeyPart.name))
      | false, _ => return ((), entries.set name table)
    return (← descend false false change [] draft.heading.dropLast .declared draft.root).2

/-- Opens the table of a heading: with nothing, or with what tables inside it have made of it. -/
def openTable (draft : Draft) (heading : List KeyPart) (isItem : Bool) (stretch : Stretch) :
    Except Cause Draft := do
  let name := (heading.getLast?.map KeyPart.name).getD ""
  let change : Change Entries := fun _ entries =>
    match entries.lookup name, isItem with
    | none, false => return ([], entries)
    | none, true => return ([], entries.set name (.list stretch []))
    | some (.table false .implied _ inner), false =>
      return (inner, entries.filter (·.1 ≠ name))
    | some (.list ..), true => return ([], entries)
    | _, _ => throw (.headed name (heading.dropLast.map KeyPart.name))
  let (current, root) ←
    descend false false change [] heading.dropLast .declared (← draft.settled)
  return { root, heading, isItem, stretch, current }

end Draft

end CardServer.Settings.Format.Toml
