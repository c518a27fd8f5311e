import CardServer.Settings.Format.Toml.Table
import CardServer.Settings.Format.Toml.TimeText

/-! # The settings of a file of tables

When all of a file is read, its nodes are made settings.  Times become texts.  A table whose first key is
the key of times is a time as well, given as a text, and what else the table holds does not count.

* `Node.value`   the setting that a node is
-/

namespace CardServer.Settings.Format.Toml.Node

/-- The key of a table that is a time. -/
def timeKey : String := "$__toml_private_datetime"

/-- What reports call a node that should be the text of a time. -/
def found : Node → String
  | .scalar _ .nil => "unit value"
  | .scalar _ (.bool value) => "boolean `" ++ toString value ++ "`"
  | .scalar _ (.int value) => "integer `" ++ toString value ++ "`"
  | .scalar _ (.real value) => "floating point `" ++ pointed value ++ "`"
  | .scalar _ (.text value) => "string " ++ Text.quoted value
  | .time .. | .table .. => "map"
  | .array .. | .list .. => "sequence"
where
  /-- The text of a number, with a point if it is finite. -/
  pointed (x : Real64) : String :=
    match x with
    | .finite .. => if x.text.contains '.' then x.text else x.text ++ ".0"
    | _ => x.text

/-- Refuses a node. -/
def refuse {α : Type} (node : Node) (cause : Cause) : Except (Stop Complaint) α :=
  .error ⟨{ cause := some cause, behind := some node.stretch.behind }, node.stretch.front⟩

/-- The setting of a time. -/
def timeValue (origin : Origin) (t : Time) : Value := .scalar origin (.text t.text)

/-- The setting of a table that has the key of times with some node. -/
def givenTime (origin : Origin) (node : Node) : Except (Stop Complaint) Value :=
  match node with
  | .scalar _ (.text text) =>
    match Time.ofText text with
    | .ok t => .ok (timeValue origin t)
    | .error (part, wanted) => node.refuse (.badTime part wanted)
  | _ => node.refuse (.noTime node.found)

mutual

/-- The setting that a node is. -/
def value (origin : Origin) : Node → Except (Stop Complaint) Value
  | .scalar _ value => .ok (.scalar origin value)
  | .time _ t => .ok (timeValue origin t)
  | .array _ items => (itemValues origin items).map (.list origin)
  | .table _ _ _ entries => tableValue origin entries
  | .list _ tables => (itemValues origin tables).map (.list origin)

/-- The settings of the items of a list. -/
def itemValues (origin : Origin) : List Node → Except (Stop Complaint) (List Value)
  | [] => .ok []
  | node :: rest => do
    let first ← node.value origin
    let others ← itemValues origin rest
    return first :: others

/-- The setting of a table. -/
def tableValue (origin : Origin) (entries : List (String × Node)) : Except (Stop Complaint) Value :=
  match entries with
  | (name, node) :: rest =>
    if name = timeKey then givenTime origin node
    else (entryValues origin ((name, node) :: rest)).map .table
  | [] => .ok (.table [])

/-- The settings of the entries of a table. -/
def entryValues (origin : Origin) :
    List (String × Node) → Except (Stop Complaint) (List (String × Value))
  | [] => .ok []
  | (name, node) :: rest => do
    let value ← node.value origin
    let others ← entryValues origin rest
    return (name, value) :: others

end

end CardServer.Settings.Format.Toml.Node
