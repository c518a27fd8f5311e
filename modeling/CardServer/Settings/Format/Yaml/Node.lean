import CardServer.Settings.Format.Numeral
import CardServer.Settings.Value
import CardServer.Text.Quoted

/-! # Nodes of a file of blocks

What a scalar stands for is settled by its text, or by its tag if it has one of the known tags.  A node
that fits its tag not is kept as such, since it is no key but may be a value.

* `Node.ofPlain`   what a plain scalar stands for
* `Node.value`     the value of a setting that a node is
-/

namespace CardServer.Settings.Format.Yaml

/-- A node of a file. -/
inductive Node where
  | null
  /-- What does not fit its tag, or refers to itself. -/
  | unfit
  | bool (value : Bool)
  | int (value : Int)
  /-- A number with a fraction or an exponent, as it is written. -/
  | real (written : String)
  | text (content : String)
  | sequence (items : List Node)
  | mapping (entries : List (Node × Node))

namespace Node

/-! ## Scalars -/

/-- The number of a text with a fraction or an exponent, if it is one; infinities and the word for no
    number have a point in front as well. -/
def real? (text : String) : Option Node :=
  let words := [".inf", ".Inf", ".INF", "+.inf", "+.Inf", "+.INF", "-.inf", "-.Inf", "-.INF", ".nan",
    "NaN", ".NAN"]
  if words.contains text || (Format.real? text.toList).isSome then some (.real text) else none

/-- The integer of a text to the base that its first characters say. -/
def prefixed? : List Char → Option Int
  | '0' :: 'x' :: digits => integer? 16 digits
  | '0' :: 'o' :: digits => integer? 8 digits
  | '+' :: digits => integer? 10 digits
  | _ => none

/-- The node of a word that stands for a value of its own. -/
def word? : String → Option Node
  | "~" => some .null
  | "null" => some .null
  | "true" => some (.bool true)
  | "false" => some (.bool false)
  | _ => none

/-- What a plain scalar stands for. -/
def ofPlain (text : String) : Node :=
  ((prefixed? text.toList).map Node.int
    |>.or (word? text)
    |>.or ((integer? 10 text.toList).map Node.int)
    |>.or (real? text)).getD (.text text)

/-- What the known tags start with. -/
def knownTags : String := "tag:yaml.org,2002:"

/-- What a plain scalar with a tag stands for. -/
def ofTagged (handle suffix text : String) : Node :=
  if handle ≠ knownTags then
    .text text
  else if suffix = "bool" then
    if text = "true" then .bool true else if text = "false" then .bool false else .unfit
  else if suffix = "int" then
    ((integer? 10 text.toList).map Node.int).getD .unfit
  else if suffix = "float" then
    (real? text).getD .unfit
  else if suffix = "null" then
    if text = "~" ∨ text = "null" then .null else .unfit
  else
    .text text

/-! ## Keys -/

mutual

/-- A node as reports show it; keys are the same if they are shown alike. -/
def shown : Node → String
  | .null => "Null"
  | .unfit => "BadValue"
  | .bool value => "Boolean(" ++ toString value ++ ")"
  | .int value => "Integer(" ++ toString value ++ ")"
  | .real written => "Real(" ++ Text.quoted written ++ ")"
  | .text content => "String(" ++ Text.quoted content ++ ")"
  | .sequence items => "Array([" ++ ", ".intercalate (shownItems items) ++ "])"
  | .mapping entries => "Hash(\x7b" ++ ", ".intercalate (shownEntries entries) ++ "\x7d)"

/-- The items of a sequence as reports show them. -/
def shownItems : List Node → List String
  | [] => []
  | item :: rest => item.shown :: shownItems rest

/-- The entries of a mapping as reports show them. -/
def shownEntries : List (Node × Node) → List String
  | [] => []
  | (key, value) :: rest => (key.shown ++ ": " ++ value.shown) :: shownEntries rest

end

/-- The name under which a key stands in a table, if it may. -/
def name? : Node → Option String
  | .text name => some name
  | .int n => some (toString n)
  | _ => none

/-! ## Settings -/

mutual

/-- The value of a setting that a node is, or why it is none. -/
def value (origin : Origin) : Node → Except String Value
  | .null => .ok (.scalar origin .nil)
  | .unfit => .ok (.scalar origin .nil)
  | .bool value => .ok (.scalar origin (.bool value))
  | .int value => .ok (.scalar origin (.int value))
  | .real written =>
    match Format.real? written.toList with
    | some x => .ok (.scalar origin (.real x))
    | none => .error ("Parsing " ++ written ++ " as floating point number failed")
  | .text content => .ok (.scalar origin (.text content))
  | .sequence items => (itemValues origin items).map (.list origin)
  | .mapping entries => (entryValues origin [] entries).map .table

/-- The values of the items of a sequence. -/
def itemValues (origin : Origin) : List Node → Except String (List Value)
  | [] => .ok []
  | item :: rest => do
    let first ← item.value origin
    let others ← itemValues origin rest
    return first :: others

/-- The values of the entries of a mapping, put to those before them. -/
def entryValues (origin : Origin) (done : List (String × Value)) :
    List (Node × Node) → Except String (List (String × Value))
  | [] => .ok done
  | (key, node) :: rest => do
    match key.name? with
    | none => entryValues origin done rest
    | some name =>
      let value ← node.value origin
      entryValues origin (Value.upsert name (fun _ => value) done) rest

end

end Node

end CardServer.Settings.Format.Yaml
