import CardServer.Settings.Format.Ron.Cursor
import CardServer.Settings.Value

/-! # Data of a file of records

A datum keeps what a file distinguishes: characters and texts, lists and records, something and nothing.
The entries of a map are put into the order of their keys before they become settings, and only texts and
characters may be keys.

* `Datum.value`   the value of a setting that a datum is, or why it is none
-/

namespace CardServer.Settings.Format.Ron

/-- A datum of a file. -/
inductive Datum where
  | bool (value : Bool)
  | char (value : Char)
  | map (entries : List (Datum × Datum))
  | number (value : Number)
  | option (content : Option Datum)
  | text (value : String)
  | list (items : List Datum)
  | unit

namespace Datum

/-! ## The order of keys -/

/-- The place of the kind of a datum in the order of keys. -/
def rank : Datum → Nat
  | .bool _ => 0
  | .char _ => 1
  | .map _ => 2
  | .number (.int _) => 3
  | .number (.real _) => 4
  | .option _ => 5
  | .text _ => 6
  | .list _ => 7
  | .unit => 8

/-- Whether a datum comes before another in the order of keys.  The order among maps, among options and
    among lists does not count, since they are no keys. -/
def isAtMost (x y : Datum) : Bool :=
  x.rank < y.rank ||
    match x, y with
    | .bool a, .bool b => a ≤ b
    | .char a, .char b => a ≤ b
    | .number (.int a), .number (.int b) => a ≤ b
    | .number (.real a), .number (.real b) => a.isAtMost b
    | .text a, .text b => a ≤ b
    | x, y => x.rank = y.rank

/-- Whether two data are the same key. -/
def isSameKey : Datum → Datum → Bool
  | .char a, .char b => a = b
  | .text a, .text b => a = b
  | _, _ => false

/-- Puts an entry to others; of two with the same key the later one counts. -/
def putEntry (key value : Datum) (entries : List (Datum × Datum)) : List (Datum × Datum) :=
  entries.filter (!·.1.isSameKey key) ++ [(key, value)]

/-- The name under which a key stands in a table, or what it is instead of a text. -/
def name : Datum → Except String String
  | .char c => .ok (String.singleton c)
  | .text content => .ok content
  | .bool b => .error ("the boolean `" ++ toString b ++ "`")
  | .number (.int n) => .error ("the signed integer `" ++ toString n ++ "`")
  | .number (.real x) => .error ("the floating point number `" ++ x.text ++ "`")
  | .unit => .error "a unit value"
  | .option _ => .error "an optional value"
  | .list _ => .error "a sequence"
  | .map _ => .error "a map"

/-! ## Settings -/

/-- Puts a value under the name of a key, if that is one. -/
def putValue (done : List (String × Value)) (entry : Datum × Except String Value) :
    Except String (List (String × Value)) := do
  let name ← entry.1.name.mapError fun found =>
    "Expected a string but found " ++ found ++ " instead"
  let value ← entry.2
  return Value.upsert name (fun _ => value) done

mutual

/-- The value of a setting that a datum is, or why it is none. -/
def value (origin : Origin) : Datum → Except String Value
  | .bool b => .ok (.scalar origin (.bool b))
  | .char c => .ok (.scalar origin (.text (String.singleton c)))
  | .map entries =>
    let sorted := (entryValues origin entries).mergeSort fun x y => x.1.isAtMost y.1
    (sorted.foldlM putValue []).map .table
  | .number (.int n) => .ok (.scalar origin (.int n))
  | .number (.real x) => .ok (.scalar origin (.real x))
  | .option none => .ok (.scalar origin .nil)
  | .option (some datum) => datum.value origin
  | .text content => .ok (.scalar origin (.text content))
  | .list items => (itemValues origin items).map (.list origin)
  | .unit => .ok (.scalar origin .nil)

/-- The values of the items of a list. -/
def itemValues (origin : Origin) : List Datum → Except String (List Value)
  | [] => .ok []
  | item :: rest => do
    let first ← item.value origin
    let others ← itemValues origin rest
    return first :: others

/-- The keys of the entries of a map, each with the value of its entry. -/
def entryValues (origin : Origin) : List (Datum × Datum) → List (Datum × Except String Value)
  | [] => []
  | (key, datum) :: rest => (key, datum.value origin) :: entryValues origin rest

end

end Datum

end CardServer.Settings.Format.Ron
