import CardServer.Settings.Format.Numeral
import CardServer.Settings.Value

/-! # Keys of settings

A key says where in a table of settings a value belongs: a name, followed by names of nested tables
behind points and positions in lists in brackets.  A text that does not read like this is a name as
a whole.
-/

namespace CardServer.Settings

/-- Where in a table of settings a value belongs. -/
inductive Key where
  | name (name : String)
  | child (parent : Key) (name : String)
  | item (parent : Key) (position : Int)
  deriving DecidableEq, Repr

namespace Key

/-- Whether a character may stand in a name inside a key. -/
def isNameChar (c : Char) : Bool := c.isAlphanum || c = ' ' || c = '_' || c = '-'

/-- Whether a character may stand around the number of a position. -/
def isSpace (c : Char) : Bool := c = ' ' || c = '\t' || c = '\n' || c = '\r'

/-- The position that stands between brackets: an integer of 64 bits without a plus sign. -/
def readPosition (text : List Char) : Option Int :=
  let trimmed := ((text.dropWhile isSpace).reverse.dropWhile isSpace).reverse
  if trimmed.head? = some '+' then none else Format.integer? 10 trimmed

/-- Reads the rest of a key behind its first part; every step takes a character at least. -/
def readRest (steps : Nat) (key : Key) (text : List Char) : Option Key :=
  match steps, text with
  | _, [] => some key
  | 0, _ => none
  | steps + 1, '.' :: rest =>
    match rest.takeWhile isNameChar with
    | [] => none
    | next => readRest steps (.child key (String.ofList next)) (rest.dropWhile isNameChar)
  | steps + 1, '[' :: rest =>
    match readPosition (rest.takeWhile (· != ']')), rest.dropWhile (· != ']') with
    | some position, ']' :: rest => readRest steps (.item key position) rest
    | _, _ => none
  | _, _ => none

/-- The key that a text writes. -/
def ofText (text : String) : Key :=
  let chars := text.toList
  let first := chars.takeWhile isNameChar
  if first.isEmpty then
    .name text
  else
    (readRest chars.length (.name (String.ofList first)) (chars.dropWhile isNameChar)).getD
      (.name text)

/-- Changes the item of a list at a position; negative positions count from the end.  The list is
    filled up to the position. -/
def changeItem (position : Int) (change : Option Value → Value) (items : List Value) : List Value :=
  let index := (if position < 0 then items.length + position else position).toNat
  items.take index ++
    List.replicate (index - items.length) (.scalar none .nil) ++
    change items[index]? :: items.drop (index + 1)

/-- Changes the value at a key inside a table, making what is on the way a table or a list. -/
def change (key : Key) (f : Option Value → Value) (root : Value) : Value :=
  match key with
  | .name entry => .table (Value.upsert (entry.map Char.toLower) f root.entries)
  | .child parent entry =>
    parent.change
      (fun value =>
        .table (Value.upsert (entry.map Char.toLower) f ((value.map Value.entries).getD [])))
      root
  | .item parent position =>
    parent.change
      (fun value =>
        match value with
        | some (.list origin items) => .list origin (changeItem position f items)
        | _ => .list none (changeItem position f []))
      root

/-- Puts a value at a key inside a table. -/
def put (key : Key) (value : Value) (root : Value) : Value := key.change value.cover root

end Key

end CardServer.Settings
