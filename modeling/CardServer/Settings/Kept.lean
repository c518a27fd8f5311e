import CardServer.Json.Basic
import CardServer.Number.Shortest
import CardServer.Text.Quoted

/-! # Values that are put by

A reader that meets a member before it knows what the member is for puts its value by, and reads it
later.  A value that is put by tells integers apart by their sign, and a complaint calls it what it
would call the value itself.
-/

namespace CardServer

/-- What a complaint calls a value. -/
def Json.describe : Json → String
  | .null => "null"
  | .bool value => "boolean `" ++ toString value ++ "`"
  | .num (.int value) => "integer `" ++ toString value ++ "`"
  | .num (.real value) => "floating point `" ++ value.exponentText ++ "`"
  | .str value => "string " ++ Text.quoted value
  | .arr _ => "sequence"
  | .obj _ => "map"

namespace Settings

/-- A value that is put by until it is known what it is wanted for. -/
inductive Kept where
  | null
  | bool (value : Bool)
  | natural (value : Nat)
  | negative (value : Int)
  | real (value : Binary64)
  | text (value : String)
  | list (items : List Kept)
  | table (members : List (String × Kept))

namespace Kept

mutual

/-- Puts a value by. -/
def ofJson : Json → Kept
  | .null => .null
  | .bool value => .bool value
  | .num (.int (.ofNat value)) => .natural value
  | .num (.int (.negSucc value)) => .negative (.negSucc value)
  | .num (.real value) => .real value
  | .str value => .text value
  | .arr items => .list (ofItems items)
  | .obj members => .table (ofMembers members)

/-- Puts the items of an array by. -/
def ofItems : List Json → List Kept
  | [] => []
  | item :: rest => ofJson item :: ofItems rest

/-- Puts the members of an object by. -/
def ofMembers : List (String × Json) → List (String × Kept)
  | [] => []
  | (name, value) :: rest => (name, ofJson value) :: ofMembers rest

end

/-- What a complaint calls a value that was put by. -/
def describe : Kept → String
  | .null => "null"
  | .bool value => "boolean `" ++ toString value ++ "`"
  | .natural value => "integer `" ++ toString value ++ "`"
  | .negative value => "integer `" ++ toString value ++ "`"
  | .real value => "floating point `" ++ value.exponentText ++ "`"
  | .text value => "string " ++ Text.quoted value
  | .list _ => "sequence"
  | .table _ => "map"

/-- What was put by under a name: the value of the last member with that name. -/
def last? (name : String) (members : List (String × Kept)) : Option Kept :=
  members.foldl (fun found member => if member.1 = name then some member.2 else found) none

end Kept

end Settings

end CardServer
