import CardServer.Json.Reader
import CardServer.Settings.Value

/-! # Settings in Json

A Json file gives its value as it stands; of several members with one name the last counts.  Integers
beyond 63 bits are rounded.
-/

namespace CardServer.Settings.Format.Json

open CardServer (Json Binary64)

/-- The least integer that is too great to be kept exactly: two to the 63rd. -/
def tooGreat : Int := 9223372036854775808

/-- The scalar of a number. -/
def number : Json.Number → Scalar
  | .int n =>
    if n < tooGreat then .int n
    else .real (.ofDecimal false n.toNat 0)
  | .real n => .real (.finite n)

mutual

/-- The value of a setting that a Json value is. -/
def value (origin : Origin) : Json → Value
  | .null => .scalar origin .nil
  | .bool b => .scalar origin (.bool b)
  | .num n => .scalar origin (number n)
  | .str text => .scalar origin (.text text)
  | .arr list => .list origin (items origin list)
  | .obj list => .table (members origin [] list)

/-- The values of the items of an array. -/
def items (origin : Origin) : List Json → List Value
  | [] => []
  | item :: rest => value origin item :: items origin rest

/-- The entries of the members of an object, put to those before them. -/
def members (origin : Origin) (done : List (String × Value)) :
    List (String × Json) → List (String × Value)
  | [] => done
  | (name, member) :: rest =>
    members origin (Value.upsert name (fun _ => value origin member) done) rest

end

/-- Reads a file, or says why it cannot be read. -/
def read (origin : Origin) (text : String) : Except String Value :=
  match CardServer.Json.read text with
  | .ok json => .ok (value origin json)
  | .error fault => .error (fault.message text)

end CardServer.Settings.Format.Json
