import CardServer.Json.Reader
import CardServer.Settings
import CardServer.Settings.Kept

/-! # Settings from a Json value

Settings can be given directly as a Json value.  Members are looked at in alphabetical order, and of
several with one name the last counts.  Where to listen may also be given as an array of host and
port; the whole settings may not.  A reader of the whole settings takes the members that are its own
and puts all others by, so it finds host and port among values that were put by.

* `listenerOfJson`, `ofJson`   the two readers
-/

namespace CardServer

namespace Settings

/-- Why a Json value gives no settings. -/
inductive Complaint where
  | wrongType (found expected : String)
  | outOfRange (found expected : String)
  | addressSyntax
  | missing (name : String)
  | tooManyItems (count : Nat)

/-- The wording of a complaint. -/
def Complaint.message : Complaint → String
  | .wrongType found expected => "invalid type: " ++ found ++ ", expected " ++ expected
  | .outOfRange found expected => "invalid value: " ++ found ++ ", expected " ++ expected
  | .addressSyntax => "invalid IP address syntax"
  | .missing name => "missing field `" ++ name ++ "`"
  | .tooManyItems count =>
    "invalid length " ++ toString count ++ ", expected fewer elements in array"

/-- The host that a value gives. -/
def hostOfJson (value : Json) : Except Complaint Net.Address :=
  match value with
  | .str text =>
    match Net.Address.ofText? text with
    | some address => .ok address
    | none => .error .addressSyntax
  | value => .error (.wrongType value.describe "IP address")

/-- The port that a value gives. -/
def portOfJson (value : Json) : Except Complaint UInt16 :=
  match value with
  | .num (.int n) =>
    if 0 ≤ n ∧ n < 65536 then
      .ok (UInt16.ofNat n.toNat)
    else
      .error (.outOfRange value.describe "u16")
  | value => .error (.wrongType value.describe "u16")

/-- The text that a value gives. -/
def textOfJson (value : Json) : Except Complaint String :=
  match value with
  | .str text => .ok text
  | value => .error (.wrongType value.describe "a string")

/-- The text that a member gives if it is there. -/
def presentText (value : Json) : Except Complaint (Option String) := (textOfJson value).map some

/-- The text that a member gives; null gives none. -/
def optionalText (value : Json) : Except Complaint (Option String) :=
  match value with
  | .null => .ok none
  | value => presentText value

/-- Reads a member with a reader of its own, or gives a default if there is no such member. -/
def member {α : Type} (read : Json → Except Complaint α) (absent : α) (name : String)
    (members : List (String × Json)) : Except Complaint α :=
  match Json.lastMember? name members with
  | some value => read value
  | none => .ok absent

/-- Where to listen by the members of an object. -/
def listenerOfMembers (members : List (String × Json)) : Except Complaint Net.HostPort := do
  let host ← member hostOfJson defaultHost "host" members
  let port ← member portOfJson defaultPort "port" members
  return ⟨host, port⟩

/-- Where to listen by the items of an array. -/
def listenerOfItems (items : List Json) : Except Complaint Net.HostPort := do
  let host ← (items[0]?.map hostOfJson).getD (.ok defaultHost)
  let port ← (items[1]?.map portOfJson).getD (.ok defaultPort)
  if 2 < items.length then
    throw (.tooManyItems items.length)
  return ⟨host, port⟩

/-- Where to listen by a Json value. -/
def listenerOfJson (value : Json) : Except Complaint Net.HostPort :=
  match value with
  | .obj members => listenerOfMembers members
  | .arr items => listenerOfItems items
  | value => .error (.wrongType value.describe "struct Config")

/-! ## Values that were put by -/

/-- The host that a value that was put by gives. -/
def hostOfKept (value : Kept) : Except Complaint Net.Address :=
  match value with
  | .text text =>
    match Net.Address.ofText? text with
    | some address => .ok address
    | none => .error .addressSyntax
  | value => .error (.wrongType value.describe "IP address")

/-- The port that a value that was put by gives. -/
def portOfKept (value : Kept) : Except Complaint UInt16 :=
  match value with
  | .natural n =>
    if n < 65536 then
      .ok (UInt16.ofNat n)
    else
      .error (.outOfRange value.describe "u16")
  | .negative _ => .error (.outOfRange value.describe "u16")
  | value => .error (.wrongType value.describe "u16")

/-- Reads what was put by under a name, or gives a default if nothing was. -/
def keptMember {α : Type} (read : Kept → Except Complaint α) (absent : α) (name : String)
    (members : List (String × Kept)) : Except Complaint α :=
  match Kept.last? name members with
  | some value => read value
  | none => .ok absent

/-- Where to listen by the members that were put by. -/
def listenerOfKept (members : List (String × Kept)) : Except Complaint Net.HostPort := do
  let host ← keptMember hostOfKept defaultHost "host" members
  let port ← keptMember portOfKept defaultPort "port" members
  return ⟨host, port⟩

/-! ## The whole settings -/

/-- The names of the members that are the settings' own. -/
def ownNames : List String := ["log_level", "otlp_endpoint", "service_name"]

/-- The members that are not the settings' own, put by. -/
def putBy (members : List (String × Json)) : List (String × Kept) :=
  members.filterMap fun (name, value) =>
    if name ∈ ownNames then none else some (name, Kept.ofJson value)

/-- Reads a member that has to be there. -/
def requiredMember (name : String) (found : Option String) : Except Complaint String :=
  match found with
  | some text => .ok text
  | none => .error (.missing name)

/-- The settings by the members of an object.  The members of the settings' own come first, in
    alphabetical order; then what is missing is noticed; where to listen comes last, from what was put
    by. -/
def ofMembers (members : List (String × Json)) : Except Complaint Settings := do
  let logLevel ← member presentText none "log_level" members
  let collector ← member optionalText none "otlp_endpoint" members
  let serviceName ← member presentText none "service_name" members
  let serviceName ← requiredMember "service_name" serviceName
  let logLevel ← requiredMember "log_level" logLevel
  let listener ← listenerOfKept (putBy members)
  return ⟨listener, serviceName, logLevel, collector⟩

/-- The settings by a Json value. -/
def ofJson (value : Json) : Except Complaint Settings :=
  match value with
  | .obj members => ofMembers members
  | value => .error (.wrongType value.describe "struct MockConfig")

end Settings

end CardServer
