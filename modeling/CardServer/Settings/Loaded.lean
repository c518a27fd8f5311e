import CardServer.Fault
import CardServer.Settings
import CardServer.Settings.Environment
import CardServer.Settings.Key
import CardServer.Text.Decimal

/-! # Settings put together from layers

The listener is found in a table that is put together from two layers, the entries of the settings
file and then the variables whose name starts with `app__` in any case.  A later layer goes over an
earlier one.  Only the entries `host` and `port` of the whole count, and each is converted by itself.

* `hostOf`, `portOf`    what the entries give
* `listenerOf`          where to listen by a table of settings
-/

namespace CardServer.Settings

/-- Why settings cannot be loaded. -/
inductive LoadFault where
  /-- A value of the wrong kind, with the entry it belongs to. -/
  | wrongType (found expected : String) (entry : Option String) (origin : Option Origin)
  | addressSyntax
  /-- A settings file that cannot be understood, for some reason. -/
  | unreadable (reason : String) (file : String)
  /-- An entry that has to be there is not. -/
  | notFound (entry : String)
  /-- An attempt to change settings that are fixed. -/
  | frozen
  /-- A reason of its own. -/
  | other (reason : String)
  deriving DecidableEq, Repr

/-- The wording of a fault. -/
def LoadFault.message : LoadFault → String
  | .wrongType found expected entry origin =>
    let place := match entry with
      | some entry => " for key `" ++ entry ++ "`"
      | none => ""
    let source := match origin with
      | some origin => " in " ++ origin.text
      | none => ""
    "invalid type: " ++ found ++ ", expected " ++ expected ++ place ++ source
  | .addressSyntax => "invalid IP address syntax"
  | .unreadable reason file => reason ++ " in " ++ file
  | .notFound entry => "configuration property " ++ Text.quoted entry ++ " not found"
  | .frozen => "configuration is frozen"
  | .other reason => reason

/-- The failure at start-up that a fault is. -/
def LoadFault.fault (fault : LoadFault) : Fault := .config (.root fault.message)

/-! ## Conversions -/

/-- The greatest number that a conversion gives, of 64 bits. -/
def greatestNumber : Nat := 18446744073709551615

/-- The words for one and for zero. -/
def wordNumber? (text : String) : Option Nat :=
  let lower := text.map Char.toLower
  if lower = "true" ∨ lower = "on" ∨ lower = "yes" then some 1
  else if lower = "false" ∨ lower = "off" ∨ lower = "no" then some 0
  else none

/-- The natural number that a text writes in decimal, if it is not too great. -/
def number? (text : String) : Option Nat :=
  (Text.decimal? text.toList).filter (· ≤ greatestNumber)

/-- The number that a value converts to. -/
def numberOf (entry : String) (value : Value) : Except LoadFault Nat :=
  match value with
  | .scalar _ (.int n) =>
    if n < 0 then
      .error (.wrongType value.describe "an unsigned 64 bit or less integer" entry value.origin?)
    else
      .ok n.toNat
  | .scalar _ (.bool true) => .ok 1
  | .scalar _ (.bool false) => .ok 0
  | .scalar _ (.real n) => .ok (n.toNat greatestNumber)
  | .scalar _ (.text text) =>
    match (wordNumber? text).or (number? text) with
    | some n => .ok n
    | none => .error (.wrongType value.describe "an integer" entry value.origin?)
  | value => .error (.wrongType value.describe "an integer" entry value.origin?)

/-- The port that an entry gives. -/
def portOf (value : Value) : Except LoadFault UInt16 :=
  match numberOf "port" value with
  | .error fault => .error fault
  | .ok n =>
    if n < 65536 then
      .ok (UInt16.ofNat n)
    else
      .error (.wrongType ("64-bit unsigned integer `" ++ toString n ++ "`")
        "an unsigned 16 bit integer" "port" none)

/-- The host that an entry gives. -/
def hostOf (value : Value) : Except LoadFault Net.Address :=
  match value with
  | .scalar _ (.text text) =>
    match Net.Address.ofText? text with
    | some address => .ok address
    | none => .error .addressSyntax
  | .scalar _ .nil | .list .. | .table .. =>
    .error (.wrongType value.describe "a string" "host" value.origin?)
  | .scalar .. => .error .addressSyntax

/-- Converts an entry of a table, or gives a default if there is none. -/
def convert {α : Type} (read : Value → Except LoadFault α) (absent : α) :
    Option Value → Except LoadFault α
  | some value => read value
  | none => .ok absent

/-- Where to listen by a table of settings. -/
def listenerOf (table : Value) : Except LoadFault Net.HostPort := do
  let host ← convert hostOf defaultHost (table.entry? "host")
  let port ← convert portOf defaultPort (table.entry? "port")
  return ⟨host, port⟩

/-! ## Layers -/

/-- Puts entries with keys of their own into a table, one after the other. -/
def putAll (entries : List (String × Value)) (table : Value) : Value :=
  entries.foldl (fun table entry => (Key.ofText entry.1).put entry.2 table) table

/-- What the names of the variables start with that settings are taken from. -/
def variableStart : List Char := "app__".toList

/-- A name with points in place of pairs of underscores. -/
def pointed : List Char → List Char
  | '_' :: '_' :: rest => '.' :: pointed rest
  | c :: rest => c :: pointed rest
  | [] => []

/-- The key of the setting that a variable sets, if it sets one. -/
def keyOfVariable? (name : String) : Option String :=
  let chars := name.toList
  if variableStart.isPrefixOf (chars.map Char.toLower) then
    some (String.ofList ((pointed (chars.drop variableStart.length)).map Char.toLower))
  else
    none

/-- The settings that variables set. -/
def entriesOfVariables (environment : Environment) : List (String × Value) :=
  environment.entries.filterMap fun (name, value) =>
    (keyOfVariable? name).map fun key => (key, .scalar (some .environment) (.text value))

/-- The whole table: the entries of the settings file, and the variables over them. -/
def layered (file : List (String × Value)) (environment : Environment) : Value :=
  putAll (entriesOfVariables environment) (putAll file (.table []))

/-- The settings by the entries of the settings file and the variables. -/
def ofLayers (file : List (String × Value)) (environment : Environment) :
    Except LoadFault Settings := do
  let listener ← listenerOf (layered file environment)
  return {
    listener
    serviceName := (environment.nonEmpty? "SERVICE_NAME").getD defaultServiceName
    logLevel := (environment.nonEmpty? "LOG_LEVEL").getD defaultLogLevel
    collector := environment.nonEmpty? "OTLP_ENDPOINT" }

end CardServer.Settings
