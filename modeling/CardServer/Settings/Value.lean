import CardServer.Number.Real
import CardServer.Text.Quoted

/-! # Values of settings

A layer of settings is a table of values.  Scalars and lists remember where they were found, so that
a fault can say so; tables do not, since they are put together from several layers.

Laying one value over another replaces it, except that the entries of a table are laid one by one over
what is there.  Names of entries are compared in lower case.

* `entryOf?_upsert`   changing one entry leaves all others as they are
-/

namespace CardServer.Settings

/-- A value without parts. -/
inductive Scalar where
  | nil
  | bool (value : Bool)
  | int (value : Int)
  | real (value : Real64)
  | text (value : String)
  deriving DecidableEq, Repr

/-- Where a value was found: in a file or in the environment. -/
inductive Origin where
  | file (name : String)
  | environment
  deriving DecidableEq, Repr

/-- How a fault names the place of a value. -/
def Origin.text : Origin → String
  | .file name => name
  | .environment => "the environment"

/-- A value of a setting. -/
inductive Value where
  | scalar (origin : Option Origin) (value : Scalar)
  | list (origin : Option Origin) (items : List Value)
  | table (entries : List (String × Value))
  deriving Inhabited

namespace Value

/-- What a fault calls a value. -/
def describe : Value → String
  | .scalar _ .nil => "unit value"
  | .scalar _ (.bool value) => "boolean `" ++ toString value ++ "`"
  | .scalar _ (.int value) => "64-bit integer `" ++ toString value ++ "`"
  | .scalar _ (.real value) => "floating point `" ++ value.text ++ "`"
  | .scalar _ (.text value) => "string " ++ Text.quoted value
  | .list .. => "sequence"
  | .table .. => "map"

/-- Where a value was found, if it says so. -/
def origin? : Value → Option Origin
  | .scalar origin _ => origin
  | .list origin _ => origin
  | .table _ => none

/-- The entries of a table; anything else has none. -/
def entries : Value → List (String × Value)
  | .table entries => entries
  | _ => []

/-- The entry of a name in a list of entries. -/
def entryOf? (name : String) (entries : List (String × Value)) : Option Value :=
  (entries.find? (·.1 = name)).map (·.2)

/-- The entry of a name in a table. -/
def entry? (value : Value) (name : String) : Option Value := entryOf? name value.entries

/-- Changes the entry of a name, or adds one. -/
def upsert (name : String) (change : Option Value → Value) :
    List (String × Value) → List (String × Value)
  | [] => [(name, change none)]
  | (other, value) :: rest =>
    if other = name then (other, change (some value)) :: rest
    else (other, value) :: upsert name change rest

/-- Changing one entry leaves all others as they are. -/
theorem entryOf?_upsert (name other : String) (change : Option Value → Value)
    (entries : List (String × Value)) :
    entryOf? other (upsert name change entries) =
      if name = other then some (change (entryOf? name entries)) else entryOf? other entries := by
  induction entries with
  | nil => by_cases h : name = other <;> simp [upsert, entryOf?, h]
  | cons entry rest ih =>
    obtain ⟨key, value⟩ := entry
    by_cases hk : key = name
    · subst hk
      by_cases h : key = other <;> simp [upsert, entryOf?, h]
    · by_cases h : name = other
      · subst h
        simp only [upsert, hk, if_false, entryOf?, List.find?_cons, decide_false] at ih ⊢
        simpa using ih
      · by_cases hko : key = other
        · subst hko
          simp [upsert, hk, entryOf?, h]
        · simp only [upsert, hk, if_false, entryOf?, List.find?_cons, hko, decide_false] at ih ⊢
          simpa [h] using ih

mutual

/-- Lays a value over what is there, if anything is. -/
def cover (value : Value) (existing : Option Value) : Value :=
  match value with
  | .table entries => coverEntries entries (existing.getD (.table []))
  | value => value

/-- Lays the entries of a table one by one over what is there; what is no table gives way to one as
    soon as there is an entry. -/
def coverEntries (entries : List (String × Value)) (existing : Value) : Value :=
  match entries with
  | [] => existing
  | (name, value) :: rest =>
    coverEntries rest
      (.table (upsert (name.map Char.toLower) (fun old => cover value old) existing.entries))

end

end Value

end CardServer.Settings
