/-! # Environment variables

The variables of a process by name.  The first entry of a name counts.

* `get?_define`   a definition takes effect exactly if its name was not set before
-/

namespace CardServer.Settings

/-- The variables of a process. -/
structure Environment where
  entries : List (String × String)
  deriving DecidableEq, Repr

namespace Environment

/-- The value of a variable. -/
def get? (environment : Environment) (name : String) : Option String :=
  (environment.entries.find? (·.1 = name)).map (·.2)

/-- What follows some characters in front of others. -/
def after? (front : List Char) (text : List Char) : Option (List Char) :=
  if front.isPrefixOf text then some (text.drop front.length) else none

/-- What follows a text and an equals sign in the first entry, written as a name, an equals sign and a
    value, that starts with them.  For a text that holds an equals sign the value is searched, too. -/
def lookUp? (environment : Environment) (text : String) : Option String :=
  if text.isEmpty then none
  else
    environment.entries.findSome? fun (name, value) =>
      (after? (text.toList ++ ['=']) (name.toList ++ '=' :: value.toList)).map String.ofList

/-- The value of a variable; an empty value counts as none. -/
def nonEmpty? (environment : Environment) (name : String) : Option String :=
  (environment.get? name).filter (!·.isEmpty)

/-- Sets a variable unless it is set already. -/
def define (environment : Environment) (name value : String) : Environment :=
  match environment.get? name with
  | some _ => environment
  | none => ⟨environment.entries ++ [(name, value)]⟩

/-- A definition takes effect exactly if its name was not set before. -/
theorem get?_define (environment : Environment) (name value other : String) :
    (environment.define name value).get? other =
      (environment.get? other).or (if name = other then some value else none) := by
  unfold define
  split
  · next held h =>
    by_cases hn : name = other
    · subst hn
      simp [h]
    · simp [hn]
  · simp only [get?, List.find?_append, Option.map_or]
    by_cases hn : name = other <;> simp [hn]

end Environment

end CardServer.Settings
