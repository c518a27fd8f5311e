import CardServer.Settings.Format.Ron.Datum

/-! # Settings in parenthesised records

Records in parentheses with names in front of the values, maps in braces, lists in brackets, optional
values, characters and strings, with comments and commas behind the last item.  A record and a map are
tables.  A file may start with the extensions that it uses.  A file that cannot be read is reported with
the place that reading has come to.

* `read`   the value of a file, or why there is none
-/

namespace CardServer.Settings.Format.Ron

open Read

/-! ## Extensions -/

/-- The extension with which a value may stand for an optional one that holds it. -/
def implicitSome : String := "implicit_some"

/-- The names of the extensions. -/
def extensionNames : List String := ["unwrap_newtypes", implicitSome, "unwrap_variant_newtypes"]

/-- Passes those of some marks that are next, with the blanks behind each, and tells whether all
    were.  Behind a fault among the blanks the further marks are passed all the same. -/
def acceptAll (steps : Nat) : List String → Read Bool
  | [] => return true
  | mark :: others => do
    let isFound ← accept mark
    let blanks ← observed (if isFound then passBlanks steps else return)
    let areFound ← observed (acceptAll steps others)
    MonadExcept.ofExcept blanks
    return isFound && (← MonadExcept.ofExcept areFound)

/-- Passes the names of extensions with the commas between them. -/
def extensionList (steps : Nat) : Read (List String) := do
  match steps with
  | 0 => throw (.expected "identifier")
  | steps + 1 =>
    let extension ← name
    if !extensionNames.contains extension then throw (.noExtension extension)
    let hasComma ← comma
    let isName := (← rest).head?.any isNameChar
    if !hasComma && isName then throw (.expected "comma")
    if isName then
      return extension :: (← extensionList steps)
    else
      return [extension]

/-- Passes the attributes in front of a value, and gives the extensions that they name. -/
def extensions (steps : Nat) : Read (List String) := do
  match steps with
  | 0 => return []
  | steps + 1 =>
    if (← rest).head? ≠ some '#' then
      return []
    if !(← acceptAll steps ["#", "!", "[", "enable", "("]) then
      throw (.expected "an `#![enable(...)]` attribute")
    blanks
    let named ← extensionList steps
    blanks
    if !(← acceptAll steps [")", "]"]) then throw (.expected "closing `)]` after the enable attribute")
    blanks
    return named ++ (← extensions steps)

/-! ## Values -/

/-- How deep values may stand inside values.  The content of a bracket and each item of it count. -/
def depthLimit : Nat := 128

/-- Reads one level deeper. -/
def deeper {α : Type} (depth : Nat) (read : Nat → Read α) : Read α :=
  if depth < depthLimit then read (depth + 1) else throw .tooDeep

/-- Whether another item comes before a closing bracket; `isFirst` tells whether the item needs no comma
    before it. -/
def hasItem (bracket : Char) (isFirst : Bool) : Read Bool := do
  blanks
  let isItem := (← peek) != bracket
  if isItem && !isFirst then throw (.expected "comma")
  return isItem

/-- Whether the parentheses that are next hold values without names. -/
def isTuple : Read Bool := ahead do
  pass 1
  blanks
  if (← attempt? name).isNone then
    return true
  blanks
  return (← next) != ':'

mutual

/-- Takes a value. -/
def value (extensions : List String) (depth steps : Nat) : Read Datum := do
  match steps with
  | 0 => throw .endOfFile
  | steps + 1 =>
    if ← acceptWord "true" then
      return .bool true
    if ← acceptWord "false" then
      return .bool false
    if ← acceptWord "Some" then
      return .option (← something extensions depth steps)
    if ← acceptWord "None" then
      return .option none
    if ← accept "()" then
      return .unit
    if ← acceptWord "inf" then
      return .number (.real (.infinite false))
    if ← acceptWord "-inf" then
      return .number (.real (.infinite true))
    if ← acceptWord "NaN" then
      return .number (.real .nan)
    if (← attempt? name).isSome then
      blanks
      if ← isNext "(" then
        return ← parenthesised extensions depth steps
      else
        return .unit
    let c ← peek
    if c = '(' then
      parenthesised extensions depth steps
    else if c = '[' then
      pass 1
      let items ← deeper depth fun depth => items extensions ']' depth steps true
      blanks
      close "]" "closing `]`"
      return .list items
    else if c = '\x7b' then
      pass 1
      let entries ← deeper depth fun depth => entries extensions '\x7d' depth steps true []
      blanks
      close "\x7d" "closing `\x7d`"
      return .map entries
    else if c.isDigit ∨ c = '+' ∨ c = '-' ∨ c = '.' then
      return .number (← number)
    else if c = '"' ∨ c = 'r' then
      return .text (← text)
    else if c = '\'' then
      return .char (← character)
    else
      throw (.unexpected c)
termination_by structural steps

/-- Takes what an optional value holds. -/
def something (extensions : List String) (depth steps : Nat) : Read Datum := do
  match steps with
  | 0 => throw .endOfFile
  | steps + 1 =>
    blanks
    if ← accept "(" then
      blanks
      let content ← deeper depth fun depth => value extensions depth steps
      let _ ← comma
      close ")" "closing `)`"
      return content
    else if extensions.contains implicitSome then
      deeper depth fun depth => value extensions depth steps
    else
      throw (.expected "option")
termination_by structural steps

/-- Takes a record or a tuple in parentheses. -/
def parenthesised (extensions : List String) (depth steps : Nat) : Read Datum := do
  match steps with
  | 0 => throw .endOfFile
  | steps + 1 =>
    let isTuple ← isTuple
    pass 1
    let content ← deeper depth fun depth =>
      if isTuple then Datum.list <$> items extensions ')' depth steps true
      else Datum.map <$> entries extensions ')' depth steps true []
    blanks
    close ")" "closing `)`"
    return content
termination_by structural steps

/-- Takes the items before a closing bracket. -/
def items (extensions : List String) (bracket : Char) (depth steps : Nat) (isFirst : Bool) :
    Read (List Datum) := do
  match steps with
  | 0 => throw .endOfFile
  | steps + 1 =>
    if !(← hasItem bracket isFirst) then
      return []
    let item ← deeper depth fun depth => value extensions depth steps
    let others ← items extensions bracket depth steps (← comma)
    return item :: others
termination_by structural steps

/-- Takes the entries before a closing bracket; behind a parenthesis keys are names. -/
def entries (extensions : List String) (bracket : Char) (depth steps : Nat) (isFirst : Bool)
    (done : List (Datum × Datum)) : Read (List (Datum × Datum)) := do
  match steps with
  | 0 => throw .endOfFile
  | steps + 1 =>
    if !(← hasItem bracket isFirst) then
      return done
    let key ← deeper depth fun depth =>
      if bracket = ')' then Datum.text <$> name else value extensions depth steps
    blanks
    close ":" "colon"
    blanks
    let datum ← deeper depth fun depth => value extensions depth steps
    entries extensions bracket depth steps (← comma) (Datum.putEntry key datum done)
termination_by structural steps

end

/-! ## Files -/

/-- Takes a file. -/
def document : Read Datum := do
  let steps := 3 * (← rest).length + 8
  blanks
  let extensions ← extensions steps
  let datum ← value extensions 0 steps
  blanks
  if !(← rest).isEmpty then throw .trailing
  return datum

/-- The report of a fault where the cursor is. -/
def message (fault : Fault) (cursor : Cursor) : String :=
  toString cursor.line ++ ":" ++ toString cursor.column ++ ": " ++ fault.text

/-- Reads a file, or says why it cannot be read. -/
def read (origin : Origin) (text : String) : Except String Value :=
  match (ExceptT.run document).run { rest := bytesOf text } with
  | (.ok datum, _) => datum.value origin
  | (.error fault, cursor) => .error (message fault cursor)

end CardServer.Settings.Format.Ron
