/-! # How a key is written

A key of letters, digits, underscores and dashes is written as it is.  Any other key is in double quotes,
unless only single quotes save an escape.
-/

namespace CardServer.Settings.Format.Toml

/-- Whether a character may stand in a key without quotes. -/
def isKeyChar (c : Char) : Bool := c.isAlphanum || c = '_' || c = '-'

/-- Whether a key needs no quotes. -/
def isBare (name : String) : Bool := !name.isEmpty && name.toList.all isKeyChar

/-- Whether a character cannot be written but by an escape. -/
def isUnwritable (c : Char) : Bool := (c < ' ' && c != '\t') || c = '\x7f'

/-- A character between double quotes. -/
def writtenChar (c : Char) : List Char :=
  match c with
  | '\x08' => ['\\', 'b']
  | '\t' => ['\\', 't']
  | '\n' => ['\\', 'n']
  | '\x0c' => ['\\', 'f']
  | '\r' => ['\\', 'r']
  | '"' => ['\\', '"']
  | '\\' => ['\\', '\\']
  | c =>
    if isUnwritable c then
      let digits := (Nat.toDigits 16 c.toNat).map Char.toUpper
      '\\' :: 'u' :: (List.replicate (4 - digits.length) '0' ++ digits)
    else
      [c]

/-- A key as it is written. -/
def written (name : String) : String :=
  let chars := name.toList
  let savesEscape := chars.any fun c => c = '"' || c = '\\'
  if isBare name then name
  else if savesEscape && !chars.contains '\'' && !chars.any isUnwritable then "'" ++ name ++ "'"
  else "\"" ++ String.ofList (chars.flatMap writtenChar) ++ "\""

end CardServer.Settings.Format.Toml
