import CardServer.Json.Basic
import CardServer.Number.Shortest

/-! # Writing Json

The compact form: no blanks between tokens, members in the order they stand in, and as few escapes
as possible.  Only the double quote, the backslash and the characters below U+0020 are escaped, the
latter by a letter where there is one and by four lower-case hexadecimal digits otherwise.
-/

namespace CardServer.Json

/-- The letter that escapes a character, if it has one. -/
def escapeLetter? (c : Char) : Option Char :=
  match c with
  | '"' => some '"'
  | '\\' => some '\\'
  | '\x08' => some 'b'
  | '\x0c' => some 'f'
  | '\n' => some 'n'
  | '\r' => some 'r'
  | '\t' => some 't'
  | _ => none

/-- The lower-case hexadecimal digit of a number below 16. -/
def hexDigit (n : Nat) : Char := Nat.digitChar (n % 16)

/-- A character as it stands in a written string. -/
def escapeChar (c : Char) : List Char :=
  match escapeLetter? c with
  | some letter => ['\\', letter]
  | none =>
    if c < ' ' then
      ['\\', 'u', '0', '0', hexDigit (c.toNat / 16), hexDigit c.toNat]
    else
      [c]

/-- A string in its quotes. -/
def writeString (value : String) : List Char :=
  '"' :: (value.toList.flatMap escapeChar ++ ['"'])

/-- A number: an integer in decimal, any other number in the exponent layout. -/
def writeNumber : Number → List Char
  | .int value => (toString value).toList
  | .real value => value.exponentText.toList

mutual

/-- A value in the compact form. -/
def write : Json → List Char
  | .null => "null".toList
  | .bool true => "true".toList
  | .bool false => "false".toList
  | .num value => writeNumber value
  | .str value => writeString value
  | .arr items => '[' :: (writeItems items ++ [']'])
  | .obj members => '{' :: (writeMembers members ++ ['}'])

/-- The items of an array with commas between them. -/
def writeItems : List Json → List Char
  | [] => []
  | [item] => write item
  | item :: next :: rest => write item ++ ',' :: writeItems (next :: rest)

/-- The members of an object with commas between them. -/
def writeMembers : List (String × Json) → List Char
  | [] => []
  | [(name, value)] => writeString name ++ ':' :: write value
  | (name, value) :: next :: rest =>
    writeString name ++ ':' :: (write value ++ ',' :: writeMembers (next :: rest))

end

/-- The compact text of a value. -/
def render (value : Json) : String := String.ofList value.write

end CardServer.Json
