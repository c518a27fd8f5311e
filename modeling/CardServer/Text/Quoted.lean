import CardServer.Text.Printable

/-! # Quoted text

How a text is shown inside a message: in double quotes, with a backslash in front of quotes and
backslashes, letters for the common control characters, and a code point in braces for every other
character that leaves no mark of its own on the page.
-/

namespace CardServer.Text

/-- A character as it stands inside the quotes. -/
def quotedChar (c : Char) : List Char :=
  match c with
  | '"' => ['\\', '"']
  | '\\' => ['\\', '\\']
  | '\t' => ['\\', 't']
  | '\n' => ['\\', 'n']
  | '\r' => ['\\', 'r']
  | '\x00' => ['\\', '0']
  | c =>
    if isPrintable c then
      [c]
    else
      '\\' :: 'u' :: '{' :: (Nat.toDigits 16 c.toNat ++ ['}'])

/-- A text in its quotes. -/
def quoted (text : String) : String :=
  String.ofList ('"' :: (text.toList.flatMap quotedChar ++ ['"']))

/-- A character in single quotes, which is escaped alike but for the quotes themselves. -/
def singleQuoted (c : Char) : String :=
  let shown := if c = '"' then [c] else if c = '\'' then ['\\', c] else quotedChar c
  String.ofList ('\'' :: (shown ++ ['\'']))

end CardServer.Text
