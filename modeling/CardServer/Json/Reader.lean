import CardServer.Json.Numeral
import CardServer.Json.Text

/-! # Reading Json

`Json.read` reads one value that fills a whole text, blanks around it apart.  Blank are only the
space, the tab, the line feed and the carriage return.  Arrays and objects may be nested 127 deep.

The reader of values is bounded by a count of steps that no text of its length can use up:
every step of the recursion is paid for by a character.
-/

namespace CardServer.Json

/-- Whether a character may stand between the tokens of a Json text. -/
def isSpace (c : Char) : Bool := c = ' ' || c = '\t' || c = '\n' || c = '\r'

/-- The text after its leading blanks. -/
def skipSpace (text : List Char) : List Char := text.dropWhile isSpace

/-- How deep arrays and objects may be nested. -/
def greatestDepth : Nat := 127

/-- Reads the rest of a literal, giving the value that it stands for. -/
def readLiteral (value : Json) : List Char → List Char → Except Fault (Json × List Char)
  | [], text => .ok (value, text)
  | _ :: _, [] => .error (.atEnd .endInValue)
  | expected :: more, c :: rest =>
    if c = expected then
      readLiteral value more rest
    else
      .error (.here .expectedIdent (c :: rest))

/-- Reads a value that is neither an array nor an object and starts with the given character. -/
def readScalar (first : Char) (rest : List Char) : Except Fault (Json × List Char) :=
  match first with
  | 'n' => readLiteral .null "ull".toList rest
  | 't' => readLiteral (.bool true) "rue".toList rest
  | 'f' => readLiteral (.bool false) "alse".toList rest
  | '"' =>
    match readString rest with
    | .error fault => .error fault
    | .ok (value, rest) => .ok (.str value, rest)
  | _ =>
    if first = '-' ∨ first.isDigit then
      match Numeral.read (first = '-') (if first = '-' then rest else first :: rest) with
      | .error fault => .error fault
      | .ok (value, rest) => .ok (.num value, rest)
    else
      .error (.here .expectedValue (first :: rest))

mutual

/-- Reads a value from the front of a text; containers may be nested `depth` deep. -/
def readValue (steps depth : Nat) (text : List Char) : Except Fault (Json × List Char) :=
  match steps with
  -- Not reached: `readWhole` grants two steps for each character.
  | 0 => .error (.before .nestingTooDeep text)
  | steps + 1 =>
    match skipSpace text with
    | [] => .error (.atEnd .endInValue)
    | '[' :: rest =>
      match depth with
      | 0 => .error (.here .nestingTooDeep ('[' :: rest))
      | depth + 1 =>
        match skipSpace rest with
        | [] => .error (.atEnd .endInList)
        -- Behind the bracket only; a comma needs another item.
        | ']' :: rest => .ok (.arr [], rest)
        | rest => readItems steps depth [] rest
    | '{' :: rest =>
      match depth with
      | 0 => .error (.here .nestingTooDeep ('{' :: rest))
      | depth + 1 =>
        match skipSpace rest with
        | [] => .error (.atEnd .endInObject)
        | '}' :: rest => .ok (.obj [], rest)
        | '"' :: rest => readMembers steps depth [] rest
        | rest => .error (.here .keyNotString rest)
    | c :: rest => readScalar c rest

/-- Reads the items of an array from the next item on; `done` holds those before it, the last one
    first. -/
def readItems (steps depth : Nat) (done : List Json) (text : List Char) :
    Except Fault (Json × List Char) :=
  match steps with
  | 0 => .error (.before .nestingTooDeep text)
  | steps + 1 =>
    match readValue steps depth text with
    | .error fault => .error fault
    | .ok (item, rest) =>
      match skipSpace rest with
      | [] => .error (.atEnd .endInList)
      | ']' :: rest => .ok (.arr (item :: done).reverse, rest)
      | ',' :: rest =>
        match skipSpace rest with
        | [] => .error (.atEnd .endInValue)
        | ']' :: rest => .error (.here .trailingComma (']' :: rest))
        | rest => readItems steps depth (item :: done) rest
      | rest => .error (.here .expectedCommaOrBracket rest)

/-- Reads the members of an object from behind the opening quote of the next name on; `done` holds
    those before it, the last one first. -/
def readMembers (steps depth : Nat) (done : List (String × Json)) (text : List Char) :
    Except Fault (Json × List Char) :=
  match steps with
  | 0 => .error (.before .nestingTooDeep text)
  | steps + 1 =>
    match readString text with
    | .error fault => .error fault
    | .ok (name, rest) =>
      match skipSpace rest with
      | [] => .error (.atEnd .endInObject)
      | ':' :: rest =>
        match readValue steps depth rest with
        | .error fault => .error fault
        | .ok (value, rest) =>
          match skipSpace rest with
          | [] => .error (.atEnd .endInObject)
          | '}' :: rest => .ok (.obj ((name, value) :: done).reverse, rest)
          | ',' :: rest =>
            match skipSpace rest with
            | [] => .error (.atEnd .endInValue)
            | '"' :: rest => readMembers steps depth ((name, value) :: done) rest
            | '}' :: rest => .error (.here .trailingComma ('}' :: rest))
            | rest => .error (.here .keyNotString rest)
          | rest => .error (.here .expectedCommaOrBrace rest)
      | rest => .error (.here .expectedColon rest)

end

/-- Reads the value that fills a text. -/
def readWhole (text : List Char) : Except Fault Json :=
  match readValue (2 * text.length + 1) greatestDepth text with
  | .error fault => .error fault
  | .ok (value, rest) =>
    match skipSpace rest with
    | [] => .ok value
    | rest => .error (.here .trailingCharacters rest)

/-- Reads a Json text. -/
def read (text : String) : Except Fault Json := readWhole text.toList

end CardServer.Json
