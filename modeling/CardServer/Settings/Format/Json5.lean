import CardServer.Settings.Format.Json5.Tree
import CardServer.Settings.Format.Numeral
import CardServer.Settings.Format.Scan
import CardServer.Settings.Value

/-! # Settings in relaxed Json

Json with comments, names without quotes, strings in single quotes, hexadecimal integers, numbers that
start or end with a point, signs in front of numbers, and commas behind the last item.  A file that does
not follow the grammar is reported with the line where it goes wrong and what may stand there; a number
or a string that means nothing is reported without a place.

* `read`      the value of a file, or why there is none
* `message`   the report of what is missing
-/

namespace CardServer.Settings.Format.Json5

/-! ## Meanings -/

/-- Why a number or a string means nothing. -/
inductive Fault where
  | hexadecimal
  | integer
  | number
  | tooLarge
  | openPair
  | wrongPair
  | halfPair
  deriving DecidableEq, Repr

/-- The wording of a fault. -/
def Fault.text : Fault → String
  | .hexadecimal => "error parsing hex"
  | .integer => "error parsing integer"
  | .number => "error parsing number"
  | .tooLarge => "error parsing number: too large"
  | .openPair => "missing unicode trail surrogate"
  | .wrongPair => "expecting unicode trail surrogate"
  | .halfPair => "unexpected unicode trail surrogate"

/-- The greatest number of 32 bits. -/
def greatestWord : Nat := 4294967295

/-- The number of 32 bits that hexadecimal digits write. -/
def word (digits : List Char) : Except Fault Nat :=
  match (natural? 16 digits).filter (· ≤ greatestWord) with
  | some n => .ok n
  | none => .error .hexadecimal

/-- The character that a letter behind a backslash stands for. -/
def escaped : Char → Char
  | 'b' => '\x08'
  | 'f' => '\x0c'
  | 'n' => '\n'
  | 'r' => '\r'
  | 't' => '\t'
  | 'v' => '\x0b'
  | c => c

/-- Whether a unit is the first of a pair. -/
def isLead (unit : Nat) : Bool := 0xD800 ≤ unit && unit < 0xDC00

/-- Whether a unit is the second of a pair. -/
def isTrail (unit : Nat) : Bool := 0xDC00 ≤ unit && unit < 0xE000

/-- The character of a pair of units. -/
def paired (lead trail : Nat) : Char :=
  Char.ofNat (((lead - 0xD800) <<< 10) ||| (trail - 0xDC00 + 0x10000))

/-- The characters of a string or a name. -/
def meaning : List Piece → Except Fault (List Char)
  | [] => .ok []
  | ⟨.plain, text⟩ :: rest => return text ++ (← meaning rest)
  | ⟨.escape, text⟩ :: rest => return text.map escaped ++ (← meaning rest)
  | ⟨.nul, _⟩ :: rest => return '\x00' :: (← meaning rest)
  | ⟨.byte, text⟩ :: rest => return Char.ofNat (← word text) :: (← meaning rest)
  | ⟨.unit, text⟩ :: rest => do
    let unit ← word text
    if isTrail unit then
      .error .halfPair
    else if isLead unit then
      match rest with
      | [] => .error .openPair
      | next :: rest =>
        let second ← word next.text
        if isTrail second then return paired unit second :: (← meaning rest) else .error .wrongPair
    else
      return Char.ofNat unit :: (← meaning rest)

/-- The scalar of a number as it is written. -/
def scalar (text : List Char) : Except Fault Scalar :=
  let written := String.ofList text
  let isHexadecimal := 2 < text.length && (written.startsWith "0x" || written.startsWith "0X")
  if written = "Infinity" then .ok (.real (.infinite false))
  else if written = "-Infinity" then .ok (.real (.infinite true))
  else if written = "NaN" || written = "-NaN" then .ok (.real .nan)
  else if isHexadecimal then return .int (← word (text.drop 2))
  else if text.contains '.' || text.contains 'e' || text.contains 'E' then
    match decimal? text with
    | some (.finite x) => .ok (.real (.finite x))
    | some _ => .error .tooLarge
    | none => .error .number
  else
    match integer? 10 text with
    | some n => .ok (.int n)
    | none => .error .integer

mutual

/-- The value of a tree. -/
def ofTree (origin : Origin) : Tree → Except Fault Value
  | .null => .ok (.scalar origin .nil)
  | .boolean value => .ok (.scalar origin (.bool value))
  | .string pieces => return .scalar origin (.text (String.ofList (← meaning pieces)))
  | .number text => return .scalar origin (← scalar text)
  | .object members => return .table (← ofMembers origin [] members)
  | .array items => return .list origin (← ofItems origin items)

/-- The values of the items of an array. -/
def ofItems (origin : Origin) : List Tree → Except Fault (List Value)
  | [] => .ok []
  | item :: rest => return (← ofTree origin item) :: (← ofItems origin rest)

/-- The entries of the members of an object, put to those before them. -/
def ofMembers (origin : Origin) (done : List (String × Value)) :
    List (List Piece × Tree) → Except Fault (List (String × Value))
  | [] => .ok done
  | (name, member) :: rest => do
    let name ← meaning name
    let value ← ofTree origin member
    ofMembers origin (Value.upsert (String.ofList name) (fun _ => value) done) rest

end

/-! ## Reports -/

/-- What may stand in a place, as an enumeration. -/
def enumeration (choices : List String) : String :=
  match choices.reverse with
  | [] => ""
  | [one] => one
  | [second, first] => first ++ " or " ++ second
  | last :: others => ", ".intercalate others.reverse ++ ", or " ++ last

/-- A line as a report shows it: with visible line ends if the place is at one, else without them. -/
def shown (line : List Char) (atEnd : Bool) : List Char :=
  if atEnd then
    line.map fun c => if c = '\r' then '\u240d' else if c = '\n' then '\u240a' else c
  else
    line.filter fun c => c ≠ '\r' && c ≠ '\n'

/-- The report of what is missing: where it is, the line with a mark under the place, and what may stand
    there. -/
def message (text : String) (missing : Missing) : String :=
  let passed := text.toList.take (text.length - missing.left)
  let left := text.toList.drop passed.length
  let (line, column) := placeAfter passed
  let number := toString (line + 1)
  let margin := String.ofList (List.replicate number.length ' ')
  let rest := left.takeWhile (· ≠ '\n') ++ (left.dropWhile (· ≠ '\n')).take 1
  let content :=
    shown (passed.drop (passed.length - column) ++ rest) (left.head?.any fun c => c = '\n' || c = '\r')
  let indent := (content.take column).map fun c => if c = '\t' then c else ' '
  let choices := Construct.all.filter missing.constructs.contains
  margin ++ "--> " ++ number ++ ":" ++ toString (column + 1) ++ "\n" ++
    margin ++ " |\n" ++ number ++ " | " ++ String.ofList content ++ "\n" ++
    margin ++ " | " ++ String.ofList indent ++ "^---\n" ++
    margin ++ " |\n" ++ margin ++ " = expected " ++ enumeration (choices.map Construct.name)

/-- Reads a file, or says why it cannot be read. -/
def read (origin : Origin) (text : String) : Except String Value :=
  match Tree.ofText text with
  | .ok tree => (ofTree origin tree).mapError Fault.text
  | .error missing => .error (message text missing)

end CardServer.Settings.Format.Json5
