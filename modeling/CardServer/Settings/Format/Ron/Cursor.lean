import CardServer.Settings.Format.Numeral
import CardServer.Text.Quoted

/-! # Reading a file of records byte by byte

A file is read as bytes, each taken as the character with its number.  A fault is reported where the
cursor is when reading ends, so the cursor outlives a fault.
-/

namespace CardServer.Settings.Format.Ron

/-! ## Names -/

/-- Whether a byte may stand in a name. -/
def isNameChar (c : Char) : Bool := c.isAlphanum || c = '_'

/-- Whether a name may start with a byte. -/
def isFirstNameChar (c : Char) : Bool := c.isAlpha || c = '_'

/-- Whether a byte may stand in a name with a mark in front of it. -/
def isMarkedNameChar (c : Char) : Bool := isNameChar c || c = '.' || c = '+' || c = '-'

/-- Whether a name needs no mark in front of it. -/
def isUnmarked (name : String) : Bool :=
  name.toList.head?.any isFirstNameChar && name.toList.all isNameChar

/-- A name as it is written. -/
def writtenName (name : String) : String := if isUnmarked name then name else "r#" ++ name

/-! ## Faults -/

/-- Why a file cannot be read. -/
inductive Fault where
  | endOfFile
  | unexpected (byte : Char)
  | openComment
  /-- Something else has to stand here. -/
  | expected (what : String)
  | noExtension (name : String)
  /-- A name that would need a mark in front of it. -/
  | unmarkedName (name : String)
  | underscore
  | escape (reason : String)
  | tooDeep
  | trailing
  deriving DecidableEq, Repr

/-- The wording of a fault. -/
def Fault.text : Fault → String
  | .endOfFile => "Unexpected end of RON"
  | .unexpected byte => "Unexpected byte " ++ Text.singleQuoted byte
  | .openComment => "Unclosed block comment"
  | .expected what => "Expected " ++ what
  | .noExtension name => "No RON extension named `" ++ writtenName name ++ "`"
  | .unmarkedName name =>
    "Found invalid std identifier `" ++ name ++ "`, try the raw identifier `r#" ++ name ++
      "` instead"
  | .underscore => "Unexpected underscore in float"
  | .escape reason => reason
  | .tooDeep =>
    "Exceeded recursion limit, try increasing the limit and using `serde_stacker` to protect " ++
      "against a stack overflow"
  | .trailing => "Non-whitespace trailing characters"

/-! ## The cursor -/

/-- A number of a file. -/
inductive Number where
  | int (value : Int)
  | real (value : Real64)
  deriving DecidableEq, Repr

/-- An integer as a number; one that 64 bits with a sign do not hold is rounded. -/
def Number.ofInt (n : Int) : Number :=
  if n ≤ greatestInteger then .int n else .real (.ofDecimal false n.toNat 0)

/-- What is left of a file, and the line and the column that reading has come to. -/
structure Cursor where
  rest : List Char
  line : Nat := 1
  column : Nat := 1
  deriving DecidableEq, Repr

/-- The cursor behind so many bytes. -/
def Cursor.behind (cursor : Cursor) : Nat → Cursor
  | 0 => cursor
  | count + 1 =>
    match cursor.rest with
    | [] => cursor
    | '\n' :: rest => Cursor.behind ⟨rest, cursor.line + 1, 1⟩ count
    | _ :: rest => Cursor.behind ⟨rest, cursor.line, cursor.column + 1⟩ count

/-- A way of reading. -/
abbrev Read (α : Type) := ExceptT Fault (StateM Cursor) α

/-- The bytes of a text, each as the character with its number. -/
def bytesOf (text : String) : List Char :=
  text.toUTF8.toList.map fun byte => Char.ofNat byte.toNat

/-- The text of some bytes. -/
def textOf (bytes : List Char) : String :=
  (String.fromUTF8? ⟨(bytes.map fun byte => UInt8.ofNat byte.toNat).toArray⟩).getD ""

namespace Read

/-- What is left of the file. -/
def rest : Read (List Char) := do return (← get).rest

/-- The next byte. -/
def peek : Read Char := do
  match ← rest with
  | c :: _ => return c
  | [] => throw .endOfFile

/-- Passes so many bytes. -/
def pass (count : Nat) : Read Unit := modify (·.behind count)

/-- Passes the next byte and gives it. -/
def next : Read Char := do
  let c ← peek
  pass 1
  return c

/-- Passes the bytes of a class that are next and gives them. -/
def passWhile (p : Char → Bool) : Read (List Char) := do
  let taken := (← rest).takeWhile p
  pass taken.length
  return taken

/-- Whether certain bytes are next. -/
def isNext (text : String) : Read Bool := do return text.toList.isPrefixOf (← rest)

/-- Passes certain bytes if they are next, and tells whether they were. -/
def accept (text : String) : Read Bool := do
  if ← isNext text then
    pass text.length
    return true
  else
    return false

/-- Passes certain bytes, which have to be next. -/
def close (text what : String) : Read Unit := do
  if !(← accept text) then throw (.expected what)

/-- Reads without moving the cursor. -/
def ahead {α : Type} (read : Read α) : Read α := do
  let cursor ← get
  match (ExceptT.run read).run cursor with
  | (.ok result, _) => return result
  | (.error fault, _) => throw fault

/-- Reads, or leaves the cursor where it is. -/
def attempt? {α : Type} (read : Read α) : Read (Option α) := do
  let cursor ← get
  match (ExceptT.run read).run cursor with
  | (.ok result, cursor) => set cursor *> return some result
  | (.error _, _) => return none

/-- Reads, and gives a fault as a result. -/
def observed {α : Type} (read : Read α) : Read (Except Fault α) :=
  ExceptT.mk do return .ok (← ExceptT.run read)

/-! ## Blanks -/

/-- Whether a byte is a blank. -/
def isBlank (c : Char) : Bool := c = ' ' || c = '\t' || c = '\n' || c = '\r'

/-- Passes the rest of a comment that may hold others; `level` counts those that are open. -/
def passLong (steps level : Nat) : Read Unit := do
  match steps, level with
  | 0, _ => throw .openComment
  | _, 0 => return
  | steps + 1, level + 1 =>
    let _ ← passWhile fun c => c != '/' && c != '*'
    if ← accept "/*" then
      passLong steps (level + 2)
    else if ← accept "*/" then
      passLong steps level
    else
      if (← rest).isEmpty then throw .openComment
      pass 1
      passLong steps (level + 1)

/-- Passes blanks and comments; every round passes a byte at least. -/
def passBlanks (steps : Nat) : Read Unit := do
  match steps with
  | 0 => return
  | steps + 1 =>
    let _ ← passWhile isBlank
    if ← accept "/" then
      let c ← next
      if c = '/' then
        let _ ← passWhile (· != '\n')
      else if c = '*' then
        passLong steps 1
      else
        throw (.unexpected c)
      passBlanks steps

/-- Passes blanks and comments. -/
def blanks : Read Unit := do passBlanks ((← rest).length + 1)

/-- Passes a comma with the blanks around it, and tells whether there was one. -/
def comma : Read Bool := do
  blanks
  if ← accept "," then
    blanks
    return true
  else
    return false

/-! ## Names -/

/-- Passes a word that no other byte of a name follows, if it is next. -/
def acceptWord (word : String) : Read Bool := do
  let isEnd := !(((← rest).drop word.length).head?.any isNameChar)
  if isEnd && (← isNext word) then
    pass word.length
    return true
  else
    return false

/-- Passes a name; an `r` with a number sign in front of it is a mark. -/
def name : Read String := do
  let c ← peek
  if !isFirstNameChar c then
    if isMarkedNameChar c then
      throw (.unmarkedName (textOf ((← rest).takeWhile isMarkedNameChar)))
    throw (.expected "identifier")
  match ← rest with
  | ['r'] => throw .endOfFile
  | 'r' :: '"' :: _ => throw (.expected "identifier")
  | 'r' :: '#' :: others =>
    if !others.head?.any isMarkedNameChar then throw (.expected "identifier")
    pass 2
    return textOf (← passWhile isMarkedNameChar)
  | bytes =>
    let marked := bytes.takeWhile isMarkedNameChar
    if (bytes.takeWhile isNameChar).length < marked.length then throw (.unmarkedName (textOf marked))
    return textOf (← passWhile isNameChar)

/-! ## Numbers -/

/-- Whether a byte may stand in an integer. -/
def isIntegerChar (c : Char) : Bool := isDigitTo 16 c || c = '_'

/-- Whether a byte may stand in a number with a fraction or an exponent. -/
def isRealChar (c : Char) : Bool :=
  c.isDigit || c = 'e' || c = 'E' || c = '.' || c = '+' || c = '-' || c = '_'

/-- The greatest number that an integer without a sign may write, of 64 bits. -/
def greatestNatural : Nat := 18446744073709551615

/-- The base of the digits that are next, and how many bytes say so. -/
def baseOf : List Char → Nat × Nat
  | '0' :: 'x' :: _ => (16, 2)
  | '0' :: 'b' :: _ => (2, 2)
  | '0' :: 'o' :: _ => (8, 2)
  | _ => (10, 0)

/-- Passes an integer, or the part of it that tells that there is none. -/
def integer? : Read (Option Int) := do
  let sign := (← peek?).filter fun c => c = '+' || c = '-'
  if sign.isSome then pass 1
  let (base, width) := baseOf (← rest)
  pass width
  let written := (← rest).takeWhile isIntegerChar
  if written.head?.all (· = '_') then
    return none
  pass written.length
  let least : Int := if sign.isSome then leastInteger else 0
  let greatest : Int := if sign.isSome then greatestInteger else greatestNatural
  let signed (n : Nat) : Int := if sign = some '-' then -n else n
  return ((natural? base (written.filter (· != '_'))).map signed).filter fun n =>
    least ≤ n ∧ n ≤ greatest
where
  /-- The next byte, if there is one. -/
  peek? : Read (Option Char) := do return (← rest).head?

/-- Passes a number with a fraction or an exponent, an infinity or the word for no number. -/
def real : Read Real64 := do
  for (word, value) in words do
    if ← acceptWord word then
      return value
  let written := (← rest).takeWhile isRealChar
  if written.contains '_' then
    pass (written.takeWhile (· != '_')).length
    throw .underscore
  pass written.length
  match decimal? written with
  | some x => return x
  | none => throw (.expected "float")
where
  /-- The words for infinities and for no number. -/
  words : List (String × Real64) :=
    [("inf", .infinite false), ("+inf", .infinite false), ("-inf", .infinite true), ("NaN", .nan),
      ("+NaN", .nan), ("-NaN", .nan)]

/-- Passes a number.  What is no integer is read once more as a number with a fraction, but the line and
    the column stay as they are. -/
def number : Read Number := do
  let bytes ← rest
  let unsigned := if bytes.head?.any fun c => c = '+' || c = '-' then bytes.drop 1 else bytes
  if (unsigned.takeWhile isIntegerChar).length < (unsigned.takeWhile isRealChar).length then
    return .real (← real)
  match ← integer? with
  | some n => return .ofInt n
  | none =>
    modify ({ · with rest := bytes })
    return .real (← real)

/-! ## Texts -/

/-- The value of a hexadecimal digit. -/
def digit (c : Char) : Read Nat := do
  match digitValue? 16 c with
  | some n => return n
  | none => throw (.escape "Non-hex digit found")

/-- Passes up to so many hexadecimal digits before a brace; gives their number and what they write. -/
def digitsInBraces (count : Nat) (passed n : Nat) : Read (Nat × Nat) := do
  match count with
  | 0 => return (passed, n)
  | count + 1 =>
    if (← peek) = '\x7d' then
      return (passed, n)
    let d ← digit (← next)
    digitsInBraces count (passed + 1) (16 * n + d)

/-- Passes a code point in braces. -/
def codePoint : Read Char := do
  if (← next) ≠ '\x7b' then throw (.escape "Missing \x7b in Unicode escape")
  let (count, n) ← digitsInBraces 6 0 0
  if count = 0 then throw (.escape "Expected 1-6 digits, got 0 digits in Unicode escape")
  if (← next) ≠ '\x7d' then throw (.escape "No \x7d at the end of Unicode escape")
  if n.isValidChar then return Char.ofNat n else throw (.escape "Not a valid char")

/-- Passes an escape behind its backslash. -/
def escape : Read Char := do
  match ← next with
  | '\'' => return '\''
  | '"' => return '"'
  | '\\' => return '\\'
  | 'n' => return '\n'
  | 'r' => return '\r'
  | 't' => return '\t'
  | '0' => return '\x00'
  | 'x' =>
    let high ← digit (← next)
    let low ← digit (← next)
    return Char.ofNat (16 * high + low)
  | 'u' => codePoint
  | _ => throw (.escape "Unknown escape character")

/-- Passes the rest of a text in quotes; `done` is what it begins with. -/
def quotedRest (steps : Nat) (done : String) : Read String := do
  let missing : Fault := .expected "end of string"
  match steps with
  | 0 => throw missing
  | steps + 1 =>
    let plain := (← rest).takeWhile fun c => c != '"' && c != '\\'
    match (← rest).drop plain.length with
    | [] => throw missing
    | c :: _ =>
      pass (plain.length + 1)
      let done := done ++ textOf plain
      if c = '"' then
        return done
      quotedRest steps (done.push (← escape))

/-- What comes before a run of bytes, if that comes. -/
def before? (mark : List Char) : List Char → Option (List Char)
  | [] => none
  | c :: bytes =>
    if mark.isPrefixOf (c :: bytes) then some [] else (before? mark bytes).map (c :: ·)

/-- Passes the rest of a text that number signs may enclose. -/
def rawRest : Read String := do
  let signs ← passWhile (· = '#')
  close "\"" "string"
  match before? ('"' :: signs) (← rest) with
  | none => throw (.expected "end of string")
  | some content =>
    pass (content.length + signs.length + 1)
    return textOf content

/-- Passes a text in quotes. -/
def text : Read String := do
  if ← accept "\"" then
    quotedRest ((← rest).length + 1) ""
  else
    close "r" "string"
    rawRest

/-- The most bytes that a character and its closing quote have. -/
def quotedCharWidth : Nat := 5

/-- Passes a character in single quotes. -/
def character : Read Char := do
  close "'" "char"
  let c ←
    if (← peek) = '\\' then do
      pass 1
      escape
    else do
      let window := (← rest).take quotedCharWidth
      let written := window.takeWhile (· != '\'')
      if !window.contains '\'' then throw (.expected "char")
      match (textOf written).toList with
      | [c] =>
        pass written.length
        pure c
      | _ => throw (.expected "char")
  if (← next) ≠ '\'' then throw (.expected "char")
  return c

end Read

end CardServer.Settings.Format.Ron
