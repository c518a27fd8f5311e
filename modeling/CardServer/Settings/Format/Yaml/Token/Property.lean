import CardServer.Settings.Format.Numeral
import CardServer.Settings.Format.Yaml.Token.Walk

/-! # Directives, tags and anchors

What stands before a document or in front of a value and is no value itself.  A tag is a handle with a
suffix, in which bytes may be written with a percent sign.
-/

namespace CardServer.Settings.Format.Yaml.Walk

/-! ## Tags -/

/-- Whether a character may stand in the address of a tag. -/
def isAddress (c : Char) : Bool :=
  (isWord c && c != '_') || "#;/?:@&=+$,_.!~*'()[]%".toList.contains c

/-- Whether a character may stand in the suffix of a tag. -/
def isSuffix (c : Char) : Bool := isAddress c && !isFlow c && c != '!'

/-- How many bytes a character has by the first of them. -/
def widthOf? (byte : Nat) : Option Nat :=
  if byte < 0x80 then some 1
  else if 0xC0 ≤ byte ∧ byte < 0xE0 then some 2
  else if 0xE0 ≤ byte ∧ byte < 0xF0 then some 3
  else if 0xF0 ≤ byte ∧ byte < 0xF8 then some 4
  else none

/-- Passes a byte that is written with a percent sign. -/
def escapedByte (start : Mark) : Walk Nat := do
  match (← get).rest with
  | '%' :: high :: low :: _ =>
    match digitValue? 16 high, digitValue? 16 low with
    | some high, some low =>
      passMany 3
      return 16 * high + low
    | _, _ => failAt start .tagEscape
  | _ => failAt start .tagEscape

/-- Passes the further bytes of a character; the bytes are put together as they are. -/
def escapedRest (start : Mark) (count code : Nat) : Walk Nat := do
  match count with
  | 0 => return code
  | count + 1 =>
    let byte ← escapedByte start
    if byte < 0x80 ∨ 0xC0 ≤ byte then failAt start .tagNextByte
    escapedRest start count (256 * code + byte)

/-- Passes a character whose bytes are written with percent signs. -/
def escapedChar (start : Mark) : Walk Char := do
  let first ← escapedByte start
  match widthOf? first with
  | none => failAt start .tagFirstByte
  | some width =>
    let code ← escapedRest start (width - 1) first
    if code.isValidChar then return Char.ofNat code else failAt start .tagCodePoint

/-- Passes characters of a class, in which bytes may be written with percent signs. -/
def address (p : Char → Bool) (start : Mark) (steps : Nat) : Walk (List Char) := do
  match steps with
  | 0 => return []
  | steps + 1 =>
    let c ← look
    if !p c then
      return []
    let c ← if c = '%' then escapedChar start else do pass *> pure c
    return c :: (← address p start steps)

/-- Passes the handle of a tag. -/
def handle (inDirective : Bool) (start : Mark) : Walk (List Char) := do
  if (← look) ≠ '!' then failAt start .tagMark
  pass
  let word ← passWhile isWord
  if (← look) = '!' then
    pass
    return '!' :: (word ++ ['!'])
  if inDirective ∧ word ≠ [] then failAt start .tagDirectiveMark
  return '!' :: word

/-- Passes a tag in angle brackets. -/
def bracketedTag (start : Mark) (steps : Nat) : Walk Token := do
  passMany 2
  let address ← address isAddress start steps
  if (← look) ≠ '>' then failAt start .tagBracket
  pass
  return .tag "" (String.ofList address)

/-- Passes a tag with a handle; without a second exclamation mark the handle is the first one. -/
def handledTag (start : Mark) (steps : Nat) : Walk Token := do
  let handle ← handle false start
  let named := 2 ≤ handle.length && handle.getLast? = some '!'
  let head := if named then [] else handle
  let suffix := head.drop 1 ++ (← address isSuffix start steps)
  if head.isEmpty ∧ suffix.isEmpty then failAt start .tagAddress
  if named then return .tag (String.ofList handle) (String.ofList suffix)
  else if suffix.isEmpty then return .tag "" "!"
  else return .tag "!" (String.ofList suffix)

/-- Passes a tag. -/
def tag (steps : Nat) : Walk Unit := do
  let start ← place
  saveCandidate
  allowKey false
  let token ← if (← ahead 1) = '<' then bracketedTag start steps else handledTag start steps
  let c ← look
  if !(isBlankOrEnd c || (0 < (← get).depth && isFlow c)) then failAt start .tagEnd
  emit start token

/-! ## Anchors -/

/-- Whether a character may stand in the name of an anchor. -/
def isName (c : Char) : Bool := !isBlankOrEnd c && !isFlow c && c != '\ufeff'

/-- Passes an anchor or an alias. -/
def anchor (make : String → Token) : Walk Unit := do
  let start ← place
  saveCandidate
  allowKey false
  pass
  let name ← passWhile isName
  if name.isEmpty then failAt start .anchorName
  emit start (make (String.ofList name))

/-! ## Directives -/

/-- How many digits a number of a version may have. -/
def versionDigits : Nat := 9

/-- Passes a number of a version. -/
def versionNumber (start : Mark) : Walk Unit := do
  let digits ← passWhile Char.isDigit
  if versionDigits < digits.length then failAt start .versionLength
  if digits.isEmpty then failAt start .versionNumber

/-- Passes the version that a file asks for. -/
def version (start : Mark) : Walk Token := do
  passBlanksWhile isBlank
  versionNumber start
  if (← look) ≠ '.' then failAt start .versionMark
  pass
  versionNumber start
  return .sign .version

/-- Passes the handle that a directive declares and what it stands for. -/
def tagDirective (start : Mark) (steps : Nat) : Walk Token := do
  passBlanksWhile isBlank
  let handle ← handle true start
  passBlanksWhile isBlank
  let c ← look
  if c ≠ '!' ∧ !isSuffix c then failAt start .tagPrefix
  let first ← if c = '%' then escapedChar start else do pass *> pure c
  let others ← address isAddress start steps
  if !isBlankOrEnd (← look) then failAt start .tagDirectiveEnd
  return .tagDirective (String.ofList handle) (String.ofList (first :: others))

/-- Passes a directive; one that is not known says nothing. -/
def directive (steps : Nat) : Walk Unit := do
  unroll (-1)
  dropCandidate
  allowKey false
  let start ← place
  pass
  let nameStart ← place
  let name ← passWhile isWord
  if name.isEmpty then failAt nameStart .directiveName
  if !isBlankOrEnd (← look) then failAt nameStart .directiveLetter
  let token ←
    if name = "YAML".toList then version start
    else if name = "TAG".toList then tagDirective start steps
    else do
      passComment
      pure (.tagDirective "" "")
  let _ ← passToEnd true
  if !isBreakOrEnd (← look) then failAt start .directiveEnd
  passBreak
  emit start token

end CardServer.Settings.Format.Yaml.Walk
