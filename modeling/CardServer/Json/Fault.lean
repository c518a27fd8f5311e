/-! # Where and why a Json text cannot be read

A fault names its cause and how many bytes of the text were left when it was noticed.  Against the
whole text that count becomes a line and a column, both counted in bytes: the column is the number
of bytes between the last line feed and the point of the fault.
-/

namespace CardServer.Json

/-- Why a text is not a Json text. -/
inductive Cause where
  | endInList
  | endInObject
  | endInString
  | endInValue
  | expectedColon
  | expectedCommaOrBracket
  | expectedCommaOrBrace
  | expectedIdent
  | expectedValue
  | invalidCodePoint
  | invalidEscape
  | invalidNumber
  | numberOutOfRange
  | controlCharacter
  | keyNotString
  | loneSurrogate
  | unpairedSurrogate
  | trailingComma
  | trailingCharacters
  | nestingTooDeep
  deriving DecidableEq, Repr

/-- The wording of a cause. -/
def Cause.message : Cause → String
  | .endInList => "EOF while parsing a list"
  | .endInObject => "EOF while parsing an object"
  | .endInString => "EOF while parsing a string"
  | .endInValue => "EOF while parsing a value"
  | .expectedColon => "expected `:`"
  | .expectedCommaOrBracket => "expected `,` or `]`"
  | .expectedCommaOrBrace => "expected `,` or `\x7d`"
  | .expectedIdent => "expected ident"
  | .expectedValue => "expected value"
  | .invalidCodePoint => "invalid unicode code point"
  | .invalidEscape => "invalid escape"
  | .invalidNumber => "invalid number"
  | .numberOutOfRange => "number out of range"
  | .controlCharacter => "control character (\\u0000-\\u001F) found while parsing a string"
  | .keyNotString => "key must be a string"
  | .loneSurrogate => "lone leading surrogate in hex escape"
  | .unpairedSurrogate => "unexpected end of hex escape"
  | .trailingComma => "trailing comma"
  | .trailingCharacters => "trailing characters"
  | .nestingTooDeep => "recursion limit exceeded"

/-- A cause, and how many bytes of the text were left where it was noticed. -/
structure Fault where
  cause : Cause
  left : Nat
  deriving DecidableEq, Repr

/-- How many bytes the UTF-8 form of some characters has. -/
def byteLength (text : List Char) : Nat :=
  text.foldl (fun total c => total + c.utf8Size) 0

namespace Fault

/-- A fault noticed in front of the text that is left. -/
def before (cause : Cause) (rest : List Char) : Fault := ⟨cause, byteLength rest⟩

/-- A fault noticed `count` bytes into the text that is left, or at its end if that comes first. -/
def within (cause : Cause) (rest : List Char) (count : Nat) : Fault :=
  ⟨cause, byteLength rest - count⟩

/-- A fault at the next byte of the text that is left. -/
def here (cause : Cause) (rest : List Char) : Fault := within cause rest 1

/-- A fault at the end of the text. -/
def atEnd (cause : Cause) : Fault := ⟨cause, 0⟩

/-- The line and the column of a fault in a text, counted in bytes. -/
def position (fault : Fault) (text : String) : Nat × Nat :=
  let bytes := text.toUTF8.data.toList
  let passed := bytes.take (bytes.length - fault.left)
  let lineFeed : UInt8 := 10
  (passed.count lineFeed + 1, (passed.reverse.takeWhile (· != lineFeed)).length)

/-- The report of a fault in a text: its cause and where it is. -/
def message (fault : Fault) (text : String) : String :=
  let (line, column) := fault.position text
  fault.cause.message ++ " at line " ++ toString line ++ " column " ++ toString column

end Fault

end CardServer.Json
