/-! # What is wrong with a file of blocks

Every place in a file has a `Mark`, and a `Fault` is some trouble at a mark.  The wording of a fault gives
the mark as a count of characters, a line and a column.
-/

namespace CardServer.Settings.Format.Yaml

/-- A place in a file: how many characters are before it, the number of its line, and how many
    characters are before it on the line. -/
structure Mark where
  index : Nat := 0
  line : Nat := 1
  column : Nat := 0
  deriving DecidableEq, Repr

/-- What can be wrong in some place. -/
inductive Trouble where
  | nothingExpected
  /-- A nesting without end. -/
  | tooDeep
  /-- A character that starts nothing. -/
  | stray (c : Char)
  | badIndentation
  | tabInIndentation
  | tab
  | tightComment
  | afterDocumentEnd
  -- Keys and values.
  | keyWithoutColon
  | keyExpected
  | keyNotAllowed
  | valueNotAllowed
  | itemNotAllowed
  | itemInFlow
  | anchorIndentation
  | tabAfterDash
  | tabAfterColon
  | blankExpected
  | misplacedColon
  -- Directives.
  | directiveName
  | directiveLetter
  | directiveEnd
  | versionMark
  | versionNumber
  | versionLength
  | tagDirectiveMark
  | tagDirectiveEnd
  | tagPrefix
  -- Tags and anchors.
  | tagMark
  | tagAddress
  | tagEnd
  | tagBracket
  | tagEscape
  | tagFirstByte
  | tagNextByte
  | tagCodePoint
  | anchorName
  -- Texts.
  | blockIndicatorZero
  | blockHeader
  | blockTab
  | blockIndentation
  | quotedDocument
  | quotedOpen
  | quotedIndentation
  | quotedTab
  | quotedEscape
  | quotedDigits
  | quotedCodePoint
  | quotedEnd
  | flowIndentation
  | plainDash
  | plainTab
  | plainEmpty
  -- Documents.
  | documentStart
  | secondVersion
  | directiveBeforeEnd
  | unknownHandle
  | unknownAnchor
  | nodeExpected
  | keyOfBlockExpected
  | dashExpected
  | flowMappingEnd
  | flowSequenceEnd
  /-- A key that its mapping has already, as it is shown. -/
  | repeatedKey (shown : String)
  deriving DecidableEq, Repr

/-- The wording of some trouble. -/
def Trouble.text : Trouble → String
  | .nothingExpected => "unexpected eof"
  | .tooDeep => "recursion limit exceeded"
  | .stray c => "unexpected character: `" ++ c.toString ++ "'"
  | .badIndentation => "invalid indentation"
  | .tabInIndentation => "tabs disallowed within this context (block indentation)"
  | .tab => "tabs disallowed in this context"
  | .tightComment => "comments must be separated from other tokens by whitespace"
  | .afterDocumentEnd => "invalid content after document end marker"
  | .keyWithoutColon => "simple key expect ':'"
  | .keyExpected => "simple key expected"
  | .keyNotAllowed => "mapping keys are not allowed in this context"
  | .valueNotAllowed => "mapping values are not allowed in this context"
  | .itemNotAllowed => "block sequence entries are not allowed in this context"
  | .itemInFlow => "\"-\" is only valid inside a block"
  | .anchorIndentation => "invalid indentation for anchor"
  | .tabAfterDash => "'-' must be followed by a valid YAML whitespace"
  | .tabAfterColon => "':' must be followed by a valid YAML whitespace"
  | .blankExpected => "expected whitespace"
  | .misplacedColon => "illegal placement of ':' indicator"
  | .directiveName => "while scanning a directive, could not find expected directive name"
  | .directiveLetter => "while scanning a directive, found unexpected non-alphabetical character"
  | .directiveEnd => "while scanning a directive, did not find expected comment or line break"
  | .versionMark => "while scanning a YAML directive, did not find expected digit or '.' character"
  | .versionNumber => "while scanning a YAML directive, did not find expected version number"
  | .versionLength => "while scanning a YAML directive, found extremely long version number"
  | .tagDirectiveMark => "while parsing a tag directive, did not find expected '!'"
  | .tagDirectiveEnd => "while scanning TAG, did not find expected whitespace or line break"
  | .tagPrefix => "invalid global tag character"
  | .tagMark => "while scanning a tag, did not find expected '!'"
  | .tagAddress => "while parsing a tag, did not find expected tag URI"
  | .tagEnd => "while scanning a tag, did not find expected whitespace or line break"
  | .tagBracket => "while scanning a verbatim tag, did not find the expected '>'"
  | .tagEscape => "while parsing a tag, did not find URI escaped octet"
  | .tagFirstByte => "while parsing a tag, found an incorrect leading UTF-8 octet"
  | .tagNextByte => "while parsing a tag, found an incorrect trailing UTF-8 octet"
  | .tagCodePoint => "while parsing a tag, found an invalid UTF-8 codepoint"
  | .anchorName =>
    "while scanning an anchor or alias, did not find expected alphabetic or numeric character"
  | .blockIndicatorZero => "while scanning a block scalar, found an indentation indicator equal to 0"
  | .blockHeader => "while scanning a block scalar, did not find expected comment or line break"
  | .blockTab => "a block scalar content cannot start with a tab"
  | .blockIndentation => "wrongly indented line in block scalar"
  | .quotedDocument => "while scanning a quoted scalar, found unexpected document indicator"
  | .quotedOpen => "while scanning a quoted scalar, found unexpected end of stream"
  | .quotedIndentation => "invalid indentation in quoted scalar"
  | .quotedTab => "tab cannot be used as indentation"
  | .quotedEscape => "while parsing a quoted scalar, found unknown escape character"
  | .quotedDigits => "while parsing a quoted scalar, did not find expected hexadecimal number"
  | .quotedCodePoint => "while parsing a quoted scalar, found invalid Unicode character escape code"
  | .quotedEnd => "invalid trailing content after double-quoted scalar"
  | .flowIndentation => "invalid indentation in flow construct"
  | .plainDash => "plain scalar cannot start with '-' followed by ,[]\x7b\x7d"
  | .plainTab => "while scanning a plain scalar, found a tab"
  | .plainEmpty => "unexpected end of plain scalar"
  | .documentStart => "did not find expected <document start>"
  | .secondVersion => "duplicate version directive"
  | .directiveBeforeEnd => "missing explicit document end marker before directive"
  | .unknownHandle => "the handle wasn't declared"
  | .unknownAnchor => "while parsing node, found unknown anchor"
  | .nodeExpected => "while parsing a node, did not find expected node content"
  | .keyOfBlockExpected => "while parsing a block mapping, did not find expected key"
  | .dashExpected => "while parsing a block collection, did not find expected '-' indicator"
  | .flowMappingEnd => "while parsing a flow mapping, did not find expected ',' or '\x7d'"
  | .flowSequenceEnd => "while parsing a flow sequence, expected ',' or ']'"
  | .repeatedKey shown => shown ++ ": duplicated key in mapping"

/-- Some trouble in a place. -/
structure Fault where
  trouble : Trouble
  mark : Mark
  deriving DecidableEq, Repr

/-- The wording of a fault. -/
def Fault.message (fault : Fault) : String :=
  fault.trouble.text ++ " at byte " ++ toString fault.mark.index ++ " line " ++
    toString fault.mark.line ++ " column " ++ toString (fault.mark.column + 1)

end CardServer.Settings.Format.Yaml
