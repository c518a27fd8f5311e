/-! # Request targets

A request target is a path with an optional query, or an absolute form with a scheme and an
authority in front, or an authority alone, or a single asterisk.  A fragment is allowed after path or
query and is dropped.  `Uri.ofText` reads a target, `Uri.text` writes it.

The reader is lenient in the path and the query, where quotes, braces and characters beyond ASCII pass
as they are, and strict in the authority.
-/

namespace CardServer.Http

/-- A request target. -/
structure Uri where
  scheme : Option String
  authority : Option String
  /-- The path as written; the absolute form has at least a slash, an authority alone has nothing. -/
  path : String
  query : Option String
  deriving DecidableEq, Repr

/-- Why a text is no request target. -/
inductive Uri.Fault where
  | empty
  | tooLong
  | invalidChar
  | invalidFormat
  | invalidAuthority
  | schemeTooLong
  deriving DecidableEq, Repr

/-- The wording of a fault. -/
def Uri.Fault.message : Uri.Fault → String
  | .empty => "empty string"
  | .tooLong => "uri too long"
  | .invalidChar => "invalid uri character"
  | .invalidFormat => "invalid format"
  | .invalidAuthority => "invalid authority"
  | .schemeTooLong => "scheme too long"

namespace Uri

/-- The greatest length of a target in bytes. -/
def greatestLength : Nat := 65534

/-- The greatest length of a scheme. -/
def greatestSchemeLength : Nat := 64

/-- The characters that are neither allowed in a path nor in a query. -/
def isForbidden (c : Char) : Bool := c ≤ ' ' || c = '\x7f' || c = '<' || c = '>' || c = '#'

/-- Whether a character may stand in a path. -/
def isPathChar (c : Char) : Bool := !isForbidden c && c != '?' && c != '\x60'

/-- Whether a character may stand in a query. -/
def isQueryChar (c : Char) : Bool := !isForbidden c && c != '"'

/-- Whether a character may stand in a scheme. -/
def isSchemeChar (c : Char) : Bool := c.isAlphanum || c = '+' || c = '-' || c = '.' || c = '~'

/-- Whether a character ends an authority. -/
def endsAuthority (c : Char) : Bool := c = '/' || c = '?' || c = '#'

/-- The punctuation without a role that may stand in an authority. -/
def authorityPunctuation : List Char := "!$&'()*+,-.;=_~".toList

/-- Reads the query behind its question mark. -/
def readQuery (text : List Char) : Except Fault (List Char) :=
  let query := text.takeWhile (· != '#')
  if query.all isQueryChar then .ok query else .error .invalidChar

/-- Reads a path and the query behind it. -/
def readPath (text : List Char) : Except Fault (List Char × Option (List Char)) :=
  let path := text.takeWhile fun c => c != '?' && c != '#'
  if path.all isPathChar then
    match text.drop path.length with
    | '?' :: rest =>
      match readQuery rest with
      | .ok query => .ok (path, some query)
      | .error fault => .error fault
    | _ => .ok (path, none)
  else
    .error .invalidChar

/-- What has been seen of an authority so far. -/
structure AuthorityScan where
  /-- Colons since the last bracket or at sign. -/
  colons : Nat
  opened : Bool
  closed : Bool
  /-- A percent sign since the last bracket or at sign. -/
  percent : Bool
  /-- Whether the last character was an at sign. -/
  afterAt : Bool

/-- Takes in one more character of an authority. -/
def AuthorityScan.step (scan : AuthorityScan) (c : Char) : Except Fault AuthorityScan :=
  match c with
  | ':' =>
    if 8 ≤ scan.colons then
      .error .invalidAuthority
    else
      .ok { scan with colons := scan.colons + 1, afterAt := false }
  | '[' =>
    if scan.percent || scan.opened then
      .error .invalidAuthority
    else
      .ok { scan with opened := true, afterAt := false }
  | ']' =>
    if !scan.opened || scan.closed then
      .error .invalidAuthority
    else
      .ok { scan with closed := true, colons := 0, percent := false, afterAt := false }
  | '@' => .ok { scan with colons := 0, percent := false, afterAt := true }
  | '%' => .ok { scan with percent := true, afterAt := false }
  | c =>
    if c.isAlphanum || authorityPunctuation.contains c then
      .ok { scan with afterAt := false }
    else
      .error .invalidChar

/-- Checks an authority: one pair of brackets at most, nothing but a port behind a colon, something
    behind an at sign, and percent signs only in front of one. -/
def checkAuthority (text : List Char) : Except Fault Unit := do
  let scan ← text.foldlM AuthorityScan.step ⟨0, false, false, false, false⟩
  if scan.opened != scan.closed || 1 < scan.colons || scan.afterAt || scan.percent then
    throw .invalidAuthority

/-- Cuts a scheme other than the two well-known ones from the front of a text. -/
def otherScheme (text : List Char) : Except Fault (Option (List Char × List Char)) :=
  let scheme := text.takeWhile isSchemeChar
  match text.drop scheme.length with
  | ':' :: '/' :: '/' :: rest =>
    if (text.length ≤ 3 : Bool) then .ok none
    else if greatestSchemeLength < scheme.length then .error .schemeTooLong
    else .ok (some (scheme, rest))
  | _ => .ok none

/-- Cuts a scheme from the front of a text; the well-known ones are told in either case. -/
def readScheme (text : List Char) : Except Fault (Option (List Char × List Char)) :=
  let lower := (text.take 8).map Char.toLower
  if "http://".toList.isPrefixOf lower then
    .ok (some ("http".toList, text.drop 7))
  else if "https://".toList.isPrefixOf lower then
    .ok (some ("https".toList, text.drop 8))
  else
    otherScheme text

/-- The target with some authority, a path and perhaps a scheme and a query. -/
def ofChars (scheme authority : Option (List Char)) (path : List Char)
    (query : Option (List Char)) : Uri :=
  ⟨scheme.map String.ofList, authority.map String.ofList, String.ofList path,
    query.map String.ofList⟩

/-- Reads a target that is neither empty nor starts with a slash. -/
def readFull (text : List Char) : Except Fault Uri := do
  match ← readScheme text with
  | none =>
    let authority := text.takeWhile (!endsAuthority ·)
    checkAuthority authority
    if authority.length = text.length then
      return ofChars none (some authority) [] none
    else
      throw (if text.length = 1 then .invalidChar else .invalidFormat)
  | some (_, []) => throw .empty
  | some (scheme, rest) =>
    let authority := rest.takeWhile (!endsAuthority ·)
    checkAuthority authority
    if authority.isEmpty then
      throw .invalidFormat
    else
      let (path, query) ← readPath (rest.drop authority.length)
      return ofChars (some scheme) (some authority) (if path.isEmpty then ['/'] else path) query

/-- Reads a request target. -/
def ofText (text : String) : Except Fault Uri :=
  if greatestLength < text.utf8ByteSize then
    .error .tooLong
  else
    match text.toList with
    | [] => .error .empty
    | ['*'] => .ok (ofChars none none ['*'] none)
    | '/' :: rest =>
      match readPath ('/' :: rest) with
      | .ok (path, query) => .ok (ofChars none none path query)
      | .error fault => .error fault
    | chars => readFull chars

/-- The text of a request target. -/
def text (uri : Uri) : String :=
  let scheme := match uri.scheme with
    | some scheme => scheme ++ "://"
    | none => ""
  let query := match uri.query with
    | some query => "?" ++ query
    | none => ""
  scheme ++ uri.authority.getD "" ++ uri.path ++ query

end Uri

end CardServer.Http
