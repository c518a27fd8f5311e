import CardServer.Json.Fault

/-! # Strings in a Json text

Between its quotes a string holds characters from U+0020 on and escapes.  An escape of four
hexadecimal digits denotes a UTF-16 unit; a leading surrogate has to be followed at once by the escape
of a trailing one, and the two together denote one character.

* `length_readEscape_lt`   reading an escape uses up some of the text
-/

namespace CardServer.Json

/-- The value of a hexadecimal digit of either case. -/
def hexDigit? (c : Char) : Option Nat :=
  if c.isDigit then some (c.toNat - '0'.toNat)
  else if 'a' ≤ c ∧ c ≤ 'f' then some (c.toNat - 'a'.toNat + 10)
  else if 'A' ≤ c ∧ c ≤ 'F' then some (c.toNat - 'A'.toNat + 10)
  else none

/-- The number that four hexadecimal digits write. -/
def hexValue? (a b c d : Char) : Option Nat := do
  return (((← hexDigit? a) * 16 + (← hexDigit? b)) * 16 + (← hexDigit? c)) * 16 + (← hexDigit? d)

/-- The fault in a text that does not start with four hexadecimal digits: the text ends within four
    bytes, or those bytes are no digits. -/
def hexFault (text : List Char) : Fault :=
  if byteLength text < 4 then .atEnd .endInString else .within .invalidEscape text 4

/-- Reads four hexadecimal digits from the front of a text. -/
def readHex (text : List Char) : Except Fault (Nat × List Char) :=
  match text with
  | a :: b :: c :: d :: rest =>
    match hexValue? a b c d with
    | some value => .ok (value, rest)
    | none => .error (hexFault text)
  | _ => .error (hexFault text)

/-- Whether a unit is a leading surrogate. -/
def isLeadingSurrogate (unit : Nat) : Bool := 0xD800 ≤ unit && unit ≤ 0xDBFF

/-- Whether a unit is a trailing surrogate. -/
def isTrailingSurrogate (unit : Nat) : Bool := 0xDC00 ≤ unit && unit ≤ 0xDFFF

/-- The code point of a surrogate pair. -/
def pairValue (leading trailing : Nat) : Nat :=
  (leading - 0xD800) * 0x400 + (trailing - 0xDC00) + 0x10000

/-- Reads the escape of the trailing surrogate that has to follow a leading one. -/
def readTrailing (leading : Nat) (text : List Char) : Except Fault (Char × List Char) :=
  match text with
  | [] => .error (.atEnd .endInString)
  | '\\' :: [] => .error (.atEnd .endInString)
  | '\\' :: 'u' :: rest =>
    match readHex rest with
    | .error fault => .error fault
    | .ok (trailing, rest) =>
      if isTrailingSurrogate trailing then
        .ok (Char.ofNat (pairValue leading trailing), rest)
      else
        .error (.before .loneSurrogate rest)
  | '\\' :: rest => .error (.here .unpairedSurrogate rest)
  | rest => .error (.here .unpairedSurrogate rest)

/-- Reads the digits of an escape by number, and the second escape if the first is a leading
    surrogate. -/
def readUnit (text : List Char) : Except Fault (Char × List Char) :=
  match readHex text with
  | .error fault => .error fault
  | .ok (unit, rest) =>
    if isTrailingSurrogate unit then .error (.before .loneSurrogate rest)
    else if isLeadingSurrogate unit then readTrailing unit rest
    else .ok (Char.ofNat unit, rest)

/-- The character that an escape letter stands for. -/
def shortEscape? (letter : Char) : Option Char :=
  match letter with
  | '"' => some '"'
  | '\\' => some '\\'
  | '/' => some '/'
  | 'b' => some '\x08'
  | 'f' => some '\x0c'
  | 'n' => some '\n'
  | 'r' => some '\r'
  | 't' => some '\t'
  | _ => none

/-- Reads what follows the backslash of an escape. -/
def readEscape (text : List Char) : Except Fault (Char × List Char) :=
  match text with
  | [] => .error (.atEnd .endInString)
  | letter :: rest =>
    if letter = 'u' then
      readUnit rest
    else
      match shortEscape? letter with
      | some c => .ok (c, rest)
      | none => .error (.here .invalidEscape text)

private theorem length_readHex_lt {text rest : List Char} {value : Nat}
    (h : readHex text = .ok (value, rest)) : rest.length < text.length := by
  unfold readHex at h
  split at h
  · split at h
    · obtain ⟨-, rfl⟩ := Prod.mk.inj (Except.ok.inj h)
      simp only [List.length_cons]; omega
    · nomatch h
  · nomatch h

private theorem length_readTrailing_lt {leading : Nat} {text rest : List Char} {c : Char}
    (h : readTrailing leading text = .ok (c, rest)) : rest.length < text.length := by
  unfold readTrailing at h
  split at h
  · nomatch h
  · nomatch h
  · split at h
    · nomatch h
    · next hread =>
      split at h
      · obtain ⟨-, rfl⟩ := Prod.mk.inj (Except.ok.inj h)
        have := length_readHex_lt hread
        simp only [List.length_cons]; omega
      · nomatch h
  · nomatch h
  · nomatch h

private theorem length_readUnit_lt {text rest : List Char} {c : Char}
    (h : readUnit text = .ok (c, rest)) : rest.length < text.length := by
  unfold readUnit at h
  split at h
  · nomatch h
  · next hread =>
    have hlt := length_readHex_lt hread
    split at h
    · nomatch h
    · split at h
      · have := length_readTrailing_lt h; omega
      · obtain ⟨-, rfl⟩ := Prod.mk.inj (Except.ok.inj h)
        exact hlt

/-- Reading an escape uses up some of the text. -/
theorem length_readEscape_lt {text rest : List Char} {c : Char}
    (h : readEscape text = .ok (c, rest)) : rest.length < text.length := by
  unfold readEscape at h
  split at h
  · nomatch h
  · split at h
    · have := length_readUnit_lt h; simp only [List.length_cons]; omega
    · split at h
      · obtain ⟨-, rfl⟩ := Prod.mk.inj (Except.ok.inj h)
        simp
      · nomatch h

/-- Reads a string up to its closing quote; `done` holds the characters read so far, the last one
    first. -/
def readChars (done text : List Char) : Except Fault (List Char × List Char) :=
  match text with
  | [] => .error (.atEnd .endInString)
  | c :: rest =>
    if c = '"' then
      .ok (done.reverse, rest)
    else if c = '\\' then
      match _h : readEscape rest with
      | .error fault => .error fault
      | .ok (escaped, rest') => readChars (escaped :: done) rest'
    else if c < ' ' then
      .error (.here .controlCharacter text)
    else
      readChars (c :: done) rest
termination_by text.length
decreasing_by
  · have := length_readEscape_lt _h; simp only [List.length_cons]; omega
  · simp

/-- Reads a string, its opening quote already taken off, from the front of a text. -/
def readString (text : List Char) : Except Fault (String × List Char) :=
  match readChars [] text with
  | .error fault => .error fault
  | .ok (chars, rest) => .ok (String.ofList chars, rest)

end CardServer.Json
