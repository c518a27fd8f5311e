/-! # Internet addresses

Addresses of four bytes and of eight groups of 16 bits, with their customary texts.  Reading accepts
every common spelling, writing chooses one: in an address of eight groups the first longest run of at
least two zero groups is written as two colons, and an address of four bytes embedded in the usual
way ends in its dotted form.
-/

namespace CardServer.Net

/-- An address. -/
inductive Address where
  | v4 (a b c d : UInt8)
  | v6 (groups : List UInt16) (eight : groups.length = 8)
  deriving DecidableEq

namespace Address

/-- All addresses of this host: the address of four bytes that are zero. -/
def unspecified : Address := .v4 0 0 0 0

/-- The address by which a host reaches itself. -/
def loopback : Address := .v4 127 0 0 1

/-! ## Reading -/

/-- The value of a digit to some base, if the character is one. -/
def digit? (base : Nat) (c : Char) : Option Nat :=
  let value :=
    if c.isDigit then c.toNat - '0'.toNat
    else if 'a' ≤ c ∧ c ≤ 'f' then c.toNat - 'a'.toNat + 10
    else if 'A' ≤ c ∧ c ≤ 'F' then c.toNat - 'A'.toNat + 10
    else base
  if value < base then some value else none

/-- The digits to some base at the front of a text, and the text after them. -/
def spanDigits (base : Nat) : List Char → List Nat × List Char
  | [] => ([], [])
  | c :: rest =>
    match digit? base c with
    | some value =>
      let (values, rest) := spanDigits base rest
      (value :: values, rest)
    | none => ([], c :: rest)

/-- The number that some digits write. -/
def ofDigits (base : Nat) (values : List Nat) : Nat := values.foldl (fun n d => n * base + d) 0

/-- Reads one byte in decimal: at most three digits, and no superfluous zero in front. -/
def readByte (text : List Char) : Option (UInt8 × List Char) :=
  let (values, rest) := spanDigits 10 text
  let value := ofDigits 10 values
  if values.isEmpty ∨ 3 < values.length ∨ (values.head? = some 0 ∧ 1 < values.length) ∨
      255 < value then
    none
  else
    some (UInt8.ofNat value, rest)

/-- Reads a character. -/
def expect (c : Char) : List Char → Option (List Char)
  | [] => none
  | d :: rest => if d = c then some rest else none

/-- Reads four bytes with points between them. -/
def readBytes (text : List Char) : Option ((UInt8 × UInt8 × UInt8 × UInt8) × List Char) := do
  let (a, text) ← readByte text
  let (b, text) ← readByte (← expect '.' text)
  let (c, text) ← readByte (← expect '.' text)
  let (d, text) ← readByte (← expect '.' text)
  return ((a, b, c, d), text)

/-- Reads one group: at most four hexadecimal digits. -/
def readGroup (text : List Char) : Option (UInt16 × List Char) :=
  let (values, rest) := spanDigits 16 text
  if values.isEmpty ∨ 4 < values.length then
    none
  else
    some (UInt16.ofNat (ofDigits 16 values), rest)

/-- The group of two bytes. -/
def pairGroup (high low : UInt8) : UInt16 := UInt16.ofNat (high.toNat * 256 + low.toNat)

/-- Reads at most `limit` groups with colons between them; the last two may be written as four bytes.
    Gives the groups, whether they end in four bytes, and the text after them. -/
def readGroups (limit : Nat) (first : Bool) (text : List Char) :
    List UInt16 × Bool × List Char :=
  match limit with
  | 0 => ([], false, text)
  | limit + 1 =>
    let start := if first then some text else expect ':' text
    match (if 0 < limit then start.bind readBytes else none) with
    | some ((a, b, c, d), rest) => ([pairGroup a b, pairGroup c d], true, rest)
    | none =>
      match start.bind readGroup with
      | some (group, rest) =>
        let (groups, dotted, rest) := readGroups limit false rest
        (group :: groups, dotted, rest)
      | none => ([], false, text)

/-- The address of eight groups. -/
def ofGroups? (groups : List UInt16) : Option Address :=
  if h : groups.length = 8 then some (.v6 groups h) else none

/-- Reads an address of eight groups that fills a text. -/
def readV6 (text : List Char) : Option Address :=
  match readGroups 8 true text with
  | (head, dotted, rest) =>
    if head.length = 8 then
      if rest.isEmpty then ofGroups? head else none
    else if dotted then
      none
    else
      match rest with
      | ':' :: ':' :: rest =>
        match readGroups (7 - head.length) true rest with
        | (tail, _, []) =>
          ofGroups? (head ++ List.replicate (8 - head.length - tail.length) 0 ++ tail)
        | _ => none
      | _ => none

/-- Reads an address of four bytes that fills a text. -/
def readV4 (text : List Char) : Option Address :=
  match readBytes text with
  | some ((a, b, c, d), []) => some (.v4 a b c d)
  | _ => none

/-- The address that a text writes. -/
def ofText? (text : String) : Option Address :=
  match readV4 text.toList with
  | some address => some address
  | none => readV6 text.toList

/-! ## Writing -/

/-- Four bytes with points between them. -/
def dottedText (a b c d : UInt8) : String :=
  ".".intercalate ([a, b, c, d].map fun byte => toString byte.toNat)

/-- Groups with colons between them. -/
def groupsText (groups : List UInt16) : String :=
  ":".intercalate (groups.map fun group => String.ofList (Nat.toDigits 16 group.toNat))

/-- The length of the run of zero groups at the front. -/
def zeroRun (groups : List UInt16) : Nat := (groups.takeWhile (· == 0)).length

/-- Where the first longest run of zero groups starts and how long it is. -/
def longestRun : List UInt16 → Nat × Nat
  | [] => (0, 0)
  | group :: rest =>
    let here := zeroRun (group :: rest)
    let (start, length) := longestRun rest
    if length ≤ here then (0, here) else (start + 1, length)

/-- Eight groups in their chosen spelling. -/
def v6Text (groups : List UInt16) : String :=
  match groups with
  | [0, 0, 0, 0, 0, 0xFFFF, high, low] =>
    "::ffff:" ++ dottedText (UInt8.ofNat (high.toNat / 256)) (UInt8.ofNat (high.toNat % 256))
      (UInt8.ofNat (low.toNat / 256)) (UInt8.ofNat (low.toNat % 256))
  | groups =>
    let (start, length) := longestRun groups
    if 1 < length then
      groupsText (groups.take start) ++ "::" ++ groupsText (groups.drop (start + length))
    else
      groupsText groups

/-- The text of an address. -/
def text : Address → String
  | .v4 a b c d => dottedText a b c d
  | .v6 groups _ => v6Text groups

end Address

/-- An address with a port. -/
structure HostPort where
  address : Address
  port : UInt16
  deriving DecidableEq

/-- The text of an address with a port; eight groups stand in brackets. -/
def HostPort.text (endpoint : HostPort) : String :=
  let port := toString endpoint.port.toNat
  match endpoint.address with
  | .v4 .. => endpoint.address.text ++ ":" ++ port
  | .v6 .. => "[" ++ endpoint.address.text ++ "]:" ++ port

end CardServer.Net
