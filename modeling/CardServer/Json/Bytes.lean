import CardServer.Json.Reader

/-! # Reading Json from bytes

Bytes that are not UTF-8 are no Json text, and the report says where that was noticed.  Between the
tokens it is noticed at once, as with any character that may not stand there.  In a string it is noticed
behind the closing quote, when the string is put together, unless the reader comes to grief before.

* `ofBytes`    the value of some bytes, or the report of why there is none
* `ofBytes?`   the value alone
-/

namespace CardServer.Json

/-- The characters of some bytes; a byte that belongs to no character stands for itself. -/
def decoded (bytes : ByteArray) : List (Option Char) :=
  go bytes.size 0
where
  /-- The characters from a place on. -/
  go (steps place : Nat) : List (Option Char) :=
    match steps with
    | 0 => []
    | steps + 1 =>
      if place < bytes.size then
        match bytes.utf8DecodeChar? place with
        | some c => some c :: go steps (place + c.utf8Size)
        | none => none :: go steps (place + 1)
      else
        []

/-- What is read in place of a byte that belongs to no character: as long as the byte, and like it
    nothing that may stand between tokens or ends a string. -/
def standIn : Char := '\x7f'

/-- The characters of some bytes as they are read. -/
def legible (marked : List (Option Char)) : List Char := marked.map (·.getD standIn)

/-- What is left behind the first string that holds a byte which belongs to no character, if the reader
    of strings gets as far. -/
def behindBroken? (steps : Nat) (marked : List (Option Char)) : Option (List Char) :=
  match steps with
  | 0 => none
  | steps + 1 =>
    match marked.dropWhile (· ≠ some '"') with
    | [] => none
    | _ :: inside =>
      match readString (legible inside) with
      | .error _ => none
      | .ok (_, rest) =>
        let width := inside.length - rest.length
        if (inside.take width).contains none then
          some rest
        else
          behindBroken? steps (inside.drop width)

/-- The fault in bytes that are not UTF-8: whichever is noticed first, that of the text or that of its
    first broken string. -/
def brokenFault (marked : List (Option Char)) : Fault :=
  match readWhole (legible marked), behindBroken? marked.length marked with
  | .error fault, none => fault
  | .error fault, some rest =>
    if byteLength rest < fault.left then fault else .before .invalidCodePoint rest
  | .ok _, rest => .before .invalidCodePoint (rest.getD [])

/-- Reads the bytes of a Json text, or says why they are none. -/
def ofBytes (bytes : ByteArray) : Except String Json :=
  match String.fromUTF8? bytes with
  | some text =>
    match read text with
    | .ok value => .ok value
    | .error fault => .error (fault.message text)
  | none =>
    let marked := decoded bytes
    .error ((brokenFault marked).message (String.ofList (legible marked)))

/-- The value of the bytes of a Json text. -/
def ofBytes? (bytes : ByteArray) : Option Json := (ofBytes bytes).toOption

end CardServer.Json
