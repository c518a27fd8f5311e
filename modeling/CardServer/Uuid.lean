/-! # Random identifiers

A random UUID: 122 bits of chance, the version digit 4 and the variant bits 10, written as 32 lower-case
hexadecimal digits in groups of 8, 4, 4, 4 and 12.
-/

namespace CardServer

/-- An identifier as its 32 hexadecimal digits, all below 16. -/
structure Uuid where
  digit : Fin 32 → Fin 16

namespace Uuid

/-- The digits of a random identifier, taken from 128 bits of chance: digit 12 is the version, and the
    two high bits of digit 16 are the variant. -/
def ofRandom (bits : BitVec 128) : Uuid where
  digit i :=
    let chance := bits.toNat / Nat.pow 16 (31 - i.val) % 16
    if i.val = 12 then 4
    -- Two bits of chance are left to the variant digit.
    else if i.val = 16 then Fin.ofNat 16 (8 + chance % 4)
    else Fin.ofNat 16 chance

/-- The written form of a digit. -/
def digitChar (digit : Fin 16) : Char := Nat.digitChar digit.val

/-- The digits of some positions in their written form. -/
def group (id : Uuid) (first count : Nat) : List Char :=
  ((List.finRange 32).filter fun i => first ≤ i.val && i.val < first + count).map fun i =>
    digitChar (id.digit i)

/-- The written form. -/
def chars (id : Uuid) : List Char :=
  id.group 0 8 ++ '-' :: (id.group 8 4 ++ '-' :: (id.group 12 4 ++ '-' ::
    (id.group 16 4 ++ '-' :: id.group 20 12)))

/-- The written form of an identifier. -/
def text (id : Uuid) : String := String.ofList id.chars

end Uuid

end CardServer
