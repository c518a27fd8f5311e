/-! # Classes of characters as ranges of code points

The classes of the Unicode standard are kept as tables of ranges in increasing order.
-/

namespace CardServer.Text

/-- Whether a character lies in one of some ranges of code points; both ends of a range belong to it. -/
def isWithin (ranges : List (Nat × Nat)) (c : Char) : Bool :=
  ranges.any fun range => range.1 ≤ c.toNat && c.toNat ≤ range.2

end CardServer.Text
