/-! # Walking through a text

The readers of the file formats walk through the characters of a file and give up at the first one
that does not fit.  `Scan` is such a walk: it takes characters from the front of what is left and
gives a result, or stops at an obstacle.  What an obstacle is, each format says itself.
-/

namespace CardServer.Settings.Format

/-- Why a walk stopped, and what of the text was left then. -/
structure Stop (ε : Type) where
  obstacle : ε
  left : List Char
  deriving DecidableEq, Repr

/-- How many lines end before some characters do, and how many characters follow the last line end. -/
def placeAfter (passed : List Char) : Nat × Nat :=
  (passed.count '\n', (passed.reverse.takeWhile (· != '\n')).length)

/-- What was passed of a text before a walk stopped. -/
def Stop.passed {ε : Type} (stop : Stop ε) (text : String) : List Char :=
  text.toList.take (text.length - stop.left.length)

/-- A walk through the characters of a text. -/
abbrev Scan (ε α : Type) := StateT (List Char) (Except (Stop ε)) α

namespace Scan

variable {ε α : Type}

/-- Stops at an obstacle in front of some rest of the text. -/
def stopAt (left : List Char) (obstacle : ε) : Scan ε α := fun _ => .error ⟨obstacle, left⟩

/-- Stops at an obstacle that is next. -/
def stop (obstacle : ε) : Scan ε α := fun rest => .error ⟨obstacle, rest⟩

/-- The next character, left where it is. -/
def peek? : Scan ε (Option Char) := do return (← get).head?

/-- Takes some characters and forgets them. -/
def drop (count : Nat) : Scan ε Unit := modify (·.drop count)

/-- Takes certain characters if they are next, and tells whether they were. -/
def accept (text : String) : Scan ε Bool := do
  let rest ← get
  if text.toList.isPrefixOf rest then
    set (rest.drop text.length)
    return true
  else
    return false

/-- Takes the longest run of characters of a class. -/
def span (p : Char → Bool) : Scan ε (List Char) := do
  let rest ← get
  set (rest.dropWhile p)
  return rest.takeWhile p

/-- Takes the longest run of characters of a class and forgets it. -/
def skip (p : Char → Bool) : Scan ε Unit := modify (·.dropWhile p)

/-- Runs a walk that has to reach the end of the text; what is left behind it is an obstacle. -/
def whole (scan : Scan ε α) (leftover : ε) (text : String) : Except (Stop ε) α :=
  match scan.run text.toList with
  | .ok (value, []) => .ok value
  | .ok (_, rest) => .error ⟨leftover, rest⟩
  | .error stop => .error stop

end Scan

end CardServer.Settings.Format
