import CardServer.Text.Ranges

/-! # Blank characters

The characters that count as blank between the word marker and the opening quote of a prompt: those
with the Unicode property White_Space.  The separators U+001C to U+001F, the Mongolian vowel
separator, the zero width space and the byte order mark lack the property and are not blank.
-/

namespace CardServer.Text

/-- The ranges of code points with the property White_Space, in increasing order. -/
def blankRanges : List (Nat × Nat) :=
  [(0x09, 0x0D), (0x20, 0x20), (0x85, 0x85), (0xA0, 0xA0), (0x1680, 0x1680), (0x2000, 0x200A),
    (0x2028, 0x2029), (0x202F, 0x202F), (0x205F, 0x205F), (0x3000, 0x3000)]

/-- Whether a character has the property White_Space. -/
def isBlank (c : Char) : Bool :=
  isWithin blankRanges c

/-- No blank character is a double quote. -/
theorem isBlank_quote : isBlank '"' = false := by decide

/-- The part of a text after its leading blank characters. -/
def skipBlanks (text : List Char) : List Char :=
  text.dropWhile isBlank

/-- Skipping blanks drops a run of blank characters and nothing else. -/
theorem takeWhile_append_skipBlanks (text : List Char) :
    text.takeWhile isBlank ++ skipBlanks text = text :=
  List.takeWhile_append_dropWhile

end CardServer.Text
