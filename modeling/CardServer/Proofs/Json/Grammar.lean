import CardServer.Json.Reader

/-! # The grammar of Json texts

RFC 8259 as an inductive relation between texts and what they stand for, beside the reader: what is
blank, how a character of a string may be spelled, what a numeral is, and how values, items and members
are put together.  A text may be written in many ways, so nothing here runs.

The shape of a text is said here without the reader.  What a numeral is worth is not: which number it
stands for, and that it stands for none beyond the greatest one, is `Numeral.value?`, which the reader
goes by as well.  The other bound of the reader is a number of its own here: arrays and objects are
nested at most as deep as `Derives` allows.

* `StringText`   how a string may be written
* `Derives`      how a value, and every part of an array or object, may be written
* `IsText`       how a value may be written if it fills a whole text
* `IsEncoding`   how a value may be written in bytes
-/

namespace CardServer.Json.Grammar

/-- Blanks between the tokens of a text. -/
def Blanks (text : List Char) : Prop := ∀ c ∈ text, c ∈ [' ', '\t', '\n', '\r']

/-! ## Strings -/

/-- A hexadecimal digit, in either case, and its value. -/
def IsHexDigit (c : Char) (value : Nat) : Prop :=
  "0123456789abcdef".toList[value]? = some c ∨ "0123456789ABCDEF".toList[value]? = some c

/-- The escape of a UTF-16 unit by its number. -/
inductive UnitEscape : List Char → Nat → Prop
  | mk {a b c d : Char} {i j k l : Nat} : IsHexDigit a i → IsHexDigit b j → IsHexDigit c k →
      IsHexDigit d l → UnitEscape ['\\', 'u', a, b, c, d] (((i * 16 + j) * 16 + k) * 16 + l)

/-- The letters that may follow a backslash, with the characters that they stand for. -/
def letterEscapes : List (Char × Char) :=
  [('"', '"'), ('\\', '\\'), ('/', '/'), ('b', '\x08'), ('f', '\x0c'), ('n', '\n'), ('r', '\r'),
    ('t', '\t')]

/-- The spellings of a character in a string: the character itself, a letter behind a backslash, or
    the escapes of its one or two UTF-16 units. -/
inductive Spelling : List Char → Char → Prop
  | plain {c : Char} : ' ' ≤ c → c ≠ '"' → c ≠ '\\' → Spelling [c] c
  | letter {letter c : Char} : (letter, c) ∈ letterEscapes → Spelling ['\\', letter] c
  | unit {text : List Char} {c : Char} : UnitEscape text c.toNat → Spelling text c
  | pair {leading trailing : List Char} {c : Char} : 0x10000 ≤ c.toNat →
      UnitEscape leading (0xD800 + (c.toNat - 0x10000) / 0x400) →
      UnitEscape trailing (0xDC00 + (c.toNat - 0x10000) % 0x400) →
      Spelling (leading ++ trailing) c

/-- The spellings of some characters one after the other. -/
inductive Spellings : List Char → List Char → Prop
  | nil : Spellings [] []
  | cons {text more : List Char} {c : Char} {chars : List Char} : Spelling text c →
      Spellings more chars → Spellings (text ++ more) (c :: chars)

/-- A string in its quotes. -/
inductive StringText : List Char → String → Prop
  | mk {text : List Char} {value : String} : Spellings text value.toList →
      StringText ('"' :: (text ++ ['"'])) value

/-! ## Numerals -/

/-- A run of decimal digits that is not empty. -/
def Digits (text : List Char) : Prop := text ≠ [] ∧ ∀ c ∈ text, c.isDigit = true

/-- The integer part of a numeral: no zero in front of further digits. -/
def IntegerText (text : List Char) : Prop := Digits text ∧ (text.head? = some '0' → text = ['0'])

/-- The fraction of a numeral, if it has one. -/
inductive FractionText : List Char → Option (List Char) → Prop
  | absent : FractionText [] none
  | present {digits : List Char} : Digits digits → FractionText ('.' :: digits) (some digits)

/-- The exponent of a numeral, if it has one; `true` is a minus sign. -/
inductive ExponentText : List Char → Option (Bool × List Char) → Prop
  | absent : ExponentText [] none
  | unsigned {mark : Char} {digits : List Char} : mark ∈ ['e', 'E'] → Digits digits →
      ExponentText (mark :: digits) (some (false, digits))
  | plus {mark : Char} {digits : List Char} : mark ∈ ['e', 'E'] → Digits digits →
      ExponentText (mark :: '+' :: digits) (some (false, digits))
  | minus {mark : Char} {digits : List Char} : mark ∈ ['e', 'E'] → Digits digits →
      ExponentText (mark :: '-' :: digits) (some (true, digits))

/-- A numeral without its minus sign. -/
inductive UnsignedText : List Char → Numeral → Prop
  | mk {negative : Bool} {integer fractionText exponentText : List Char}
      {fraction : Option (List Char)} {exponent : Option (Bool × List Char)} :
      IntegerText integer → FractionText fractionText fraction →
      ExponentText exponentText exponent →
      UnsignedText (integer ++ (fractionText ++ exponentText))
        ⟨negative, integer, fraction, exponent⟩

/-- A numeral. -/
inductive NumeralText : List Char → Numeral → Prop
  | positive {text : List Char} {numeral : Numeral} : numeral.negative = false →
      UnsignedText text numeral → NumeralText text numeral
  | negative {text : List Char} {numeral : Numeral} : numeral.negative = true →
      UnsignedText text numeral → NumeralText ('-' :: text) numeral

/-! ## Values -/

/-- What a stretch of text stands for.  An element is a value with blanks around it. -/
inductive Phrase where
  | value (value : Json)
  | element (value : Json)
  | items (items : List Json)
  | member (name : String) (value : Json)
  | members (members : List (String × Json))

/-- How phrases are written if arrays and objects are nested at most `depth` deep.  A numeral is written
    if it has a value at all; `Numeral.value?`, which the reader shares, decides that and which. -/
inductive Derives : Nat → List Char → Phrase → Prop
  | nullLiteral {depth : Nat} : Derives depth "null".toList (.value .null)
  | trueLiteral {depth : Nat} : Derives depth "true".toList (.value (.bool true))
  | falseLiteral {depth : Nat} : Derives depth "false".toList (.value (.bool false))
  | number {depth : Nat} {text : List Char} {numeral : Numeral} {value : Number} :
      NumeralText text numeral → numeral.value? = some value →
      Derives depth text (.value (.num value))
  | string {depth : Nat} {text : List Char} {value : String} : StringText text value →
      Derives depth text (.value (.str value))
  | emptyArray {depth : Nat} {blanks : List Char} : Blanks blanks →
      Derives (depth + 1) ('[' :: (blanks ++ [']'])) (.value (.arr []))
  | array {depth : Nat} {text : List Char} {items : List Json} : Derives depth text (.items items) →
      Derives (depth + 1) ('[' :: (text ++ [']'])) (.value (.arr items))
  | emptyObject {depth : Nat} {blanks : List Char} : Blanks blanks →
      Derives (depth + 1) ('{' :: (blanks ++ ['}'])) (.value (.obj []))
  | object {depth : Nat} {text : List Char} {members : List (String × Json)} :
      Derives depth text (.members members) →
      Derives (depth + 1) ('{' :: (text ++ ['}'])) (.value (.obj members))
  | element {depth : Nat} {before text after : List Char} {value : Json} : Blanks before →
      Derives depth text (.value value) → Blanks after →
      Derives depth (before ++ (text ++ after)) (.element value)
  | lastItem {depth : Nat} {text : List Char} {value : Json} : Derives depth text (.element value) →
      Derives depth text (.items [value])
  | nextItem {depth : Nat} {text more : List Char} {value : Json} {items : List Json} :
      Derives depth text (.element value) → Derives depth more (.items items) →
      Derives depth (text ++ ',' :: more) (.items (value :: items))
  | member {depth : Nat} {before quoted after text : List Char} {name : String} {value : Json} :
      Blanks before → StringText quoted name → Blanks after →
      Derives depth text (.element value) →
      Derives depth (before ++ (quoted ++ (after ++ ':' :: text))) (.member name value)
  | lastMember {depth : Nat} {text : List Char} {name : String} {value : Json} :
      Derives depth text (.member name value) → Derives depth text (.members [(name, value)])
  | nextMember {depth : Nat} {text more : List Char} {name : String} {value : Json}
      {members : List (String × Json)} :
      Derives depth text (.member name value) → Derives depth more (.members members) →
      Derives depth (text ++ ',' :: more) (.members ((name, value) :: members))

/-- A whole text that stands for a value, arrays and objects nested at most 127 deep. -/
def IsText (text : List Char) (value : Json) : Prop := Derives 127 text (.element value)

/-- Bytes that are the UTF-8 form of a whole text of a value. -/
def IsEncoding (bytes : ByteArray) (value : Json) : Prop :=
  ∃ text : String, bytes = text.toUTF8 ∧ IsText text.toList value

end CardServer.Json.Grammar
