import CardServer.Http.Token

/-! # Header fields

A header field has a name, of which the case does not matter and which is kept in lower case, and a
value of arbitrary bytes save most control characters.  A value *is text* if it holds only printable
ASCII characters, spaces and tabs.

* `text?_eq_some_iff`   the text of a value has exactly the bytes of the value
* `valuesOf_set`        setting a header field leaves exactly one field of its name
-/

namespace CardServer.Http

/-- Whether a byte may stand in a header value. -/
def isValueByte (b : UInt8) : Bool := (0x20 ≤ b && b != 0x7F) || b == 0x09

/-- Whether a byte of a header value is text. -/
def isTextByte (b : UInt8) : Bool := (0x20 ≤ b && b < 0x7F) || b == 0x09

/-- Whatever is text may stand in a header value. -/
theorem isValueByte_of_isTextByte {b : UInt8} (h : isTextByte b = true) : isValueByte b = true := by
  simp only [isTextByte, isValueByte, Bool.or_eq_true, Bool.and_eq_true, decide_eq_true_eq,
    bne_iff_ne] at h ⊢
  refine h.imp (fun hprintable => ⟨hprintable.1, ?_⟩) id
  rintro rfl
  exact absurd hprintable.2 (by decide)

/-- A byte of text is the one byte of its character. -/
theorem utf8EncodeChar_of_isTextByte {b : UInt8} (h : isTextByte b = true) :
    String.utf8EncodeChar (Char.ofNat b.toNat) = [b] := by
  have hascii : ∀ n < 128, String.utf8EncodeChar (Char.ofNat n) = [UInt8.ofNat n] := by
    decide +kernel
  have hbound : b.toNat < 128 := by
    simp only [isTextByte, Bool.or_eq_true, Bool.and_eq_true, decide_eq_true_eq, beq_iff_eq] at h
    rcases h with ⟨-, hlt⟩ | rfl
    · exact Nat.lt_of_lt_of_le (UInt8.lt_iff_toNat_lt.1 hlt) (by decide)
    · decide
  rw [hascii b.toNat hbound, UInt8.ofNat_toNat]

/-- Leaving out the fields of one name keeps those of another. -/
theorem filter_filter_of_ne {Field : Type} (key : Field → String) {name other : String}
    (h : other ≠ name) (fields : List Field) :
    (fields.filter (key · ≠ name)).filter (key · = other) = fields.filter (key · = other) := by
  rw [List.filter_filter]
  refine List.filter_congr fun field _ => ?_
  by_cases hfield : key field = other <;> simp [hfield, h]

/-- A header field with its name in lower case. -/
structure Header where
  name : String
  value : List UInt8
  deriving DecidableEq

/-- Why something is no header field. -/
inductive Header.Fault where
  | name
  | value
  deriving DecidableEq, Repr

namespace Header

/-- The greatest length of a header name. -/
def greatestNameLength : Nat := 65535

/-- The header field of a name and a value as they were sent. -/
def ofParts (name : String) (value : List UInt8) : Except Fault Header :=
  if isToken name && name.utf8ByteSize ≤ greatestNameLength then
    if value.all isValueByte then .ok ⟨name.map Char.toLower, value⟩ else .error .value
  else
    .error .name

/-- A field that could be built has its name in lower case and its value as it was sent. -/
theorem eq_of_ofParts {name : String} {value : List UInt8} {header : Header}
    (h : ofParts name value = .ok header) : header = ⟨name.map Char.toLower, value⟩ := by
  unfold ofParts at h
  split at h
  · split at h
    · exact (Except.ok.inj h).symm
    · nomatch h
  · nomatch h

/-- The text of a header value, if it is text. -/
def text? (value : List UInt8) : Option String :=
  if value.all isTextByte then
    some (String.ofList (value.map fun b => Char.ofNat b.toNat))
  else
    none

/-- The bytes of a text. -/
def bytesOf (text : String) : List UInt8 := text.toUTF8.data.toList

theorem bytesOf_ofList (chars : List Char) :
    bytesOf (String.ofList chars) = chars.flatMap String.utf8EncodeChar := by
  simp [bytesOf, List.utf8Encode]

theorem bytesOf_injective {text other : String} (h : bytesOf text = bytesOf other) :
    text = other :=
  String.toByteArray_inj.1 (ByteArray.ext (Array.toList_inj.1 h))

/-- The text of a value has exactly the bytes of the value. -/
theorem text?_eq_some_iff {value : List UInt8} {text : String} :
    text? value = some text ↔ (value.all isTextByte = true ∧ bytesOf text = value) := by
  have hbytes : value.all isTextByte = true →
      bytesOf (String.ofList (value.map fun b => Char.ofNat b.toNat)) = value := by
    intro hall
    rw [bytesOf_ofList]
    induction value with
    | nil => rfl
    | cons b value ih =>
      rw [List.all_cons, Bool.and_eq_true] at hall
      rw [List.map_cons, List.flatMap_cons, utf8EncodeChar_of_isTextByte hall.1, ih hall.2]
      rfl
  constructor
  · intro h
    unfold text? at h
    split at h
    · next hall =>
      obtain rfl := Option.some.inj h
      exact ⟨hall, hbytes hall⟩
    · nomatch h
  · rintro ⟨hall, rfl⟩
    rw [text?, if_pos hall, bytesOf_injective (hbytes hall)]

/-- The values of all fields of a name, in order. -/
def valuesOf (name : String) (headers : List Header) : List (List UInt8) :=
  (headers.filter (·.name = name)).map (·.value)

/-- Puts a single field of a name in place of all fields of that name. -/
def set (name : String) (value : List UInt8) (headers : List Header) : List Header :=
  headers.filter (·.name ≠ name) ++ [⟨name, value⟩]

@[simp] theorem valuesOf_set (name : String) (value : List UInt8) (headers : List Header) :
    valuesOf name (set name value headers) = [value] := by
  have h : (headers.filter (·.name ≠ name)).filter (·.name = name) = [] := by
    simp [List.filter_filter]
  simp [valuesOf, set, List.filter_append]

end Header

end CardServer.Http
