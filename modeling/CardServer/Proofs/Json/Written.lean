import CardServer.Json.Writer
import CardServer.Proofs.Json.Grammar

/-! # What the writer writes is Json

The compact form of a value is one of the texts that the grammar derives for it.  Strings are always
written so, and arrays and objects are if their parts are.

* `stringText_writeString`   a string is written in one of its spellings
* `derives_write_arr`        an array is written as the grammar asks if its items are
* `derives_write_obj`        an object is written as the grammar asks if its members are
-/

namespace CardServer.Json

open Grammar

/-! ## Strings -/

theorem isHexDigit_hexDigit (n : Nat) : IsHexDigit (hexDigit n) (n % 16) := by
  have hall : ∀ i < 16, "0123456789abcdef".toList[i]? = some (Nat.digitChar i) := by decide +kernel
  exact .inl (hall (n % 16) (Nat.mod_lt n (by decide)))

/-- A letter behind a backslash is one that the grammar knows. -/
theorem mem_letterEscapes_of_escapeLetter? {c letter : Char} (h : escapeLetter? c = some letter) :
    (letter, c) ∈ letterEscapes := by
  unfold escapeLetter? at h
  split at h <;> cases h <;> decide

/-- A character is written in one of its spellings. -/
theorem spelling_escapeChar (c : Char) : Spelling (escapeChar c) c := by
  unfold escapeChar
  split
  · next letter hletter => exact .letter (mem_letterEscapes_of_escapeLetter? hletter)
  · next hletter =>
    split
    · next hcontrol =>
      have hsmall : c.toNat < 32 := hcontrol
      have hvalue : ((0 * 16 + 0) * 16 + c.toNat / 16 % 16) * 16 + c.toNat % 16 = c.toNat := by omega
      have hunit := UnitEscape.mk (isHexDigit_hexDigit 0) (isHexDigit_hexDigit 0)
        (isHexDigit_hexDigit (c.toNat / 16)) (isHexDigit_hexDigit c.toNat)
      rw [hvalue] at hunit
      exact .unit hunit
    · next hcontrol =>
      refine .plain (Char.not_lt.1 hcontrol) ?_ ?_
      · rintro rfl
        nomatch hletter
      · rintro rfl
        nomatch hletter

theorem spellings_flatMap_escapeChar (chars : List Char) :
    Spellings (chars.flatMap escapeChar) chars := by
  induction chars with
  | nil => exact .nil
  | cons c chars ih =>
    rw [List.flatMap_cons]
    exact .cons (spelling_escapeChar c) ih

/-- A string is written in one of its spellings. -/
theorem stringText_writeString (value : String) : StringText (writeString value) value :=
  .mk (spellings_flatMap_escapeChar value.toList)

/-! ## Arrays and objects -/

variable {depth : Nat}

/-- A value needs no blanks around it. -/
theorem derives_element {text : List Char} {value : Json} (h : Derives depth text (.value value)) :
    Derives depth text (.element value) := by
  have helement : Derives depth ([] ++ (text ++ [])) (.element value) := .element nofun h nofun
  rwa [List.nil_append, List.append_nil] at helement

theorem derives_writeItems {items : List Json} (hne : items ≠ [])
    (h : ∀ item ∈ items, Derives depth (write item) (.value item)) :
    Derives depth (writeItems items) (.items items) := by
  induction items with
  | nil => exact absurd rfl hne
  | cons item rest ih =>
    have hitem := derives_element (h item (List.mem_cons_self))
    cases rest with
    | nil => exact .lastItem hitem
    | cons next rest =>
      exact .nextItem hitem (ih nofun fun item hmem => h item (List.mem_cons_of_mem _ hmem))

/-- An array is written as the grammar asks if its items are. -/
theorem derives_write_arr {items : List Json}
    (h : ∀ item ∈ items, Derives depth (write item) (.value item)) :
    Derives (depth + 1) (write (.arr items)) (.value (.arr items)) := by
  cases items with
  | nil => exact .emptyArray nofun
  | cons item rest => exact .array (derives_writeItems nofun h)

theorem derives_write_member (name : String) {value : Json}
    (h : Derives depth (write value) (.value value)) :
    Derives depth (writeString name ++ ':' :: write value) (.member name value) := by
  have hmember : Derives depth ([] ++ (writeString name ++ ([] ++ ':' :: write value)))
      (.member name value) :=
    .member nofun (stringText_writeString name) nofun (derives_element h)
  rwa [List.nil_append, List.nil_append] at hmember

theorem derives_writeMembers {members : List (String × Json)} (hne : members ≠ [])
    (h : ∀ member ∈ members, Derives depth (write member.2) (.value member.2)) :
    Derives depth (writeMembers members) (.members members) := by
  induction members with
  | nil => exact absurd rfl hne
  | cons member rest ih =>
    have hmember := derives_write_member member.1 (h member (List.mem_cons_self))
    cases rest with
    | nil => exact .lastMember hmember
    | cons next rest =>
      have hnext := Derives.nextMember hmember
        (ih nofun fun member hmem => h member (List.mem_cons_of_mem _ hmem))
      rwa [List.append_assoc, List.cons_append] at hnext

/-- An object is written as the grammar asks if its members are. -/
theorem derives_write_obj {members : List (String × Json)}
    (h : ∀ member ∈ members, Derives depth (write member.2) (.value member.2)) :
    Derives (depth + 1) (write (.obj members)) (.value (.obj members)) := by
  cases members with
  | nil => exact .emptyObject nofun
  | cons member rest => exact .object (derives_writeMembers nofun h)

end CardServer.Json
