import CardServer.Json.Writer
import Mathlib.Tactic.Common

/-! # What the writer writes has no control characters

The writer puts no blanks between tokens and escapes the control characters of strings, so whatever
value is written, no character below U+0020 stands in its text and no byte below 0x20 in its UTF-8
form.  A written value therefore always fits on a line.

* `isVisible_escapeChar`    an escape has no control characters
* `isVisible_write`         nor has any written value
* `le_of_mem_toUTF8`        text without control characters has no byte below 0x20
-/

namespace CardServer.Json

/-- Whether a text has no control characters, those below U+0020. -/
def IsVisible (text : List Char) : Prop := ∀ c ∈ text, ' ' ≤ c

/-- The text is looked through, and not all characters there are. -/
instance (text : List Char) : Decidable (IsVisible text) :=
  decidable_of_iff (text.all (' ' ≤ ·)) (by simp [IsVisible])

theorem IsVisible.nil : IsVisible [] := nofun

theorem isVisible_cons {c : Char} {text : List Char} :
    IsVisible (c :: text) ↔ ' ' ≤ c ∧ IsVisible text :=
  List.forall_mem_cons

theorem isVisible_append {text more : List Char} :
    IsVisible (text ++ more) ↔ IsVisible text ∧ IsVisible more :=
  List.forall_mem_append

/-! ## Strings -/

/-- An escape has no control characters. -/
theorem isVisible_escapeChar (c : Char) : IsVisible (escapeChar c) := by
  have hdigit : ∀ n, ' ' ≤ hexDigit n := by
    intro n
    have hall : ∀ i < 16, ' ' ≤ Nat.digitChar i := by decide +kernel
    exact hall (n % 16) (Nat.mod_lt n (by decide))
  unfold escapeChar
  split
  · next letter hletter =>
    -- The letters behind a backslash are those of the table.
    have hvisible : ' ' ≤ letter := by
      unfold escapeLetter? at hletter
      split at hletter <;> cases hletter <;> decide
    simp only [isVisible_cons]
    exact ⟨by decide, hvisible, .nil⟩
  · split
    · simp only [isVisible_cons]
      exact ⟨by decide, by decide, by decide, by decide, hdigit _, hdigit _, .nil⟩
    · next hplain =>
      simp only [isVisible_cons]
      exact ⟨Char.not_lt.1 hplain, .nil⟩

theorem isVisible_writeString (value : String) : IsVisible (writeString value) := by
  have hquote : ' ' ≤ '"' := by decide
  have hchars : IsVisible (value.toList.flatMap escapeChar) := by
    intro c hc
    obtain ⟨d, -, hd⟩ := List.mem_flatMap.1 hc
    exact isVisible_escapeChar d c hd
  simp only [writeString, isVisible_cons, isVisible_append]
  exact ⟨hquote, hchars, hquote, .nil⟩

/-- A quote, a control character with a letter of its own and one without. -/
example : writeString "\"\n\x01" =
    ['"', '\\', '"', '\\', 'n', '\\', 'u', '0', '0', '0', '1', '"'] := by decide +kernel

/-! ## Numbers -/

theorem isVisible_toDigits (n : Nat) : IsVisible (Nat.toDigits 10 n) := by
  intro c hc
  have hdigit : c.isDigit = true := Nat.isDigit_of_mem_toDigits (by decide) (by decide) hc
  simp only [Char.isDigit, Bool.and_eq_true, decide_eq_true_eq] at hdigit
  exact Nat.le_trans (show 32 ≤ 48 by decide) hdigit.1

/-- A decimal is written with digits, a point, signs and the mark of the exponent. -/
theorem isVisible_positional (d : Decimal) : IsVisible d.positional := by
  have hzeros : ∀ count, IsVisible (List.replicate count '0') := by
    intro count c hc
    rw [List.eq_of_mem_replicate hc]
    decide
  have hdigits : IsVisible d.text := isVisible_toDigits d.digits
  unfold Decimal.positional
  split
  · exact isVisible_append.2 ⟨hdigits, hzeros _⟩
  · dsimp only
    split
    · refine isVisible_append.2 ⟨fun c hc => hdigits c (List.mem_of_mem_take hc), ?_⟩
      exact isVisible_cons.2 ⟨by decide, fun c hc => hdigits c (List.mem_of_mem_drop hc)⟩
    · simp only [isVisible_cons, isVisible_append]
      exact ⟨by decide, by decide, hzeros _, hdigits⟩

theorem isVisible_scientific (d : Decimal) : IsVisible d.scientific := by
  have hdigits : IsVisible d.text := isVisible_toDigits d.digits
  have hfraction : IsVisible
      (if (d.text.drop 1).isEmpty then [] else '.' :: d.text.drop 1) := by
    split
    · exact .nil
    · exact isVisible_cons.2 ⟨by decide, fun c hc => hdigits c (List.mem_of_mem_drop hc)⟩
  have hsign : ' ' ≤ (if d.leading < 0 then '-' else '+') := by split <;> decide
  simp only [Decimal.scientific, isVisible_append, isVisible_cons]
  exact ⟨⟨fun c hc => hdigits c (List.mem_of_mem_take hc), hfraction⟩, by decide, hsign,
    isVisible_toDigits _⟩

theorem isVisible_writeNumber (value : Number) : IsVisible (writeNumber value) := by
  cases value with
  | int value =>
    show IsVisible (toString value).toList
    cases value with
    | ofNat n =>
      show IsVisible (String.ofList (Nat.toDigits 10 n)).toList
      rw [String.toList_ofList]
      exact isVisible_toDigits n
    | negSucc n =>
      show IsVisible ("-" ++ String.ofList (Nat.toDigits 10 (n + 1))).toList
      have hminus : IsVisible "-".toList := by decide
      have hdigits : IsVisible (String.ofList (Nat.toDigits 10 (n + 1))).toList := by
        rw [String.toList_ofList]
        exact isVisible_toDigits (n + 1)
      rw [String.toList_append]
      exact isVisible_append.2 ⟨hminus, hdigits⟩
  | real value =>
    have hsign : IsVisible value.signText := by
      unfold Binary64.signText
      split <;> decide
    simp only [writeNumber, Binary64.exponentText, String.toList_ofList, isVisible_append]
    refine ⟨hsign, ?_⟩
    split
    · split
      · exact isVisible_append.2 ⟨isVisible_positional _, by decide⟩
      · exact isVisible_positional _
    · exact isVisible_scientific _

/-! ## Values -/

mutual

/-- No written value has control characters. -/
theorem isVisible_write : ∀ value : Json, IsVisible (write value)
  | .null => by unfold write; decide
  | .bool true => by unfold write; decide
  | .bool false => by unfold write; decide
  | .num value => isVisible_writeNumber value
  | .str value => isVisible_writeString value
  | .arr items => by
    simp only [write, isVisible_cons, isVisible_append]
    exact ⟨by decide, isVisible_writeItems items, by decide, .nil⟩
  | .obj members => by
    simp only [write, isVisible_cons, isVisible_append]
    exact ⟨by decide, isVisible_writeMembers members, by decide, .nil⟩

theorem isVisible_writeItems : ∀ items : List Json, IsVisible (writeItems items)
  | [] => .nil
  | [item] => isVisible_write item
  | item :: next :: rest => by
    simp only [writeItems, isVisible_append, isVisible_cons]
    exact ⟨isVisible_write item, by decide, isVisible_writeItems (next :: rest)⟩

theorem isVisible_writeMembers : ∀ members : List (String × Json), IsVisible (writeMembers members)
  | [] => .nil
  | [(name, value)] => by
    simp only [writeMembers, isVisible_append, isVisible_cons]
    exact ⟨isVisible_writeString name, by decide, isVisible_write value⟩
  | (name, value) :: next :: rest => by
    simp only [writeMembers, isVisible_append, isVisible_cons]
    exact ⟨isVisible_writeString name, by decide, isVisible_write value, by decide,
      isVisible_writeMembers (next :: rest)⟩

end

/-! ## Bytes -/

/-- No byte of a character from U+0020 on is below 0x20. -/
theorem le_of_mem_utf8EncodeChar {c : Char} (h : ' ' ≤ c) {b : UInt8}
    (hb : b ∈ String.utf8EncodeChar c) : 0x20 ≤ b := by
  have hc : 32 ≤ c.val.toNat := h
  have hbyte : ∀ n, 32 ≤ n % 256 → 0x20 ≤ UInt8.ofNat n := by
    intro n hn
    rw [UInt8.le_iff_toNat_le, UInt8.toNat_ofNat']
    exact hn
  unfold String.utf8EncodeChar at hb
  dsimp only at hb
  split at hb
  · obtain rfl := List.mem_singleton.1 hb
    exact hbyte _ (by omega)
  -- All bytes of the longer forms are 0x80 or more.
  split at hb
  · simp only [List.mem_cons, List.not_mem_nil, or_false] at hb
    rcases hb with rfl | rfl <;> exact hbyte _ (by omega)
  split at hb
  · simp only [List.mem_cons, List.not_mem_nil, or_false] at hb
    rcases hb with rfl | rfl | rfl <;> exact hbyte _ (by omega)
  · simp only [List.mem_cons, List.not_mem_nil, or_false] at hb
    rcases hb with rfl | rfl | rfl | rfl <;> exact hbyte _ (by omega)

/-- Text without control characters has no byte below 0x20. -/
theorem le_of_mem_toUTF8 {text : String} (h : IsVisible text.toList) {b : UInt8}
    (hb : b ∈ text.toUTF8.data.toList) : 0x20 ≤ b := by
  have hbytes : ∀ chars : List Char, (String.ofList chars).toUTF8.data.toList =
      chars.flatMap String.utf8EncodeChar := by
    intro chars
    simp [List.utf8Encode]
  rw [← String.ofList_toList (s := text), hbytes] at hb
  obtain ⟨c, hc, hbc⟩ := List.mem_flatMap.1 hb
  exact le_of_mem_utf8EncodeChar (h c hc) hbc

end CardServer.Json
