import CardServer.Proofs.Json.Grammar

/-! # The reader reads every string and every numeral

What the grammar derives as a string or a numeral, the reader accepts, and it gives the text or the
parts that the derivation has.  A string brings its own end along; a numeral is read up to a
character that cannot continue it.

* `readString_of_stringText`      a string is read in every spelling
* `Numeral.scan_of_unsignedText`  a numeral is cut off where nothing follows that continues it
-/

namespace CardServer.Json

open Grammar

/-! ## Strings -/

/-- The value of a hexadecimal digit is found. -/
theorem hexDigit?_of_isHexDigit {c : Char} {value : Nat} (h : IsHexDigit c value) :
    hexDigit? c = some value := by
  have hlower : ∀ i < 16, "0123456789abcdef".toList[i]?.bind hexDigit? = some i := by
    decide +kernel
  have hupper : ∀ i < 16, "0123456789ABCDEF".toList[i]?.bind hexDigit? = some i := by
    decide +kernel
  rcases h with h | h
  · have hvalue := hlower value (List.getElem?_eq_some_iff.1 h).1
    rwa [h] at hvalue
  · have hvalue := hupper value (List.getElem?_eq_some_iff.1 h).1
    rwa [h] at hvalue

/-- The unit of an escape by number is read. -/
theorem readHex_of_unitEscape {text : List Char} {unit : Nat} (h : UnitEscape text unit)
    (rest : List Char) :
    ∃ digits, text = '\\' :: 'u' :: digits ∧ readHex (digits ++ rest) = .ok (unit, rest) := by
  cases h with
  | @mk a b c d i j k l ha hb hc hd =>
    refine ⟨[a, b, c, d], rfl, ?_⟩
    have hvalue : hexValue? a b c d = some (((i * 16 + j) * 16 + k) * 16 + l) := by
      simp only [hexValue?, hexDigit?_of_isHexDigit ha, hexDigit?_of_isHexDigit hb,
        hexDigit?_of_isHexDigit hc, hexDigit?_of_isHexDigit hd]
      rfl
    simp only [List.cons_append, List.nil_append, readHex, hvalue]

/-- No character is a surrogate. -/
theorem isSurrogate_toNat (c : Char) :
    isLeadingSurrogate c.toNat = false ∧ isTrailingSurrogate c.toNat = false := by
  have hvalid : c.toNat < 0xD800 ∨ 0xDFFF < c.toNat ∧ c.toNat < 0x110000 := c.valid
  simp only [isLeadingSurrogate, isTrailingSurrogate, Bool.and_eq_false_iff, decide_eq_false_iff_not]
  omega

/-- The escape of a character of one unit is read. -/
theorem readEscape_of_unit {text : List Char} {c : Char} (h : UnitEscape text c.toNat)
    (rest : List Char) :
    ∃ body, text = '\\' :: body ∧ readEscape (body ++ rest) = .ok (c, rest) := by
  obtain ⟨digits, rfl, hdigits⟩ := readHex_of_unitEscape h rest
  obtain ⟨hleading, htrailing⟩ := isSurrogate_toNat c
  refine ⟨'u' :: digits, rfl, ?_⟩
  simp only [List.cons_append, readEscape, readUnit, hdigits, htrailing, hleading]
  simp [Char.ofNat_toNat]

/-- The two escapes of a character of two units are read. -/
theorem readEscape_of_pair {leading trailing : List Char} {c : Char} (hlarge : 0x10000 ≤ c.toNat)
    (hl : UnitEscape leading (0xD800 + (c.toNat - 0x10000) / 0x400))
    (ht : UnitEscape trailing (0xDC00 + (c.toNat - 0x10000) % 0x400)) (rest : List Char) :
    ∃ body, leading = '\\' :: body ∧ readEscape (body ++ (trailing ++ rest)) = .ok (c, rest) := by
  have hvalid : c.toNat < 0xD800 ∨ 0xDFFF < c.toNat ∧ c.toNat < 0x110000 := c.valid
  obtain ⟨digits', rfl, hdigits'⟩ := readHex_of_unitEscape ht rest
  obtain ⟨digits, rfl, hdigits⟩ := readHex_of_unitEscape hl ('\\' :: 'u' :: (digits' ++ rest))
  refine ⟨'u' :: digits, rfl, ?_⟩
  -- Each half lies in its range, and together they give the character back.
  have hisLeading : isLeadingSurrogate (0xD800 + (c.toNat - 0x10000) / 0x400) = true := by
    simp only [isLeadingSurrogate, Bool.and_eq_true, decide_eq_true_eq]
    omega
  have hnotTrailing : isTrailingSurrogate (0xD800 + (c.toNat - 0x10000) / 0x400) = false := by
    simp only [isTrailingSurrogate, Bool.and_eq_false_iff, decide_eq_false_iff_not]
    omega
  have hisTrailing : isTrailingSurrogate (0xDC00 + (c.toNat - 0x10000) % 0x400) = true := by
    simp only [isTrailingSurrogate, Bool.and_eq_true, decide_eq_true_eq]
    omega
  have hpair : pairValue (0xD800 + (c.toNat - 0x10000) / 0x400)
      (0xDC00 + (c.toNat - 0x10000) % 0x400) = c.toNat := by
    simp only [pairValue]
    omega
  simp only [List.cons_append, readEscape, readUnit, hdigits, hisLeading, hnotTrailing,
    readTrailing, hdigits', hisTrailing, hpair, Char.ofNat_toNat]
  rfl

/-- A character of a string is read in each of its spellings. -/
theorem readChars_of_spelling {text rest done : List Char} {c : Char} (h : Spelling text c) :
    readChars done (text ++ rest) = readChars (c :: done) rest := by
  -- All spellings with a backslash go through the reader of escapes.
  have hescape : ∀ body rest', readEscape (body ++ rest') = .ok (c, rest) →
      readChars done ('\\' :: (body ++ rest')) = readChars (c :: done) rest := by
    intro body rest' hbody
    rw [readChars, if_neg (by decide), if_pos rfl]
    split
    · next hread =>
      rw [hbody] at hread
      cases hread
    · next hread =>
      rw [hbody] at hread
      obtain ⟨rfl, rfl⟩ := Prod.mk.inj (Except.ok.inj hread)
      rfl
  cases h with
  | plain hspace hquote hbackslash =>
    rw [List.singleton_append, readChars, if_neg hquote, if_neg hbackslash,
      if_neg (Char.not_lt.2 hspace)]
  | @letter letter _ hletter =>
    refine hescape [letter] rest ?_
    simp only [letterEscapes, List.mem_cons, Prod.mk.injEq, List.not_mem_nil, or_false] at hletter
    rcases hletter with ⟨rfl, rfl⟩ | ⟨rfl, rfl⟩ | ⟨rfl, rfl⟩ | ⟨rfl, rfl⟩ | ⟨rfl, rfl⟩ |
      ⟨rfl, rfl⟩ | ⟨rfl, rfl⟩ | ⟨rfl, rfl⟩ <;> rfl
  | unit hunit =>
    obtain ⟨body, rfl, hbody⟩ := readEscape_of_unit hunit rest
    exact hescape body rest hbody
  | @pair leading trailing _ hlarge hleading htrailing =>
    obtain ⟨body, rfl, hbody⟩ := readEscape_of_pair hlarge hleading htrailing rest
    rw [List.append_assoc]
    exact hescape body (trailing ++ rest) hbody

/-- The characters of a string are read up to the closing quote. -/
theorem readChars_of_spellings {text rest done chars : List Char} (h : Spellings text chars) :
    readChars done (text ++ '"' :: rest) = .ok (done.reverse ++ chars, rest) := by
  induction h generalizing done with
  | nil => rw [List.nil_append, readChars, if_pos rfl, List.append_nil]
  | cons hspelling _ ih =>
    rw [List.append_assoc, readChars_of_spelling hspelling, ih, List.reverse_cons,
      List.append_assoc, List.singleton_append]

/-- A string is read in every spelling. -/
theorem readString_of_stringText {text : List Char} {value : String} (h : StringText text value)
    (rest : List Char) :
    ∃ body, text = '"' :: body ∧ readString (body ++ rest) = .ok (value, rest) := by
  cases h with
  | @mk inner _ hspellings =>
    refine ⟨inner ++ ['"'], rfl, ?_⟩
    rw [List.append_assoc, List.singleton_append]
    simp only [readString, readChars_of_spellings hspellings, List.reverse_nil, List.nil_append,
      String.ofList_toList]

/-! ## Numerals -/

/-- A text that no digit continues. -/
def NoDigit (rest : List Char) : Prop := ∀ c ∈ rest.head?, c.isDigit = false

/-- A text that cannot continue a numeral. -/
def EndsNumeral (rest : List Char) : Prop :=
  ∀ c ∈ rest.head?, c.isDigit = false ∧ c ≠ '.' ∧ c ≠ 'e' ∧ c ≠ 'E'

theorem EndsNumeral.noDigit {rest : List Char} (h : EndsNumeral rest) : NoDigit rest :=
  fun c hc => (h c hc).1

namespace Numeral

theorem spanDigits_append {digits rest : List Char} (h : ∀ c ∈ digits, c.isDigit = true)
    (hrest : NoDigit rest) : spanDigits (digits ++ rest) = (digits, rest) := by
  unfold spanDigits
  rw [List.takeWhile_append_of_pos h, List.dropWhile_append_of_pos h]
  cases rest with
  | nil => simp
  | cons c rest =>
    have hc : c.isDigit = false := hrest c rfl
    simp [hc]

/-- An integer part is cut off where no digit follows. -/
theorem scanInteger_append {integer rest : List Char} (h : IntegerText integer)
    (hrest : NoDigit rest) : scanInteger (integer ++ rest) = .ok (integer, rest) := by
  obtain ⟨⟨hne, hdigits⟩, hzero⟩ := h
  cases integer with
  | nil => exact absurd rfl hne
  | cons c digits =>
    by_cases hc : c = '0'
    · subst hc
      obtain rfl : digits = [] := by simpa using hzero rfl
      cases rest with
      | nil => rfl
      | cons d rest =>
        have hd : d.isDigit = false := hrest d rfl
        simp [scanInteger, hd]
    · -- Without a zero in front the integer part is the whole run of digits.
      have hc' : c.isDigit = true := hdigits c (List.mem_cons_self)
      have hspan := spanDigits_append hdigits hrest
      simp only [List.cons_append] at hspan ⊢
      unfold scanInteger
      split
      · next h => nomatch h
      · next h => exact absurd (List.cons.inj h).1 hc
      · next d _ _ h =>
        obtain ⟨rfl, -⟩ := List.cons.inj h
        rw [if_pos hc', hspan]

/-- A fraction is cut off where neither a digit nor a point follows. -/
theorem scanFraction_append {text rest : List Char} {fraction : Option (List Char)}
    (h : FractionText text fraction) (hrest : NoDigit rest) (hpoint : rest.head? ≠ some '.') :
    scanFraction (text ++ rest) = .ok (fraction, rest) := by
  cases h with
  | absent =>
    rw [List.nil_append]
    unfold scanFraction
    split
    · next rest' => exact absurd rfl hpoint
    · rfl
  | @present digits hdigits =>
    obtain ⟨d, digits, rfl⟩ := List.exists_cons_of_ne_nil hdigits.1
    have hspan := spanDigits_append hdigits.2 hrest
    simp only [List.cons_append] at hspan ⊢
    simp only [scanFraction, hspan]

/-- The sign of an exponent is cut off, if there is one. -/
theorem scanSign_digits {digits rest : List Char} (h : Digits digits) :
    scanSign (digits ++ rest) = (false, digits ++ rest) := by
  obtain ⟨d, digits, rfl⟩ := List.exists_cons_of_ne_nil h.1
  have hd : d.isDigit = true := h.2 d (List.mem_cons_self)
  rw [List.cons_append]
  unfold scanSign
  split
  · next heq =>
    obtain ⟨rfl, -⟩ := List.cons.inj heq
    exact absurd hd (by decide)
  · next heq =>
    obtain ⟨rfl, -⟩ := List.cons.inj heq
    exact absurd hd (by decide)
  · rfl

/-- An exponent is cut off where no digit follows. -/
theorem scanExponent_append {text rest : List Char} {exponent : Option (Bool × List Char)}
    (h : ExponentText text exponent) (hrest : NoDigit rest)
    (hmark : ∀ c ∈ rest.head?, c ≠ 'e' ∧ c ≠ 'E') :
    scanExponent (text ++ rest) = .ok (exponent, rest) := by
  -- The three forms with a mark differ only in their sign.
  have hmarked : ∀ mark ∈ ['e', 'E'], ∀ signed negative digits, Digits digits →
      scanSign signed = (negative, digits ++ rest) →
      scanExponent (mark :: signed) = .ok (some (negative, digits), rest) := by
    intro mark hmark signed negative digits hdigits hsigned
    obtain ⟨d, digits, rfl⟩ := List.exists_cons_of_ne_nil hdigits.1
    have hspan := spanDigits_append hdigits.2 hrest
    have hmark' : mark = 'e' ∨ mark = 'E' := by simpa using hmark
    simp only [List.cons_append] at hspan hsigned
    simp only [scanExponent, if_pos hmark', hsigned, hspan]
  cases h with
  | absent =>
    cases rest with
    | nil => rfl
    | cons c rest =>
      obtain ⟨he, hE⟩ := hmark c rfl
      simp [scanExponent, he, hE]
  | unsigned hmark hdigits => exact hmarked _ hmark _ _ _ hdigits (scanSign_digits hdigits)
  | plus hmark hdigits => exact hmarked _ hmark _ _ _ hdigits rfl
  | minus hmark hdigits => exact hmarked _ hmark _ _ _ hdigits rfl

/-- A numeral without its sign is cut off where nothing follows that continues it. -/
theorem scan_of_unsignedText {text rest : List Char} {numeral : Numeral}
    (h : UnsignedText text numeral) (hrest : EndsNumeral rest) :
    scan numeral.negative (text ++ rest) = .ok (numeral, rest) := by
  cases h with
  | @mk negative integer fractionText exponentText fraction exponent hinteger hfraction hexponent =>
    have hexponent' := scanExponent_append hexponent hrest.noDigit fun c hc => (hrest c hc).2.2
    -- Behind the fraction comes the mark of the exponent or what ends the numeral.
    have hafter : ∀ c ∈ (exponentText ++ rest).head?, c.isDigit = false ∧ c ≠ '.' := by
      cases hexponent with
      | absent => exact fun c hc => ⟨(hrest c hc).1, (hrest c hc).2.1⟩
      | unsigned hmark _ | plus hmark _ | minus hmark _ =>
        simp only [List.mem_cons, List.not_mem_nil, or_false] at hmark
        rcases hmark with rfl | rfl <;> simp
    have hfraction' := scanFraction_append hfraction (fun c hc => (hafter c hc).1)
      fun hc => (hafter '.' hc).2 rfl
    have hbehind : NoDigit (fractionText ++ (exponentText ++ rest)) := by
      cases hfraction with
      | absent => exact fun c hc => (hafter c hc).1
      | present _ => simp [NoDigit]
    have hinteger' := scanInteger_append hinteger hbehind
    simp only [List.append_assoc, scan, hinteger', hfraction', hexponent']

end Numeral

end CardServer.Json
