import CardServer.Json.Bytes
import CardServer.Proofs.Json.Completeness

/-! # The reader reads nothing but Json texts

What the reader accepts, the grammar derives, and it derives it as the value that was read.

Every part of the reader takes a stretch from the front of its text and leaves the rest, so each lemma
here cuts the text in two: what was taken is derived, what is left is handed on.  The readers of
values call each other with one step less, and `Sound` says of a number of steps what the three of
them take; the induction is on the steps.

* `stringText_of_readString`       what is read as a string is a spelling of that string
* `Numeral.unsignedText_of_scan`   what is cut off as a numeral is that numeral
* `sound`                          what is read as a value is a text of that value
* `read_eq_ok_iff`                 a text is read as a value exactly if the grammar derives it
* `ofBytes_eq_ok_iff`              so are bytes if they are the UTF-8 form of such a text
-/

namespace CardServer.Json

open Grammar

/-! ## Blanks -/

theorem mem_of_isSpace {c : Char} (h : isSpace c = true) : c ∈ [' ', '\t', '\n', '\r'] := by
  simpa [isSpace, or_assoc] using h

/-- What is skipped are blanks. -/
theorem exists_blanks_of_skipSpace {text rest : List Char} (h : skipSpace text = rest) :
    ∃ blanks, Blanks blanks ∧ text = blanks ++ rest := by
  refine ⟨text.takeWhile isSpace, fun c hc => ?_, ?_⟩
  · exact mem_of_isSpace (List.all_eq_true.1 List.all_takeWhile c hc)
  · rw [← h]
    exact List.takeWhile_append_dropWhile.symm

theorem Grammar.Blanks.append {blanks more : List Char} (h : Blanks blanks) (hmore : Blanks more) :
    Blanks (blanks ++ more) := by
  intro c hc
  rcases List.mem_append.1 hc with hc | hc
  · exact h c hc
  · exact hmore c hc

/-! ## Strings -/

/-- Hexadecimal digits are ASCII. -/
theorem toNat_lt_of_hexDigit? {c : Char} {value : Nat} (h : hexDigit? c = some value) :
    c.toNat < 128 := by
  have hle : ∀ greatest : Char, c ≤ greatest → c.toNat ≤ greatest.toNat := fun _ hc => hc
  unfold hexDigit? at h
  split at h
  · next hdigit =>
    have hbound : c.toNat ≤ 57 := by
      simp only [Char.isDigit, Bool.and_eq_true, decide_eq_true_eq] at hdigit
      exact hdigit.2
    omega
  · split at h
    · next hlower => exact Nat.lt_of_le_of_lt (hle 'f' hlower.2) (by decide)
    · split at h
      · next hupper => exact Nat.lt_of_le_of_lt (hle 'F' hupper.2) (by decide)
      · cases h

/-- Whatever has a value as a hexadecimal digit is one. -/
theorem isHexDigit_of_hexDigit? {c : Char} {value : Nat} (h : hexDigit? c = some value) :
    IsHexDigit c value := by
  -- The reader works on code points, the grammar has a table: they are compared over all of ASCII.
  have hall : ∀ n < 128, (hexDigit? (Char.ofNat n)).all (fun value =>
      "0123456789abcdef".toList[value]? = some (Char.ofNat n) ∨
        "0123456789ABCDEF".toList[value]? = some (Char.ofNat n)) = true := by
    decide +kernel
  have hvalue := hall c.toNat (toNat_lt_of_hexDigit? h)
  rw [Char.ofNat_toNat, h, Option.all_some, decide_eq_true_eq] at hvalue
  exact hvalue

/-- What is read as the digits of an escape by number is the escape of that unit. -/
theorem unitEscape_of_readHex {text rest : List Char} {unit : Nat}
    (h : readHex text = .ok (unit, rest)) :
    ∃ digits, text = digits ++ rest ∧ UnitEscape ('\\' :: 'u' :: digits) unit := by
  unfold readHex at h
  split at h
  · next a b c d rest' =>
    split at h
    · next value hvalue =>
      obtain ⟨rfl, rfl⟩ := Prod.mk.inj (Except.ok.inj h)
      refine ⟨[a, b, c, d], rfl, ?_⟩
      simp only [hexValue?, Option.bind_eq_bind, Option.bind_eq_some_iff] at hvalue
      obtain ⟨i, hi, j, hj, k, hk, l, hl, heq⟩ := hvalue
      rw [← Option.some.inj heq]
      exact .mk (isHexDigit_of_hexDigit? hi) (isHexDigit_of_hexDigit? hj)
        (isHexDigit_of_hexDigit? hk) (isHexDigit_of_hexDigit? hl)
    · cases h
  · cases h

/-- The unit of an escape has 16 bits. -/
theorem Grammar.UnitEscape.lt {text : List Char} {unit : Nat} (h : UnitEscape text unit) :
    unit < 0x10000 := by
  have hdigit : ∀ {c : Char} {value : Nat}, IsHexDigit c value → value < 16 := by
    intro c value hvalue
    rcases hvalue with hvalue | hvalue <;> exact (List.getElem?_eq_some_iff.1 hvalue).1
  cases h with
  | mk ha hb hc hd =>
    have := hdigit ha
    have := hdigit hb
    have := hdigit hc
    have := hdigit hd
    omega

/-- A number that is no surrogate is the code point of its character. -/
theorem toNat_ofNat_of_valid {n : Nat} (h : n < 0xD800 ∨ 0xDFFF < n ∧ n < 0x110000) :
    (Char.ofNat n).toNat = n := by
  have hvalid : n.isValidChar := h
  have hchar : Char.ofNat n = Char.ofNatAux n hvalid := dif_pos hvalid
  rw [hchar]
  rfl

/-- What is read behind a leading surrogate is the escape of a trailing one. -/
theorem unitEscape_of_readTrailing {leading : Nat} {text rest : List Char} {c : Char}
    (h : readTrailing leading text = .ok (c, rest)) :
    ∃ escape trailing, text = escape ++ rest ∧ UnitEscape escape trailing ∧
      isTrailingSurrogate trailing = true ∧ c = Char.ofNat (pairValue leading trailing) := by
  unfold readTrailing at h
  split at h
  · cases h
  · cases h
  · split at h
    · cases h
    · next trailing _ hread =>
      split at h
      · next htrailing =>
        obtain ⟨rfl, rfl⟩ := Prod.mk.inj (Except.ok.inj h)
        obtain ⟨digits, rfl, hescape⟩ := unitEscape_of_readHex hread
        exact ⟨'\\' :: 'u' :: digits, trailing, rfl, hescape, htrailing, rfl⟩
      · cases h
  · cases h
  · cases h

/-- What is read behind `\u` spells the character that is read. -/
theorem spelling_of_readUnit {text rest : List Char} {c : Char}
    (h : readUnit text = .ok (c, rest)) :
    ∃ body, text = body ++ rest ∧ Spelling ('\\' :: 'u' :: body) c := by
  unfold readUnit at h
  split at h
  · cases h
  · next unit _ hread =>
    obtain ⟨digits, rfl, hunit⟩ := unitEscape_of_readHex hread
    have hlt := hunit.lt
    split at h
    · cases h
    · next htrailing =>
      split at h
      · next hleading =>
        obtain ⟨escape, trailing, rfl, hescape, hsecond, hc⟩ := unitEscape_of_readTrailing h
        simp only [isLeadingSurrogate, isTrailingSurrogate, Bool.and_eq_true,
          decide_eq_true_eq] at hleading hsecond
        -- The two halves are found again in the code point that they make up.
        have hcode : c.toNat = pairValue unit trailing := by
          rw [hc]
          apply toNat_ofNat_of_valid
          unfold pairValue
          omega
        have hlarge : 0x10000 ≤ pairValue unit trailing := by
          unfold pairValue
          omega
        have hfirst : 0xD800 + (pairValue unit trailing - 0x10000) / 0x400 = unit := by
          unfold pairValue
          omega
        have hlast : 0xDC00 + (pairValue unit trailing - 0x10000) % 0x400 = trailing := by
          unfold pairValue
          omega
        refine ⟨digits ++ escape, by rw [List.append_assoc], ?_⟩
        rw [← List.cons_append, ← List.cons_append]
        refine .pair ?_ ?_ ?_ <;> rw [hcode]
        · exact hlarge
        · rwa [hfirst]
        · rwa [hlast]
      · next hleading =>
        obtain ⟨rfl, rfl⟩ := Prod.mk.inj (Except.ok.inj h)
        simp only [isLeadingSurrogate, isTrailingSurrogate, Bool.and_eq_true,
          decide_eq_true_eq] at hleading htrailing
        refine ⟨digits, rfl, .unit ?_⟩
        rwa [toNat_ofNat_of_valid (by omega)]

/-- What is read behind a backslash spells the character that is read. -/
theorem spelling_of_readEscape {text rest : List Char} {c : Char}
    (h : readEscape text = .ok (c, rest)) :
    ∃ body, text = body ++ rest ∧ Spelling ('\\' :: body) c := by
  unfold readEscape at h
  split at h
  · cases h
  · next letter rest' =>
    split at h
    · next hletter =>
      obtain ⟨body, rfl, hspelling⟩ := spelling_of_readUnit h
      exact ⟨'u' :: body, by rw [hletter]; rfl, hspelling⟩
    · split at h
      · next c' hshort =>
        obtain ⟨rfl, rfl⟩ := Prod.mk.inj (Except.ok.inj h)
        refine ⟨[letter], rfl, .letter ?_⟩
        unfold shortEscape? at hshort
        split at hshort <;> cases hshort <;> decide
      · cases h

/-- What is read as the characters of a string is a spelling of them and the closing quote. -/
theorem spellings_of_readChars {done text chars rest : List Char}
    (h : readChars done text = .ok (chars, rest)) :
    ∃ body more, text = body ++ '"' :: rest ∧ chars = done.reverse ++ more ∧
      Spellings body more := by
  -- The reader stops at a quote, goes on behind an escape, or behind a plain character.
  fun_induction readChars done text with
  | case1 => cases h
  | case2 done rest' =>
    obtain ⟨rfl, rfl⟩ := Prod.mk.inj (Except.ok.inj h)
    exact ⟨[], [], rfl, (List.append_nil _).symm, .nil⟩
  | case3 => cases h
  | case4 done rest' escaped rest'' hescape hquote ih =>
    obtain ⟨spelled, rfl, hspelling⟩ := spelling_of_readEscape hescape
    obtain ⟨body, more, rfl, rfl, hbody⟩ := ih h
    exact ⟨'\\' :: spelled ++ body, escaped :: more, by simp, by simp, .cons hspelling hbody⟩
  | case5 => cases h
  | case6 done c rest' hquote hbackslash hcontrol ih =>
    obtain ⟨body, more, rfl, rfl, hbody⟩ := ih h
    have hplain : Spelling [c] c := .plain (Char.not_lt.1 hcontrol) hquote hbackslash
    exact ⟨[c] ++ body, c :: more, rfl, by simp, .cons hplain hbody⟩

/-- What is read as a string behind its opening quote is a spelling of that string. -/
theorem stringText_of_readString {text rest : List Char} {value : String}
    (h : readString text = .ok (value, rest)) :
    ∃ body, text = body ++ rest ∧ StringText ('"' :: body) value := by
  unfold readString at h
  split at h
  · cases h
  · next chars _ hread =>
    obtain ⟨rfl, rfl⟩ := Prod.mk.inj (Except.ok.inj h)
    obtain ⟨body, more, rfl, hchars, hbody⟩ := spellings_of_readChars hread
    obtain rfl : chars = more := hchars
    refine ⟨body ++ ['"'], by simp, .mk ?_⟩
    rwa [String.toList_ofList]

/-! ## Numerals -/

namespace Numeral

/-- The digits at the front of a text are digits. -/
theorem spanDigits_eq {text digits rest : List Char} (h : spanDigits text = (digits, rest)) :
    text = digits ++ rest ∧ ∀ c ∈ digits, c.isDigit = true := by
  obtain ⟨rfl, rfl⟩ := Prod.mk.inj h
  exact ⟨List.takeWhile_append_dropWhile.symm, List.all_eq_true.1 List.all_takeWhile⟩

theorem integerText_of_scanInteger {text integer rest : List Char}
    (h : scanInteger text = .ok (integer, rest)) : text = integer ++ rest ∧ IntegerText integer := by
  have hzero : IntegerText ['0'] := ⟨⟨nofun, by simp⟩, fun _ => rfl⟩
  unfold scanInteger at h
  split at h
  · cases h
  · split at h
    · split at h
      · cases h
      · obtain ⟨rfl, rfl⟩ := Prod.mk.inj (Except.ok.inj h)
        exact ⟨rfl, hzero⟩
    · obtain ⟨rfl, rfl⟩ := Prod.mk.inj (Except.ok.inj h)
      exact ⟨rfl, hzero⟩
  · next c tail hne =>
    split at h
    · next hdigit =>
      obtain ⟨htext, hall⟩ := spanDigits_eq (Except.ok.inj h)
      -- The first character is a digit other than zero, and it is taken.
      cases integer with
      | nil =>
        have hspan := congrArg Prod.fst (Except.ok.inj h)
        simp [spanDigits, hdigit] at hspan
      | cons d integer =>
        obtain ⟨rfl, -⟩ := List.cons.inj htext
        refine ⟨htext, ⟨nofun, hall⟩, fun hhead => ?_⟩
        exact absurd (Option.some.inj hhead) hne
    · cases h

theorem fractionText_of_scanFraction {text rest : List Char} {fraction : Option (List Char)}
    (h : scanFraction text = .ok (fraction, rest)) :
    ∃ body, text = body ++ rest ∧ FractionText body fraction := by
  unfold scanFraction at h
  split at h
  · split at h
    · cases h
    · cases h
    · next digits _ _ hne hspan =>
      obtain ⟨rfl, rfl⟩ := Prod.mk.inj (Except.ok.inj h)
      obtain ⟨rfl, hall⟩ := spanDigits_eq hspan
      exact ⟨'.' :: digits, rfl, .present ⟨hne, hall⟩⟩
  · obtain ⟨rfl, rfl⟩ := Prod.mk.inj (Except.ok.inj h)
    exact ⟨[], rfl, .absent⟩

/-- A sign that is cut off was a plus sign, a minus sign or none at all. -/
theorem scanSign_cases {text rest : List Char} {negative : Bool}
    (h : scanSign text = (negative, rest)) :
    (negative = false ∧ text = rest) ∨ (negative = false ∧ text = '+' :: rest) ∨
      (negative = true ∧ text = '-' :: rest) := by
  unfold scanSign at h
  split at h <;> obtain ⟨rfl, rfl⟩ := Prod.mk.inj h <;> simp

theorem exponentText_of_scanExponent {text rest : List Char}
    {exponent : Option (Bool × List Char)} (h : scanExponent text = .ok (exponent, rest)) :
    ∃ body, text = body ++ rest ∧ ExponentText body exponent := by
  unfold scanExponent at h
  split at h
  · next c tail =>
    split at h
    · next hmark =>
      have hmem : c ∈ ['e', 'E'] := by simpa using hmark
      split at h
      next negative signed hsign =>
      split at h
      · cases h
      · cases h
      · next digits _ _ hne hspan =>
        obtain ⟨rfl, rfl⟩ := Prod.mk.inj (Except.ok.inj h)
        obtain ⟨rfl, hall⟩ := spanDigits_eq hspan
        have hdigits : Digits digits := ⟨hne, hall⟩
        rcases scanSign_cases hsign with ⟨rfl, rfl⟩ | ⟨rfl, rfl⟩ | ⟨rfl, rfl⟩
        · exact ⟨c :: digits, rfl, .unsigned hmem hdigits⟩
        · exact ⟨c :: '+' :: digits, rfl, .plus hmem hdigits⟩
        · exact ⟨c :: '-' :: digits, rfl, .minus hmem hdigits⟩
    · obtain ⟨rfl, rfl⟩ := Prod.mk.inj (Except.ok.inj h)
      exact ⟨[], rfl, .absent⟩
  · obtain ⟨rfl, rfl⟩ := Prod.mk.inj (Except.ok.inj h)
    exact ⟨[], rfl, .absent⟩

/-- What is cut off as a numeral without its sign is that numeral. -/
theorem unsignedText_of_scan {negative : Bool} {text rest : List Char} {numeral : Numeral}
    (h : scan negative text = .ok (numeral, rest)) :
    ∃ body, text = body ++ rest ∧ UnsignedText body numeral ∧ numeral.negative = negative := by
  unfold scan at h
  split at h
  · cases h
  · next integer _ hinteger =>
    split at h
    · cases h
    · next fraction _ hfraction =>
      split at h
      · cases h
      · next exponent _ hexponent =>
        obtain ⟨rfl, rfl⟩ := Prod.mk.inj (Except.ok.inj h)
        obtain ⟨rfl, hintegerText⟩ := integerText_of_scanInteger hinteger
        obtain ⟨fractionText, rfl, hfractionText⟩ := fractionText_of_scanFraction hfraction
        obtain ⟨exponentText, rfl, hexponentText⟩ := exponentText_of_scanExponent hexponent
        refine ⟨integer ++ (fractionText ++ exponentText), ?_,
          .mk hintegerText hfractionText hexponentText, rfl⟩
        simp only [List.append_assoc]

end Numeral

/-! ## Scalars -/

/-- Only the literal itself is read as a literal. -/
theorem eq_of_readLiteral {literal text rest : List Char} {value result : Json}
    (h : readLiteral value literal text = .ok (result, rest)) :
    result = value ∧ text = literal ++ rest := by
  induction literal generalizing text with
  | nil =>
    obtain ⟨rfl, rfl⟩ := Prod.mk.inj (Except.ok.inj h)
    exact ⟨rfl, rfl⟩
  | cons c literal ih =>
    cases text with
    | nil => cases h
    | cons d text =>
      unfold readLiteral at h
      split at h
      · next heq =>
        obtain ⟨hresult, rfl⟩ := ih h
        exact ⟨hresult, by rw [heq, List.cons_append]⟩
      · cases h

/-- What is read as a number is a numeral of that number. -/
theorem numeralText_of_read {c : Char} {rest after : List Char} {value : Number}
    (h : Numeral.read (c = '-') (if c = '-' then rest else c :: rest) = .ok (value, after)) :
    ∃ body numeral, c :: rest = body ++ after ∧ NumeralText body numeral ∧
      numeral.value? = some value := by
  unfold Numeral.read at h
  split at h
  · cases h
  · next numeral _ hscan =>
    split at h
    · next value' hvalue =>
      obtain ⟨rfl, rfl⟩ := Prod.mk.inj (Except.ok.inj h)
      obtain ⟨body, htext, hunsigned, hsign⟩ := Numeral.unsignedText_of_scan hscan
      by_cases hminus : c = '-'
      · rw [if_pos hminus] at htext
        refine ⟨'-' :: body, numeral, ?_, .negative ?_ hunsigned, hvalue⟩
        · rw [htext, hminus, List.cons_append]
        · rw [hsign, decide_eq_true hminus]
      · rw [if_neg hminus] at htext
        refine ⟨body, numeral, htext, .positive ?_ hunsigned, hvalue⟩
        rw [hsign, decide_eq_false hminus]
    · cases h

/-- What is read as a scalar is a text of it. -/
theorem derives_of_readScalar {c : Char} {rest after : List Char} {value : Json}
    (h : readScalar c rest = .ok (value, after)) (depth : Nat) :
    ∃ body, c :: rest = body ++ after ∧ Derives depth body (.value value) := by
  unfold readScalar at h
  split at h
  · obtain ⟨rfl, rfl⟩ := eq_of_readLiteral h
    exact ⟨"null".toList, by simp, .nullLiteral⟩
  · obtain ⟨rfl, rfl⟩ := eq_of_readLiteral h
    exact ⟨"true".toList, by simp, .trueLiteral⟩
  · obtain ⟨rfl, rfl⟩ := eq_of_readLiteral h
    exact ⟨"false".toList, by simp, .falseLiteral⟩
  · split at h
    · cases h
    · next text _ hread =>
      obtain ⟨rfl, rfl⟩ := Prod.mk.inj (Except.ok.inj h)
      obtain ⟨body, rfl, hstring⟩ := stringText_of_readString hread
      exact ⟨'"' :: body, rfl, .string hstring⟩
  · split at h
    · split at h
      · cases h
      · next number _ hread =>
        obtain ⟨rfl, rfl⟩ := Prod.mk.inj (Except.ok.inj h)
        obtain ⟨body, numeral, htext, hnumeral, hvalue⟩ := numeralText_of_read hread
        exact ⟨body, htext, .number hnumeral hvalue⟩
    · cases h

/-! ## Values -/

/-- What the readers of values take in a number of steps is derived by the grammar.  Blanks may stand
    in front of the items of an array and of its members in front of an object: they were skipped
    before the reader was called. -/
structure Sound (steps : Nat) : Prop where
  value {depth : Nat} {text rest : List Char} {value : Json} :
    readValue steps depth text = .ok (value, rest) →
      ∃ blanks body, Blanks blanks ∧ text = blanks ++ (body ++ rest) ∧
        Derives depth body (.value value)
  items {depth : Nat} {done : List Json} {text rest : List Char} {value : Json} :
    readItems steps depth done text = .ok (value, rest) →
      ∃ body items, text = body ++ ']' :: rest ∧ value = .arr (done.reverse ++ items) ∧
        ∀ blanks, Blanks blanks → Derives depth (blanks ++ body) (.items items)
  members {depth : Nat} {done : List (String × Json)} {text rest : List Char} {value : Json} :
    readMembers steps depth done text = .ok (value, rest) →
      ∃ body members, text = body ++ '}' :: rest ∧ value = .obj (done.reverse ++ members) ∧
        ∀ blanks, Blanks blanks → Derives depth (blanks ++ '"' :: body) (.members members)

namespace Sound

variable {steps depth : Nat} {text rest : List Char} {value : Json}

theorem zero : Sound 0 where
  value h := by cases h
  items h := by cases h
  members h := by cases h

theorem value_succ (h : Sound steps) (hread : readValue (steps + 1) depth text = .ok (value, rest)) :
    ∃ blanks body, Blanks blanks ∧ text = blanks ++ (body ++ rest) ∧
      Derives depth body (.value value) := by
  rw [readValue] at hread
  split at hread
  · cases hread
  · -- An array.
    next rest' hskip =>
    obtain ⟨before, hbefore, rfl⟩ := exists_blanks_of_skipSpace hskip
    split at hread
    · cases hread
    · next depth =>
      split at hread
      · cases hread
      · next inner hinner =>
        obtain ⟨rfl, rfl⟩ := Prod.mk.inj (Except.ok.inj hread)
        obtain ⟨blanks, hblanks, rfl⟩ := exists_blanks_of_skipSpace hinner
        exact ⟨before, '[' :: (blanks ++ [']']), hbefore, by simp, .emptyArray hblanks⟩
      · obtain ⟨blanks, hblanks, hinner⟩ := exists_blanks_of_skipSpace (rfl : skipSpace rest' = _)
        obtain ⟨body, items, hbody, rfl, hitems⟩ := h.items hread
        refine ⟨before, '[' :: ((blanks ++ body) ++ [']']), hbefore, ?_,
          .array (hitems blanks hblanks)⟩
        rw [hinner, hbody]
        simp
  · -- An object.
    next rest' hskip =>
    obtain ⟨before, hbefore, rfl⟩ := exists_blanks_of_skipSpace hskip
    split at hread
    · cases hread
    · next depth =>
      split at hread
      · cases hread
      · next inner hinner =>
        obtain ⟨rfl, rfl⟩ := Prod.mk.inj (Except.ok.inj hread)
        obtain ⟨blanks, hblanks, rfl⟩ := exists_blanks_of_skipSpace hinner
        exact ⟨before, '{' :: (blanks ++ ['}']), hbefore, by simp, .emptyObject hblanks⟩
      · next inner hinner =>
        obtain ⟨blanks, hblanks, rfl⟩ := exists_blanks_of_skipSpace hinner
        obtain ⟨body, members, rfl, rfl, hmembers⟩ := h.members hread
        exact ⟨before, '{' :: ((blanks ++ '"' :: body) ++ ['}']), hbefore, by simp,
          .object (hmembers blanks hblanks)⟩
      · cases hread
  · -- Anything else is a scalar.
    next c rest' _ _ hskip =>
    obtain ⟨before, hbefore, rfl⟩ := exists_blanks_of_skipSpace hskip
    obtain ⟨body, htext, hvalue⟩ := derives_of_readScalar hread depth
    exact ⟨before, body, hbefore, by rw [htext], hvalue⟩

theorem items_succ (h : Sound steps) {done : List Json}
    (hread : readItems (steps + 1) depth done text = .ok (value, rest)) :
    ∃ body items, text = body ++ ']' :: rest ∧ value = .arr (done.reverse ++ items) ∧
      ∀ blanks, Blanks blanks → Derives depth (blanks ++ body) (.items items) := by
  rw [readItems] at hread
  split at hread
  · cases hread
  · next item rest' hitem =>
    obtain ⟨before, body, hbefore, rfl, hvalue⟩ := h.value hitem
    split at hread
    · cases hread
    · next inner hinner =>
      obtain ⟨rfl, rfl⟩ := Prod.mk.inj (Except.ok.inj hread)
      obtain ⟨after, hafter, rfl⟩ := exists_blanks_of_skipSpace hinner
      refine ⟨before ++ (body ++ after), [item], by simp, by simp, fun blanks hblanks => ?_⟩
      -- Blanks in front of the item were skipped in two places.
      rw [← List.append_assoc]
      exact .lastItem (.element (hblanks.append hbefore) hvalue hafter)
    · next inner hinner =>
      obtain ⟨after, hafter, rfl⟩ := exists_blanks_of_skipSpace hinner
      split at hread
      · cases hread
      · cases hread
      · -- Behind a comma the blanks are skipped at once, so they stand in front of the next items.
        obtain ⟨between, hbetween, hfront⟩ := exists_blanks_of_skipSpace (rfl : skipSpace inner = _)
        obtain ⟨more, items, hmore, rfl, hitems⟩ := h.items hread
        refine ⟨before ++ (body ++ after) ++ ',' :: (between ++ more), item :: items, ?_,
          by simp, fun blanks hblanks => ?_⟩
        · rw [hfront, hmore]
          simp
        have helement := Derives.element (hblanks.append hbefore) hvalue hafter
        rw [List.append_assoc] at helement
        rw [← List.append_assoc]
        exact .nextItem helement (hitems between hbetween)
    · cases hread

theorem members_succ (h : Sound steps) {done : List (String × Json)}
    (hread : readMembers (steps + 1) depth done text = .ok (value, rest)) :
    ∃ body members, text = body ++ '}' :: rest ∧ value = .obj (done.reverse ++ members) ∧
      ∀ blanks, Blanks blanks → Derives depth (blanks ++ '"' :: body) (.members members) := by
  rw [readMembers] at hread
  split at hread
  · cases hread
  · next name rest' hname =>
    obtain ⟨quoted, rfl, hstring⟩ := stringText_of_readString hname
    split at hread
    · cases hread
    · next inner hinner =>
      obtain ⟨between, hbetween, rfl⟩ := exists_blanks_of_skipSpace hinner
      split at hread
      · cases hread
      · next item _ hitem =>
        obtain ⟨before, body, hbefore, rfl, hvalue⟩ := h.value hitem
        split at hread
        · cases hread
        · next inner hinner =>
          obtain ⟨rfl, rfl⟩ := Prod.mk.inj (Except.ok.inj hread)
          obtain ⟨after, hafter, rfl⟩ := exists_blanks_of_skipSpace hinner
          refine ⟨quoted ++ (between ++ ':' :: (before ++ (body ++ after))), [(name, item)],
            by simp, by simp, fun blanks hblanks => ?_⟩
          exact .lastMember (.member hblanks hstring hbetween (.element hbefore hvalue hafter))
        · next inner hinner =>
          obtain ⟨after, hafter, rfl⟩ := exists_blanks_of_skipSpace hinner
          split at hread
          · cases hread
          · next behind hbehind =>
            obtain ⟨front, hfront, rfl⟩ := exists_blanks_of_skipSpace hbehind
            obtain ⟨more, members, rfl, rfl, hmembers⟩ := h.members hread
            refine ⟨quoted ++ (between ++ ':' :: (before ++ (body ++ after))) ++
              ',' :: (front ++ '"' :: more), (name, item) :: members, by simp, by simp,
              fun blanks hblanks => ?_⟩
            have hmember :=
              Derives.member hblanks hstring hbetween (.element hbefore hvalue hafter)
            have hboth := hmember.nextMember (hmembers front hfront)
            simpa using hboth
          · cases hread
          · cases hread
        · cases hread
    · cases hread

theorem succ (h : Sound steps) : Sound (steps + 1) where
  value := h.value_succ
  items := h.items_succ
  members := h.members_succ

end Sound

/-- What the readers of values take is derived by the grammar, however many steps they have. -/
theorem sound (steps : Nat) : Sound steps := by
  induction steps with
  | zero => exact .zero
  | succ steps ih => exact ih.succ

/-! ## Whole texts -/

/-- What is read as a whole is a text of the value that was read. -/
theorem isText_of_read {text : String} {value : Json} (h : read text = .ok value) :
    IsText text.toList value := by
  unfold read readWhole at h
  split at h
  · cases h
  · next value' rest hread =>
    split at h
    · next hend =>
      obtain rfl := Except.ok.inj h
      obtain ⟨after, hafter, rfl⟩ := exists_blanks_of_skipSpace hend
      obtain ⟨before, body, hbefore, htext, hvalue⟩ := (sound _).value hread
      rw [htext, List.append_nil]
      exact .element hbefore hvalue hafter
    · cases h

/-- A text is read as a value exactly if the grammar derives it as a text of that value. -/
theorem read_eq_ok_iff {text : String} {value : Json} :
    read text = .ok value ↔ IsText text.toList value :=
  ⟨isText_of_read, read_of_isText⟩

/-- A text is decoded from its UTF-8 form and from no other bytes. -/
theorem fromUTF8?_eq_some_iff {bytes : ByteArray} {text : String} :
    String.fromUTF8? bytes = some text ↔ bytes = text.toUTF8 := by
  unfold String.fromUTF8?
  constructor
  · intro h
    split at h
    · obtain rfl := Option.some.inj h
      rfl
    · cases h
  · rintro rfl
    rw [String.toUTF8_eq_toByteArray, dif_pos text.isValidUTF8]
    rfl

/-- Bytes are read as a value exactly if they are the UTF-8 form of a text of that value. -/
theorem ofBytes_eq_ok_iff {bytes : ByteArray} {value : Json} :
    ofBytes bytes = .ok value ↔ IsEncoding bytes value := by
  have htext {text : String} (hbytes : String.fromUTF8? bytes = some text) :
      ofBytes bytes = .ok value ↔ read text = .ok value := by
    simp only [ofBytes, hbytes]
    cases read text <;> simp
  constructor
  · intro h
    cases hbytes : String.fromUTF8? bytes with
    | none =>
      -- Bytes that are not UTF-8 are reported and not read.
      rw [ofBytes, hbytes] at h
      nomatch h
    | some text =>
      exact ⟨text, fromUTF8?_eq_some_iff.1 hbytes, read_eq_ok_iff.1 ((htext hbytes).1 h)⟩
  · rintro ⟨text, hbytes, h⟩
    exact (htext (fromUTF8?_eq_some_iff.2 hbytes)).2 (read_eq_ok_iff.2 h)

/-- Where only the value counts, it is that of the encoding. -/
theorem ofBytes?_eq_some_iff {bytes : ByteArray} {value : Json} :
    ofBytes? bytes = some value ↔ IsEncoding bytes value := by
  rw [← ofBytes_eq_ok_iff, ofBytes?]
  cases ofBytes bytes <;> simp [Except.toOption]

end CardServer.Json
