import CardServer.Proofs.Settings.Numeral

/-! # What the formats make of the digits of a number

Each format of settings files has its own way from the digits of a natural number to a setting.
`FileFormat.Gives` follows these ways, from where the digits have been found in a file to where the
setting is made.  In sections of lines, as in variables, all settings are texts.  Json and relaxed Json,
files of tables and files of blocks cut the digits off first and then convert them; a file of records is
read byte by byte, so there the digits stand in front of a byte that is no part of a number.

* `Ron.run_number`    a number in a file of records
* `exists_gives`      an integer that 64 bits with a sign hold is refused in no format
* `writes_of_gives`   what a format gives is what is written
-/

namespace CardServer.Settings

/-! ## Digits -/

/-- Digits are other characters than all that are none. -/
theorem IsDecimal.ne {digits : List Char} {n : Nat} (h : IsDecimal digits n) {c mark : Char}
    (hc : c ∈ digits) (hmark : mark.isDigit = false) : c ≠ mark := by
  rintro rfl
  rw [h.1.2 c hc] at hmark
  nomatch hmark

theorem IsDecimal.exists_cons {digits : List Char} {n : Nat} (h : IsDecimal digits n) :
    ∃ first more, digits = first :: more ∧ first.isDigit = true := by
  obtain ⟨first, more, hdigits⟩ := List.exists_cons_of_ne_nil h.1.1
  exact ⟨first, more, hdigits, h.1.2 first (by simp [hdigits])⟩

namespace Format

/-! ## Files of records -/

/-- A front of one class ends where something else follows. -/
theorem takeWhile_append_of_head? {α : Type} {p : α → Bool} {front rest : List α}
    (hfront : ∀ c ∈ front, p c = true) (hrest : ∀ c, rest.head? = some c → p c = false) :
    (front ++ rest).takeWhile p = front := by
  rw [List.takeWhile_append_of_pos hfront]
  cases rest with
  | nil => simp
  | cons c rest => simp [hrest c rfl]

namespace Ron

open Read

/-- Whether a byte may stand behind a number: no letter, no digit, and no mark that numbers have. -/
def endsNumber (c : Char) : Bool :=
  !(c.isUpper || c.isLower || c.isDigit || "_.+-".toList.contains c)

theorem isIntegerChar_of_isDigit {c : Char} (h : c.isDigit = true) : isIntegerChar c = true := by
  have hvalue := Json.Numeral.digitValue_le h
  rw [Json.digitValue] at hvalue
  simp only [isIntegerChar, isDigitTo, digitValue?, h, if_true]
  rw [if_pos (by omega)]
  rfl

theorem isIntegerChar_of_endsNumber {c : Char} (h : endsNumber c = true) :
    isIntegerChar c = false := by
  simp only [endsNumber, Bool.not_eq_true', Bool.or_eq_false_iff] at h
  obtain ⟨⟨⟨hupper, hlower⟩, hdigit⟩, hmarks⟩ := h
  have hmark : c ≠ '_' := by
    rintro rfl
    exact absurd hmarks (by decide)
  simp [isIntegerChar, isDigitTo, digitValue?, hdigit, hlower, hupper, hmark]

theorem isRealChar_of_endsNumber {c : Char} (h : endsNumber c = true) : isRealChar c = false := by
  cases hreal : isRealChar c with
  | false => rfl
  | true =>
    simp only [isRealChar, Bool.or_eq_true, decide_eq_true_eq] at hreal
    rcases hreal with (((((hdigit | rfl) | rfl) | rfl) | rfl) | rfl) | rfl
    · simp [endsNumber, hdigit] at h
    all_goals exact absurd h (by decide)

variable {α β : Type} {cursor : Cursor}

theorem run_bind (read : Read α) (next : α → Read β) :
    (ExceptT.run (read >>= next)).run cursor =
      match (ExceptT.run read).run cursor with
      | (.ok a, after) => (ExceptT.run (next a)).run after
      | (.error fault, after) => (.error fault, after) := by
  show (match (ExceptT.run read).run cursor with
    | (result, after) => (ExceptT.bindCont next result).run after) = _
  cases (ExceptT.run read).run cursor with
  | mk result after => cases result <;> rfl

theorem run_pure (a : α) : (ExceptT.run (pure a : Read α)).run cursor = (.ok a, cursor) := rfl

theorem run_rest : (ExceptT.run Read.rest).run cursor = (.ok cursor.rest, cursor) := rfl

theorem run_pass (count : Nat) :
    (ExceptT.run (pass count)).run cursor = (.ok (), cursor.behind count) := rfl

theorem run_modify (change : Cursor → Cursor) :
    (ExceptT.run (modify change : Read PUnit)).run cursor = (.ok (), change cursor) := rfl

/-- A word that does not start with a digit is not taken in front of one. -/
theorem run_acceptWord {word : String} {next : Char} {rest : List Char}
    (hword : word.toList.head?.any (fun c => !c.isDigit) = true) (hrest : cursor.rest = next :: rest)
    (hnext : next.isDigit = true) :
    (ExceptT.run (acceptWord word)).run cursor = (.ok false, cursor) := by
  have hprefix : word.toList.isPrefixOf cursor.rest = false := by
    rw [hrest]
    cases hletters : word.toList with
    | nil => simp [hletters] at hword
    | cons first letters =>
      rw [List.isPrefixOf_cons_cons, Bool.and_eq_false_iff]
      left
      rw [beq_eq_false_iff_ne]
      rintro rfl
      simp [hletters, hnext] at hword
  simp only [acceptWord, isNext, run_bind, run_rest, run_pure, hprefix, Bool.and_false,
    Bool.false_eq_true, if_false]

section

variable {digits rest : List Char} {n : Nat} (h : IsDecimal digits n)
  (hrest : cursor.rest = digits ++ rest) (hend : ∀ c, rest.head? = some c → endsNumber c = true)

include h hend in
theorem takeWhile_isIntegerChar : (digits ++ rest).takeWhile isIntegerChar = digits :=
  takeWhile_append_of_head? (fun c hc => isIntegerChar_of_isDigit (h.1.2 c hc))
    fun c hc => isIntegerChar_of_endsNumber (hend c hc)

include h hend in
theorem takeWhile_isRealChar : (digits ++ rest).takeWhile isRealChar = digits :=
  takeWhile_append_of_head? (fun c hc => by simp [isRealChar, h.1.2 c hc])
    fun c hc => isRealChar_of_endsNumber (hend c hc)

include h hend in
/-- Digits do not say that they are to another base than ten. -/
theorem baseOf_digits : baseOf (digits ++ rest) = (10, 0) := by
  have hsecond : ∀ mark others, digits ++ rest = '0' :: mark :: others →
      mark.isDigit = true ∨ endsNumber mark = true := by
    intro mark others hsame
    match digits, h.1 with
    | [c], _ =>
      have hhead : rest = mark :: others := (List.cons.inj hsame).2
      exact .inr (hend mark (by rw [hhead]; rfl))
    | c :: d :: more, hdigits =>
      have hd : d = mark := (List.cons.inj (List.cons.inj hsame).2).1
      exact .inl (hdigits.2 mark (by simp [hd]))
  unfold baseOf
  split
  all_goals
    first
      | rfl
      | next hsame => exact absurd (hsecond _ _ hsame) (by decide)

include h hrest hend in
/-- An integer is passed if 64 bits hold it. -/
theorem run_integer? : (ExceptT.run Read.integer?).run cursor =
    (.ok (if n ≤ greatestNatural then some (n : Int) else none), cursor.behind digits.length) := by
  obtain ⟨first, more, rfl, -⟩ := h.exists_cons
  have hne (mark : Char) (hmark : mark.isDigit = false) : first ≠ mark :=
    h.ne (List.mem_cons_self ..) hmark
  have hsign : (first :: more ++ rest).head?.filter (fun c => c = '+' || c = '-') = none := by
    simp [hne '+' (by decide), hne '-' (by decide)]
  have hhead : (first :: more).head?.all (· = '_') = false := by
    simp [hne '_' (by decide)]
  have hfilter : (first :: more).filter (· != '_') = first :: more :=
    List.filter_eq_self.2 fun c hc => by simpa using h.ne hc (by decide : '_'.isDigit = false)
  have hstay : cursor.behind 0 = cursor := rfl
  simp only [Read.integer?, integer?.peek?, run_bind, run_rest, run_pass, run_pure, hrest, hsign,
    Option.isSome_none, Bool.false_eq_true, if_false, baseOf_digits h hend, hstay,
    takeWhile_isIntegerChar h hend, hhead, hfilter, natural?_of_isDecimal h, Option.map_some,
    reduceCtorEq, Option.filter_some]
  simp

include h hrest hend in
/-- Digits that are passed as a number with a fraction are rounded. -/
theorem run_real : (ExceptT.run real).run cursor =
    (.ok (.ofDecimal false n 0), cursor.behind digits.length) := by
  have hmark : digits.contains '_' = false := by
    rw [List.contains_eq_mem, decide_eq_false_iff_not]
    exact fun hc => h.ne hc (by decide) rfl
  obtain ⟨next, more, hdigits, hnext⟩ := h.exists_cons
  have hstart : cursor.rest = next :: (more ++ rest) := by
    rw [hrest, hdigits]
    rfl
  -- None of the words for a number starts with a digit.
  have hword (word : String) (hfirst : word.toList.head?.any (fun c => !c.isDigit) = true) :
      (ExceptT.run (acceptWord word)).run cursor = (.ok false, cursor) :=
    run_acceptWord hfirst hstart hnext
  simp only [real, real.words, List.forIn_cons, List.forIn_nil, run_bind, run_rest, run_pass,
    run_pure, hrest, hword "inf" (by decide), hword "+inf" (by decide), hword "-inf" (by decide),
    hword "NaN" (by decide), hword "+NaN" (by decide), hword "-NaN" (by decide),
    Bool.false_eq_true, if_false, takeWhile_isRealChar h hend, hmark, decimal?_of_isDecimal h]

include h hrest hend in
/-- A number in a file of records is kept if 64 bits with a sign hold it, and rounded if not. -/
theorem run_number : ∃ after, (ExceptT.run number).run cursor =
    (.ok (if n < 9223372036854775808 then .int n else .real (.ofDecimal false n 0)), after) := by
  have hsign : (digits ++ rest).head?.any (fun c => c = '+' || c = '-') = false := by
    obtain ⟨first, more, hdigits, -⟩ := h.exists_cons
    have hmem : first ∈ digits := by simp [hdigits]
    have hplus : first ≠ '+' := h.ne hmem (by decide)
    have hminus : first ≠ '-' := h.ne hmem (by decide)
    simp [hdigits, hplus, hminus]
  simp only [number, run_bind, run_rest, hrest, hsign, takeWhile_isIntegerChar h hend,
    takeWhile_isRealChar h hend, Nat.lt_irrefl, Bool.false_eq_true, if_false,
    run_integer? h hrest hend]
  rcases Nat.lt_or_ge greatestNatural n with hgreat | hsmall
  · -- What is no integer is read once more from where it starts.
    have hlarge : ¬ n < 9223372036854775808 := by
      simp only [greatestNatural] at hgreat
      omega
    rw [if_neg (Nat.not_le.2 hgreat), if_neg hlarge]
    simp only [run_bind, run_modify, run_pure]
    rw [run_real h rfl hend]
    exact ⟨_, rfl⟩
  · rw [if_pos hsmall]
    have hbound : (n : Int) ≤ greatestInteger ↔ n < 9223372036854775808 := by
      simp only [greatestInteger]
      omega
    have hinteger : Number.ofInt n =
        if n < 9223372036854775808 then .int n else .real (.ofDecimal false n 0) := by
      simp only [Number.ofInt, hbound, Int.toNat_natCast]
    exact ⟨_, by rw [← hinteger]; exact run_pure _⟩

end

end Ron

/-! ## The other formats -/

/-- Json keeps an integer of 64 bits with a sign and rounds a greater one, in one way or another. -/
theorem writes_json {digits : List Char} {n : Nat} {number : Json.Number} (h : IsDecimal digits n)
    (hnumber : Json.Numeral.value? ⟨false, digits, none, none⟩ = some number) :
    Writes n (Json.number number) := by
  have hcases := Json.Numeral.value?_of_natural h.1 hnumber
  rw [h.2] at hcases
  rcases hcases with rfl | ⟨-, x, rfl, -⟩
  · rcases Nat.lt_or_ge n 9223372036854775808 with hsmall | hgreat
    · rw [Json.number, if_pos (by simp only [Json.tooGreat]; omega)]
      exact .integer
    · rw [Json.number, if_neg (by simp only [Json.tooGreat]; omega), Int.toNat_natCast]
      exact .rounded hgreat
  · exact .numeral h hnumber

/-- Relaxed Json has an integer of 64 bits with a sign and refuses a greater one. -/
theorem scalar_of_isDecimal {text : String} {n : Nat} (h : IsDecimal text.toList n) :
    (n < 9223372036854775808 → Json5.scalar text.toList = .ok (.int n)) ∧
      (9223372036854775808 ≤ n → ∃ fault, Json5.scalar text.toList = .error fault) := by
  have hnot : ∀ c, c.isDigit = false → c ∉ text.toList := fun c hc hmem => h.ne hmem hc rfl
  have hfront : ∀ front : String, front.toList.all Char.isDigit = false →
      text.startsWith front = false := by
    intro front hfront
    rw [String.startsWith_string_eq_false_iff]
    intro hstarts
    rw [List.all_eq_true.2 fun c hc => h.1.2 c (hstarts.subset hc)] at hfront
    nomatch hfront
  -- No mark of another way to write a number is in front of the integer or in it.
  constructor
  · intro hsmall
    have hinteger : integer? 10 text.toList = some (n : Int) := by
      rw [integer?_of_isDecimal h, if_pos hsmall]
    simp [Json5.scalar, ne_of_digits h.1, hfront, hnot, hinteger]
  · intro hgreat
    have hinteger : integer? 10 text.toList = none := by
      rw [integer?_of_isDecimal h, if_neg (Nat.not_lt.2 hgreat)]
    simp [Json5.scalar, ne_of_digits h.1, hfront, hnot, hinteger]

/-- A file of tables has such an integer, and refuses a greater one as well. -/
theorem run_integerOf {digits start text : List Char} {n : Nat} (h : IsDecimal digits n) :
    (n < 9223372036854775808 →
        (Toml.integerOf start 10 digits).run text = .ok ((n : Int), text)) ∧
      (9223372036854775808 ≤ n →
        ∃ stop, (Toml.integerOf start 10 digits).run text = .error stop) := by
  constructor
  · intro hsmall
    rw [Toml.integerOf, integer?_of_isDecimal h, if_pos hsmall]
    rfl
  · intro hgreat
    rw [Toml.integerOf, integer?_of_isDecimal h, if_neg (Nat.not_lt.2 hgreat)]
    exact ⟨_, rfl⟩

/-- A file of blocks has an integer of 64 bits with a sign, or else the digits of a rounded number. -/
theorem value_ofPlain {text : String} {n : Nat} (h : IsDecimal text.toList n) (origin : Origin) :
    (Yaml.Node.ofPlain text).value origin = .ok (.scalar origin
      (if n < 9223372036854775808 then .int n else .real (.ofDecimal false n 0))) := by
  have hplain : Yaml.Node.prefixed? text.toList = none := by
    unfold Yaml.Node.prefixed?
    split
    · next htext => exact absurd (h.1.2 'x' (by simp [htext])) (by decide)
    · next htext => exact absurd (h.1.2 'o' (by simp [htext])) (by decide)
    · next htext => exact absurd (h.1.2 '+' (by simp [htext])) (by decide)
    · rfl
  have hword : Yaml.Node.word? text = none := by
    unfold Yaml.Node.word?
    split
    all_goals first | rfl | exact absurd rfl (ne_of_digits h.1 (by decide))
  simp only [Yaml.Node.ofPlain, hplain, hword, Option.map_none, Option.none_or,
    integer?_of_isDecimal h]
  rcases Nat.lt_or_ge n 9223372036854775808 with hsmall | hgreat
  · rw [if_pos hsmall, if_pos hsmall]
    rfl
  · have hreal := real?_of_isDecimal h
    have hnode : Yaml.Node.real? text = some (.real text) := by
      rw [Yaml.Node.real?, hreal]
      simp
    rw [if_neg (Nat.not_lt.2 hgreat), if_neg (Nat.not_lt.2 hgreat), Option.map_none, Option.none_or,
      hnode]
    simp only [Option.getD_some, Yaml.Node.value, hreal]

end Format

/-! ## All formats -/

/-- What becomes of the digits of an integer in a file of some format, where they are not refused. -/
inductive FileFormat.Gives (text : String) : FileFormat → Scalar → Prop
  | json {number : Json.Number}
      (h : Json.Numeral.value? ⟨false, text.toList, none, none⟩ = some number) :
    Gives text .json (Format.Json.number number)
  | json5 {scalar : Scalar} (h : Format.Json5.scalar text.toList = .ok scalar) :
    Gives text .json5 scalar
  | toml {start behind after : List Char} {value : Int}
      (h : (Format.Toml.integerOf start 10 text.toList).run behind = .ok (value, after)) :
    Gives text .toml (.int value)
  | yaml {origin : Origin} {scalar : Scalar}
      (h : (Format.Yaml.Node.ofPlain text).value origin = .ok (.scalar origin scalar)) :
    Gives text .yaml scalar
  | ron {before after : Format.Ron.Cursor} {rest : List Char} {number : Format.Ron.Number}
      {origin : Origin} {scalar : Scalar} (hbefore : before.rest = text.toList ++ rest)
      (hend : ∀ c, rest.head? = some c → Format.Ron.endsNumber c = true)
      (h : (ExceptT.run Format.Ron.Read.number).run before = (.ok number, after))
      (hscalar : (Format.Ron.Datum.number number).value origin = .ok (.scalar origin scalar)) :
    Gives text .ron scalar
  | ini : Gives text .ini (.text text)

variable {text : String} {n : Nat}

/-- An integer of 64 bits with a sign is refused in no format. -/
theorem exists_gives (h : IsDecimal text.toList n) (hn : n < 9223372036854775808)
    (format : FileFormat) : ∃ scalar, format.Gives text scalar := by
  have hjson : Json.Numeral.value? ⟨false, text.toList, none, none⟩ = some (.int n) := by
    rw [← h.2]
    refine Json.Numeral.value?_of_le ?_
    simp only [h.2, Json.Numeral.greatestSignificand]
    omega
  have htoml : (Format.Toml.integerOf [] 10 text.toList).run [] = .ok ((n : Int), []) :=
    (Format.run_integerOf h).1 hn
  -- In a file of records the digits may stand at the end.
  have hbefore : (⟨text.toList, 1, 1⟩ : Format.Ron.Cursor).rest = text.toList ++ [] :=
    (List.append_nil _).symm
  have hend : ∀ c, ([] : List Char).head? = some c → Format.Ron.endsNumber c = true := by
    simp
  obtain ⟨after, hron⟩ := Format.Ron.run_number h hbefore hend
  rw [if_pos hn] at hron
  have hvalue : (Format.Ron.Datum.number (.int n)).value .environment =
      .ok (.scalar Origin.environment (.int n)) := rfl
  cases format with
  | json => exact ⟨_, .json hjson⟩
  | json5 => exact ⟨_, .json5 ((Format.scalar_of_isDecimal h).1 hn)⟩
  | toml => exact ⟨_, .toml htoml⟩
  | yaml => exact ⟨_, .yaml (Format.value_ofPlain h .environment)⟩
  | ron => exact ⟨_, .ron hbefore hend hron hvalue⟩
  | ini => exact ⟨_, .ini⟩

/-- What becomes of the digits of a number is something that is written for it. -/
theorem writes_of_gives (h : IsDecimal text.toList n) {format : FileFormat} {scalar : Scalar}
    (hgives : format.Gives text scalar) : Writes n scalar := by
  cases hgives with
  | json hnumber => exact Format.writes_json h hnumber
  | json5 hjson5 =>
    obtain ⟨hsmall, hgreat⟩ := Format.scalar_of_isDecimal h
    rcases Nat.lt_or_ge n 9223372036854775808 with hn | hn
    · obtain rfl := Except.ok.inj ((hsmall hn).symm.trans hjson5)
      exact .integer
    · obtain ⟨fault, hfault⟩ := hgreat hn
      nomatch hfault.symm.trans hjson5
  | toml htoml =>
    obtain ⟨hsmall, hgreat⟩ := Format.run_integerOf h
    rcases Nat.lt_or_ge n 9223372036854775808 with hn | hn
    · obtain rfl := (Prod.mk.inj (Except.ok.inj ((hsmall hn).symm.trans htoml))).1
      exact .integer
    · obtain ⟨stop, hstop⟩ := hgreat hn
      nomatch hstop.symm.trans htoml
  | yaml hyaml =>
    rw [Format.value_ofPlain h] at hyaml
    obtain ⟨-, rfl⟩ := Value.scalar.inj (Except.ok.inj hyaml)
    split
    · exact .integer
    · next hn => exact .rounded (Nat.not_lt.1 hn)
  | ron hbefore hend hrun hvalue =>
    obtain ⟨after, hnumber⟩ := Format.Ron.run_number h hbefore hend
    obtain rfl := Except.ok.inj (Prod.mk.inj (hnumber.symm.trans hrun)).1
    rcases Nat.lt_or_ge n 9223372036854775808 with hn | hn
    · rw [if_pos hn] at hvalue
      obtain ⟨-, rfl⟩ := Value.scalar.inj (Except.ok.inj hvalue)
      exact .integer
    · rw [if_neg (Nat.not_lt.2 hn)] at hvalue
      obtain ⟨-, rfl⟩ := Value.scalar.inj (Except.ok.inj hvalue)
      exact .rounded hn
  | ini => exact .digits h

end CardServer.Settings
