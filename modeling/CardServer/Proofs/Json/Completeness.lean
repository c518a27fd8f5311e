import CardServer.Proofs.Json.Token

/-! # The reader reads every Json text

What the grammar derives, the reader accepts, and it gives the value that the text stands for.

`Reads` says of a phrase and a text how the reader comes through the text, whatever it has read
before and whatever follows.  One lemma for each rule of the grammar shows that the rule keeps
`Reads`, and the induction over derivations puts them together.  Two steps of the reader for each
character are always enough.

* `reads_of_derives`   a text that the grammar derives as a phrase is read as that phrase
* `read_of_isText`     a text that the grammar derives as a whole is read
-/

namespace CardServer.Json

open Grammar

/-! ## Blanks -/

theorem isSpace_of_mem {c : Char} (h : c ∈ [' ', '\t', '\n', '\r']) : isSpace c = true := by
  simp only [List.mem_cons, List.not_mem_nil, or_false] at h
  rcases h with rfl | rfl | rfl | rfl <;> decide

/-- Blanks in front of a text are skipped. -/
theorem skipSpace_append {blanks text : List Char} (h : Blanks blanks) :
    skipSpace (blanks ++ text) = skipSpace text :=
  List.dropWhile_append_of_pos fun c hc => isSpace_of_mem (h c hc)

theorem skipSpace_cons {c : Char} {text : List Char} (h : isSpace c = false) :
    skipSpace (c :: text) = c :: text := by
  simp [skipSpace, h]

/-- Blanks are skipped up to the first character that is none. -/
theorem skipSpace_append_cons {blanks rest : List Char} {c : Char} (h : Blanks blanks)
    (hc : isSpace c = false) : skipSpace (blanks ++ c :: rest) = c :: rest := by
  rw [skipSpace_append h, skipSpace_cons hc]

theorem skipSpace_skipSpace (text : List Char) : skipSpace (skipSpace text) = skipSpace text := by
  induction text with
  | nil => rfl
  | cons c text ih =>
    cases hc : isSpace c with
    | true =>
      have hskip : skipSpace (c :: text) = skipSpace text := by simp [skipSpace, hc]
      rw [hskip, ih]
    | false => rw [skipSpace_cons hc, skipSpace_cons hc]

/-- Between the parts of an array or object, and at its end, stands a character of its own. -/
def Delimited (rest : List Char) : Prop := ∀ c ∈ rest.head?, c ∈ [',', ']', '}']

theorem skipSpace_delimited {rest : List Char} (h : Delimited rest) : skipSpace rest = rest := by
  cases rest with
  | nil => rfl
  | cons c rest =>
    have hc := h c rfl
    simp only [List.mem_cons, List.not_mem_nil, or_false] at hc
    rcases hc with rfl | rfl | rfl <;> rfl

theorem endsNumeral_append {blanks rest : List Char} (h : Blanks blanks) (hrest : Delimited rest) :
    EndsNumeral (blanks ++ rest) := by
  intro c hc
  have hmem : c ∈ [' ', '\t', '\n', '\r'] ∨ c ∈ [',', ']', '}'] := by
    cases blanks with
    | nil => exact .inr (hrest c hc)
    | cons b blanks =>
      obtain rfl := Option.some.inj hc
      exact .inl (h b (List.mem_cons_self))
  simp only [List.mem_cons, List.not_mem_nil, or_false] at hmem
  rcases hmem with (rfl | rfl | rfl | rfl) | (rfl | rfl | rfl) <;> decide

/-! ## Scalars -/

variable {steps depth : Nat}

/-- A value that starts with neither bracket nor brace is a scalar. -/
theorem readValue_scalar {text rest : List Char} {c : Char} (htext : skipSpace text = c :: rest)
    (hbracket : c ≠ '[') (hbrace : c ≠ '{') :
    readValue (steps + 1) depth text = readScalar c rest := by
  rw [readValue, htext]
  split
  · next h => nomatch h
  · next h => exact absurd (List.cons.inj h).1 hbracket
  · next h => exact absurd (List.cons.inj h).1 hbrace
  · next h =>
    obtain ⟨rfl, rfl⟩ := List.cons.inj h
    rfl

/-- A literal is read. -/
theorem readLiteral_append (value : Json) (literal rest : List Char) :
    readLiteral value literal (literal ++ rest) = .ok (value, rest) := by
  induction literal with
  | nil => rfl
  | cons c literal ih => simp only [List.cons_append, readLiteral, if_pos, ih]

/-- A scalar that starts with a minus sign or a digit is the number that is read there. -/
theorem readScalar_number {c : Char} {rest after : List Char} {value : Number}
    (h : c = '-' ∨ c.isDigit = true)
    (hread : Numeral.read (c = '-') (if c = '-' then rest else c :: rest) = .ok (value, after)) :
    readScalar c rest = .ok (.num value, after) := by
  unfold readScalar
  split
  · simp at h
  · simp at h
  · simp at h
  · simp at h
  · rw [if_pos h, hread]

/-- A numeral without its sign starts with a digit. -/
theorem head_of_unsignedText {text : List Char} {numeral : Numeral} (h : UnsignedText text numeral) :
    ∃ c tail, text = c :: tail ∧ c.isDigit = true := by
  cases h with
  | mk hinteger _ _ =>
    obtain ⟨⟨hne, hdigits⟩, -⟩ := hinteger
    obtain ⟨c, integer, rfl⟩ := List.exists_cons_of_ne_nil hne
    exact ⟨c, _, rfl, hdigits c (List.mem_cons_self)⟩

/-- A number is read up to what ends its numeral. -/
theorem readScalar_of_numeralText {text rest : List Char} {numeral : Numeral} {value : Number}
    (h : NumeralText text numeral) (hvalue : numeral.value? = some value)
    (hrest : EndsNumeral rest) :
    ∃ c tail, text = c :: tail ∧ (c = '-' ∨ c.isDigit = true) ∧
      readScalar c (tail ++ rest) = .ok (.num value, rest) := by
  cases h with
  | positive hsign hunsigned =>
    have hscan := Numeral.scan_of_unsignedText hunsigned hrest
    obtain ⟨c, tail, rfl, hc⟩ := head_of_unsignedText hunsigned
    have hminus : c ≠ '-' := by
      rintro rfl
      exact absurd hc (by decide)
    refine ⟨c, tail, rfl, .inr hc, readScalar_number (.inr hc) ?_⟩
    rw [hsign, List.cons_append] at hscan
    simp only [hminus, decide_false, if_false, Numeral.read, hscan, hvalue]
  | @negative text _ hsign hunsigned =>
    have hscan := Numeral.scan_of_unsignedText hunsigned hrest
    refine ⟨'-', text, rfl, .inl rfl, readScalar_number (.inl rfl) ?_⟩
    rw [hsign] at hscan
    simp only [decide_true, if_true, Numeral.read, hscan, hvalue]

/-! ## Phrases -/

/-- A character that a value may start with. -/
def StartsValue (c : Char) : Prop :=
  c ∈ ['n', 't', 'f', '"', '[', '{', '-'] ∨ c.isDigit = true

/-- How the reader comes through a text that stands for a phrase: it finds what the phrase says and
    leaves what follows.  Where blanks may be left over, they are all that is left in front. -/
def Reads (depth : Nat) (text : List Char) : Phrase → Prop
  | .value value =>
    (∃ c tail, text = c :: tail ∧ StartsValue c) ∧
    ∀ steps rest input, 2 * text.length ≤ steps → EndsNumeral rest →
      skipSpace input = text ++ rest → readValue steps depth input = .ok (value, rest)
  | .element value =>
    ∀ steps rest input, 2 * text.length ≤ steps → Delimited rest →
      skipSpace input = skipSpace (text ++ rest) →
      ∃ after, readValue steps depth input = .ok (value, after) ∧ skipSpace after = rest
  | .items items =>
    ∀ steps done rest, 2 * text.length + 1 ≤ steps →
      readItems steps depth done (skipSpace (text ++ ']' :: rest)) =
        .ok (.arr (done.reverse ++ items), rest)
  | .member name value =>
    ∀ steps rest, 2 * text.length ≤ steps → Delimited rest →
      ∃ body colon input after, skipSpace (text ++ rest) = '"' :: body ∧
        readString body = .ok (name, colon) ∧ skipSpace colon = ':' :: input ∧
        readValue steps depth input = .ok (value, after) ∧ skipSpace after = rest
  | .members members =>
    ∀ steps done rest, 2 * text.length + 1 ≤ steps →
      ∃ body, skipSpace (text ++ '}' :: rest) = '"' :: body ∧
        readMembers steps depth done body = .ok (.obj (done.reverse ++ members), rest)

theorem StartsValue.isSpace_eq_false {c : Char} (h : StartsValue c) : isSpace c = false := by
  rcases h with h | h
  · simp only [List.mem_cons, List.not_mem_nil, or_false] at h
    rcases h with rfl | rfl | rfl | rfl | rfl | rfl | rfl <;> decide
  · simp only [isSpace, Bool.or_eq_false_iff, decide_eq_false_iff_not]
    refine ⟨⟨⟨?_, ?_⟩, ?_⟩, ?_⟩ <;> rintro rfl <;> exact absurd h (by decide)

/-- A scalar other than a number is read if it is read behind its first character. -/
theorem reads_scalar {c : Char} {tail : List Char} {value : Json} (hc : StartsValue c)
    (hbracket : c ≠ '[') (hbrace : c ≠ '{')
    (h : ∀ rest, EndsNumeral rest → readScalar c (tail ++ rest) = .ok (value, rest)) :
    Reads depth (c :: tail) (.value value) := by
  refine ⟨⟨c, tail, rfl, hc⟩, fun steps rest input hsteps hrest hinput => ?_⟩
  cases steps with
  | zero => simp at hsteps
  | succ steps =>
    rw [List.cons_append] at hinput
    rw [readValue_scalar hinput hbracket hbrace, h rest hrest]

theorem reads_literal {literal : List Char} {value : Json}
    (h : (literal, value) ∈ [("null".toList, Json.null), ("true".toList, .bool true),
      ("false".toList, .bool false)]) :
    Reads depth literal (.value value) := by
  simp only [List.mem_cons, Prod.mk.injEq, List.not_mem_nil, or_false] at h
  rcases h with ⟨rfl, rfl⟩ | ⟨rfl, rfl⟩ | ⟨rfl, rfl⟩
  · exact reads_scalar (.inl (by decide)) (by decide) (by decide)
      fun rest _ => readLiteral_append .null "ull".toList rest
  · exact reads_scalar (.inl (by decide)) (by decide) (by decide)
      fun rest _ => readLiteral_append (.bool true) "rue".toList rest
  · exact reads_scalar (.inl (by decide)) (by decide) (by decide)
      fun rest _ => readLiteral_append (.bool false) "alse".toList rest

theorem reads_number {text : List Char} {numeral : Numeral} {value : Number}
    (h : NumeralText text numeral) (hvalue : numeral.value? = some value) :
    Reads depth text (.value (.num value)) := by
  -- What follows does not matter for the first character.
  obtain ⟨c, tail, rfl, hc, -⟩ := readScalar_of_numeralText h hvalue (show EndsNumeral [] from nofun)
  have hne : c ≠ '[' ∧ c ≠ '{' := by
    rcases hc with rfl | hc
    · decide
    · constructor <;> rintro rfl <;> exact absurd hc (by decide)
  refine reads_scalar (hc.imp_left (by rintro rfl; decide)) hne.1 hne.2 fun rest hrest => ?_
  obtain ⟨c', tail', heq, -, hread⟩ := readScalar_of_numeralText h hvalue hrest
  obtain ⟨rfl, rfl⟩ := List.cons.inj heq
  exact hread

theorem reads_string {text : List Char} {value : String} (h : StringText text value) :
    Reads depth text (.value (.str value)) := by
  obtain ⟨body, rfl, -⟩ := readString_of_stringText h []
  refine reads_scalar (.inl (by decide)) (by decide) (by decide) fun rest _ => ?_
  obtain ⟨body', heq, hread⟩ := readString_of_stringText h rest
  obtain ⟨-, rfl⟩ := List.cons.inj heq
  simp only [readScalar, hread]

theorem reads_element {before text after : List Char} {value : Json} (hbefore : Blanks before)
    (h : Reads depth text (.value value)) (hafter : Blanks after) :
    Reads depth (before ++ (text ++ after)) (.element value) := by
  intro steps rest input hsteps hrest hinput
  obtain ⟨⟨c, tail, rfl, hc⟩, hread⟩ := h
  rw [List.append_assoc, skipSpace_append hbefore, List.append_assoc, List.cons_append,
    skipSpace_cons hc.isSpace_eq_false] at hinput
  -- The blanks behind the value are left to the caller, who skips them.
  refine ⟨after ++ rest, hread steps _ input ?_ (endsNumeral_append hafter hrest) hinput, ?_⟩
  · simp only [List.length_append] at hsteps
    omega
  · rw [skipSpace_append hafter, skipSpace_delimited hrest]

/-! ## Arrays -/

/-- Where items are read, the text neither ends nor starts with the closing bracket. -/
theorem head_of_readItems_eq_ok {text : List Char} {done : List Json} {result : Json × List Char}
    (h : readItems steps depth done text = .ok result) : text ≠ [] ∧ text.head? ≠ some ']' := by
  cases steps with
  | zero => nomatch h
  | succ steps =>
    constructor
    · rintro rfl
      cases steps <;> nomatch h
    · intro hhead
      obtain ⟨tail, rfl⟩ : ∃ tail, text = ']' :: tail := by
        cases text with
        | nil => nomatch hhead
        | cons c tail => exact ⟨tail, by rw [Option.some.inj hhead]⟩
      cases steps <;> nomatch h

theorem reads_lastItem {text : List Char} {value : Json} (h : Reads depth text (.element value)) :
    Reads depth text (.items [value]) := by
  intro steps done rest hsteps
  obtain ⟨steps, rfl⟩ : ∃ n, steps = n + 1 := ⟨steps - 1, by omega⟩
  obtain ⟨after, hread, hafter⟩ := h steps (']' :: rest) _ (by omega) (by simp [Delimited])
    (skipSpace_skipSpace _)
  simp only [readItems, hread, hafter, List.reverse_cons]

theorem reads_nextItem {text more : List Char} {value : Json} {items : List Json}
    (h : Reads depth text (.element value)) (hmore : Reads depth more (.items items)) :
    Reads depth (text ++ ',' :: more) (.items (value :: items)) := by
  intro steps done rest hsteps
  obtain ⟨steps, rfl⟩ : ∃ n, steps = n + 1 := ⟨steps - 1, by omega⟩
  simp only [List.length_append, List.length_cons] at hsteps
  rw [List.append_assoc, List.cons_append]
  obtain ⟨after, hread, hafter⟩ := h steps (',' :: (more ++ ']' :: rest)) _ (by omega)
    (by simp [Delimited]) (skipSpace_skipSpace _)
  have hitems := hmore steps (value :: done) rest (by omega)
  -- More items are read, so the comma is not a trailing one.
  obtain ⟨hne, hbracket⟩ := head_of_readItems_eq_ok hitems
  simp only [readItems, hread, hafter]
  split
  · next hnil => exact absurd hnil hne
  · next hcons => exact absurd (by rw [hcons]; rfl) hbracket
  · rw [hitems, List.reverse_cons, List.append_assoc, List.singleton_append]

theorem reads_emptyArray {blanks : List Char} (h : Blanks blanks) :
    Reads (depth + 1) ('[' :: (blanks ++ [']'])) (.value (.arr [])) := by
  refine ⟨⟨_, _, rfl, .inl (by decide)⟩, fun steps rest input hsteps _ hinput => ?_⟩
  obtain ⟨steps, rfl⟩ : ∃ n, steps = n + 1 := ⟨steps - 1, by simp at hsteps; omega⟩
  rw [readValue, hinput]
  simp only [List.cons_append, List.append_assoc, List.nil_append,
    skipSpace_append_cons h (show isSpace ']' = false by decide)]

theorem reads_array {text : List Char} {items : List Json} (h : Reads depth text (.items items)) :
    Reads (depth + 1) ('[' :: (text ++ [']'])) (.value (.arr items)) := by
  refine ⟨⟨_, _, rfl, .inl (by decide)⟩, fun steps rest input hsteps _ hinput => ?_⟩
  simp only [List.length_cons, List.length_append, List.length_nil] at hsteps
  obtain ⟨steps, rfl⟩ : ∃ n, steps = n + 1 := ⟨steps - 1, by omega⟩
  have hitems := h steps [] rest (by omega)
  -- There are items, so the array is not taken for an empty one.
  obtain ⟨hne, hbracket⟩ := head_of_readItems_eq_ok hitems
  rw [readValue, hinput]
  simp only [List.cons_append, List.append_assoc, List.nil_append]
  split
  · next hnil => exact absurd hnil hne
  · next hcons => exact absurd (by rw [hcons]; rfl) hbracket
  · rw [hitems, List.reverse_nil, List.nil_append]

/-! ## Objects -/

theorem reads_member {before quoted after text : List Char} {name : String} {value : Json}
    (hbefore : Blanks before) (hname : StringText quoted name) (hafter : Blanks after)
    (h : Reads depth text (.element value)) :
    Reads depth (before ++ (quoted ++ (after ++ ':' :: text))) (.member name value) := by
  intro steps rest hsteps hrest
  simp only [List.length_append, List.length_cons] at hsteps
  obtain ⟨body, rfl, hread⟩ :=
    readString_of_stringText hname (after ++ ':' :: (text ++ rest))
  obtain ⟨left, hvalue, hleft⟩ := h steps rest (text ++ rest) (by omega) hrest rfl
  refine ⟨body ++ (after ++ ':' :: (text ++ rest)), _, text ++ rest, left, ?_, hread, ?_, hvalue,
    hleft⟩
  · simp only [List.cons_append, List.append_assoc]
    exact skipSpace_append_cons hbefore (by decide)
  · exact skipSpace_append_cons hafter (by decide)

theorem reads_lastMember {text : List Char} {name : String} {value : Json}
    (h : Reads depth text (.member name value)) : Reads depth text (.members [(name, value)]) := by
  intro steps done rest hsteps
  obtain ⟨steps, rfl⟩ : ∃ n, steps = n + 1 := ⟨steps - 1, by omega⟩
  obtain ⟨body, colon, input, after, hbody, hname, hcolon, hvalue, hafter⟩ :=
    h steps ('}' :: rest) (by omega) (by simp [Delimited])
  refine ⟨body, hbody, ?_⟩
  simp only [readMembers, hname, hcolon, hvalue, hafter, List.reverse_cons]

theorem reads_nextMember {text more : List Char} {name : String} {value : Json}
    {members : List (String × Json)} (h : Reads depth text (.member name value))
    (hmore : Reads depth more (.members members)) :
    Reads depth (text ++ ',' :: more) (.members ((name, value) :: members)) := by
  intro steps done rest hsteps
  obtain ⟨steps, rfl⟩ : ∃ n, steps = n + 1 := ⟨steps - 1, by omega⟩
  simp only [List.length_append, List.length_cons] at hsteps
  rw [List.append_assoc, List.cons_append]
  obtain ⟨body, colon, input, after, hbody, hname, hcolon, hvalue, hafter⟩ :=
    h steps (',' :: (more ++ '}' :: rest)) (by omega) (by simp [Delimited])
  obtain ⟨body', hbody', hmembers⟩ := hmore steps ((name, value) :: done) rest (by omega)
  refine ⟨body, hbody, ?_⟩
  simp only [readMembers, hname, hcolon, hvalue, hafter, hbody', hmembers, List.reverse_cons,
    List.append_assoc, List.singleton_append]

theorem reads_emptyObject {blanks : List Char} (h : Blanks blanks) :
    Reads (depth + 1) ('{' :: (blanks ++ ['}'])) (.value (.obj [])) := by
  refine ⟨⟨_, _, rfl, .inl (by decide)⟩, fun steps rest input hsteps _ hinput => ?_⟩
  obtain ⟨steps, rfl⟩ : ∃ n, steps = n + 1 := ⟨steps - 1, by simp at hsteps; omega⟩
  rw [readValue, hinput]
  simp only [List.cons_append, List.append_assoc, List.nil_append,
    skipSpace_append_cons h (show isSpace '}' = false by decide)]

theorem reads_object {text : List Char} {members : List (String × Json)}
    (h : Reads depth text (.members members)) :
    Reads (depth + 1) ('{' :: (text ++ ['}'])) (.value (.obj members)) := by
  refine ⟨⟨_, _, rfl, .inl (by decide)⟩, fun steps rest input hsteps _ hinput => ?_⟩
  simp only [List.length_cons, List.length_append, List.length_nil] at hsteps
  obtain ⟨steps, rfl⟩ : ∃ n, steps = n + 1 := ⟨steps - 1, by omega⟩
  obtain ⟨body, hbody, hmembers⟩ := h steps [] rest (by omega)
  rw [readValue, hinput]
  simp only [List.cons_append, List.append_assoc, List.nil_append, hbody, hmembers,
    List.reverse_nil]

/-! ## Derivations -/

/-- A text that the grammar derives as a phrase is read as that phrase. -/
theorem reads_of_derives {text : List Char} {phrase : Phrase} (h : Derives depth text phrase) :
    Reads depth text phrase := by
  induction h with
  | nullLiteral => exact reads_literal (by simp)
  | trueLiteral => exact reads_literal (by simp)
  | falseLiteral => exact reads_literal (by simp)
  | number hnumeral hvalue => exact reads_number hnumeral hvalue
  | string hstring => exact reads_string hstring
  | emptyArray hblanks => exact reads_emptyArray hblanks
  | array _ ih => exact reads_array ih
  | emptyObject hblanks => exact reads_emptyObject hblanks
  | object _ ih => exact reads_object ih
  | element hbefore _ hafter ih => exact reads_element hbefore ih hafter
  | lastItem _ ih => exact reads_lastItem ih
  | nextItem _ _ ih ihmore => exact reads_nextItem ih ihmore
  | member hbefore hname hafter _ ih => exact reads_member hbefore hname hafter ih
  | lastMember _ ih => exact reads_lastMember ih
  | nextMember _ _ ih ihmore => exact reads_nextMember ih ihmore

/-- A text that the grammar derives as a whole is read. -/
theorem read_of_isText {text : String} {value : Json} (h : IsText text.toList value) :
    read text = .ok value := by
  -- A whole text is an element with nothing behind it.
  have hread : Reads greatestDepth text.toList (.element value) := reads_of_derives h
  obtain ⟨after, hvalue, hafter⟩ :=
    hread (2 * text.toList.length + 1) [] text.toList (by omega) nofun (by rw [List.append_nil])
  simp only [read, readWhole, hvalue, hafter]

end CardServer.Json
