import CardServer.Proofs.Json.Completeness

/-! # Texts with the same tokens

Where a Json text has blanks between its tokens, and how it spells its strings, does not matter.  The
*tokens* of a text are its signs, its words, which are the literals and numerals, and its strings, of
which only the value counts.  Whatever text has the tokens of a Json text is a Json text of the same
value.

The tokens are read off a text without regard to the grammar, each word as far as it goes, so a text
has them in one way only.

* `Tokens.unique`        a text has no two lists of tokens
* `HasTokens`            a phrase is written in tokens, and all texts with these tokens stand for it
* `exists_hasTokens`     every phrase has such tokens
* `derives_of_tokens`    texts with the same tokens stand for the same value
-/

namespace CardServer.Json.Grammar

/-- What a character can be outside of strings. -/
inductive CharKind where
  | blank
  | sign
  | quote
  | word
  deriving DecidableEq

/-- What a character is outside of strings; all that is neither blank nor a sign nor a quote belongs to
    a word. -/
def kindOf (c : Char) : CharKind :=
  if c ∈ [' ', '\t', '\n', '\r'] then .blank
  else if c ∈ ['[', ']', '{', '}', ',', ':'] then .sign
  else if c = '"' then .quote
  else .word

/-- A token of a text. -/
inductive Token where
  | sign (c : Char)
  | string (value : String)
  | word (text : List Char)

/-- How a token may be written. -/
inductive TokenText : List Char → Token → Prop
  | sign {c : Char} : kindOf c = .sign → TokenText [c] (.sign c)
  | string {text : List Char} {value : String} : StringText text value →
      TokenText text (.string value)
  | word {text : List Char} : text ≠ [] → (∀ c ∈ text, kindOf c = .word) →
      TokenText text (.word text)

/-- A text that does not go on with a word. -/
def EndsWord (rest : List Char) : Prop := ∀ c ∈ rest.head?, kindOf c ≠ .word

/-- Whether a token can end in front of a text: a word goes as far as it can. -/
def Token.EndsBefore : Token → List Char → Prop
  | .word _, rest => EndsWord rest
  | _, _ => True

/-- The tokens of a text, blanks between them left out. -/
inductive Tokens : List Char → List Token → Prop
  | nil : Tokens [] []
  | blank {c : Char} {text : List Char} {tokens : List Token} : kindOf c = .blank →
      Tokens text tokens → Tokens (c :: text) tokens
  | token {text rest : List Char} {token : Token} {tokens : List Token} : TokenText text token →
      token.EndsBefore rest → Tokens rest tokens → Tokens (text ++ rest) (token :: tokens)

/-! ## Tokens of a text -/

theorem kindOf_eq_blank_iff {c : Char} : kindOf c = .blank ↔ c ∈ [' ', '\t', '\n', '\r'] := by
  unfold kindOf
  split
  · exact iff_of_true rfl ‹_›
  · refine iff_of_false ?_ ‹_›
    split
    · nofun
    · split <;> nofun

theorem endsWord_cons {c : Char} {rest : List Char} (h : kindOf c ≠ .word) :
    EndsWord (c :: rest) := by
  rintro _ ⟨⟩
  exact h

theorem EndsWord.of_append {rest more : List Char} (h : EndsWord (rest ++ more)) :
    EndsWord rest := by
  cases rest with
  | nil => nofun
  | cons c rest => exact h

theorem Token.EndsBefore.of_append {token : Token} {rest more : List Char}
    (h : token.EndsBefore (rest ++ more)) : token.EndsBefore rest := by
  cases token with
  | word text => exact EndsWord.of_append h
  | sign | string => trivial

/-- The kind of the first character of a token. -/
def Token.kind : Token → CharKind
  | .sign _ => .sign
  | .string _ => .quote
  | .word _ => .word

theorem TokenText.head {text : List Char} {token : Token} (h : TokenText text token) :
    ∃ c tail, text = c :: tail ∧ kindOf c = token.kind := by
  cases h with
  | @sign c hc => exact ⟨c, [], rfl, hc⟩
  | string hstring =>
    cases hstring with
    | mk => exact ⟨'"', _, rfl, (by decide : kindOf '"' = .quote)⟩
  | word hne hword =>
    obtain ⟨c, tail, rfl⟩ := List.exists_cons_of_ne_nil hne
    exact ⟨c, tail, rfl, hword c List.mem_cons_self⟩

theorem Token.kind_ne_blank (token : Token) : token.kind ≠ .blank := by cases token <;> nofun

/-- A word is cut off where nothing follows that continues it. -/
private theorem span_word {text rest : List Char} (htext : ∀ c ∈ text, kindOf c = .word)
    (hrest : EndsWord rest) :
    (text ++ rest).takeWhile (kindOf · = .word) = text ∧
      (text ++ rest).dropWhile (kindOf · = .word) = rest := by
  have hall : ∀ c ∈ text, decide (kindOf c = .word) = true := by simpa using htext
  rw [List.takeWhile_append_of_pos hall, List.dropWhile_append_of_pos hall]
  cases rest with
  | nil => simp
  | cons c rest =>
    have hc : kindOf c ≠ .word := hrest c rfl
    simp [hc]

/-- A text starts with one token only. -/
theorem TokenText.unique {text text' rest rest' : List Char} {token token' : Token}
    (h : TokenText text token) (h' : TokenText text' token') (hends : token.EndsBefore rest)
    (hends' : token'.EndsBefore rest') (heq : text ++ rest = text' ++ rest') :
    token = token' ∧ rest = rest' := by
  have hkind : token.kind = token'.kind := by
    obtain ⟨c, tail, rfl, hc⟩ := h.head
    obtain ⟨c', tail', rfl, hc'⟩ := h'.head
    rw [← hc, ← hc', (List.cons.inj heq).1]
  cases h with
  | sign =>
    cases h' with
    | sign =>
      obtain ⟨rfl, rfl⟩ := List.cons.inj heq
      exact ⟨rfl, rfl⟩
    | string | word => nomatch hkind
  | string hstring =>
    cases h' with
    | string hstring' =>
      -- The reader finds one value and one rest.
      obtain ⟨body, rfl, hread⟩ := readString_of_stringText hstring rest
      obtain ⟨body', rfl, hread'⟩ := readString_of_stringText hstring' rest'
      have hbody : body ++ rest = body' ++ rest' := (List.cons.inj heq).2
      rw [hbody, hread'] at hread
      obtain ⟨rfl, rfl⟩ := Prod.mk.inj (Except.ok.inj hread)
      exact ⟨rfl, rfl⟩
    | sign | word => nomatch hkind
  | word _ hword =>
    cases h' with
    | word _ hword' =>
      obtain ⟨htake, hdrop⟩ := span_word hword hends
      obtain ⟨htake', hdrop'⟩ := span_word hword' hends'
      rw [heq] at htake hdrop
      obtain rfl := htake.symm.trans htake'
      exact ⟨rfl, hdrop.symm.trans hdrop'⟩
    | sign | string => nomatch hkind

namespace Tokens

variable {text rest : List Char} {token : Token} {tokens : List Token}

theorem of_blank {c : Char} (h : Tokens (c :: text) tokens) (hc : kindOf c = .blank) :
    Tokens text tokens := by
  generalize hwhole : c :: text = whole at h
  cases h with
  | nil => nomatch hwhole
  | blank _ h =>
    obtain ⟨-, rfl⟩ := List.cons.inj hwhole
    exact h
  | @token _ _ token _ htoken =>
    obtain ⟨d, tail, rfl, hd⟩ := htoken.head
    obtain ⟨rfl, -⟩ := List.cons.inj hwhole
    exact absurd (hd.symm.trans hc) token.kind_ne_blank

theorem of_token (h : Tokens (text ++ rest) tokens) (htoken : TokenText text token)
    (hends : token.EndsBefore rest) : ∃ more, tokens = token :: more ∧ Tokens rest more := by
  obtain ⟨c, tail, htext, hc⟩ := htoken.head
  generalize hwhole : text ++ rest = whole at h
  cases h with
  | nil =>
    rw [htext] at hwhole
    nomatch hwhole
  | blank hblank =>
    rw [htext] at hwhole
    obtain ⟨rfl, -⟩ := List.cons.inj hwhole
    exact absurd (hc.symm.trans hblank) token.kind_ne_blank
  | token htoken' hends' h =>
    obtain ⟨rfl, rfl⟩ := htoken.unique htoken' hends hends' hwhole
    exact ⟨_, rfl, h⟩

/-- A text has no two lists of tokens. -/
theorem unique {other : List Token} (h : Tokens text tokens) (h' : Tokens text other) :
    tokens = other := by
  induction h generalizing other with
  | nil =>
    generalize hwhole : [] = whole at h'
    cases h' with
    | nil => rfl
    | blank => nomatch hwhole
    | token htoken =>
      obtain ⟨c, tail, rfl, -⟩ := htoken.head
      nomatch hwhole
  | blank hc _ ih => exact ih (h'.of_blank hc)
  | token htoken hends _ ih =>
    obtain ⟨more, rfl, hmore⟩ := h'.of_token htoken hends
    rw [ih hmore]

/-- Blanks in front of a text do not change its tokens. -/
theorem blanks_append {blanks : List Char} (hblanks : Blanks blanks) (h : Tokens text tokens) :
    Tokens (blanks ++ text) tokens := by
  induction blanks with
  | nil => exact h
  | cons c blanks ih =>
    rw [Blanks, List.forall_mem_cons] at hblanks
    exact .blank (kindOf_eq_blank_iff.2 hblanks.1) (ih hblanks.2)

/-- A text without tokens is blank. -/
theorem blanks_of_nil (h : Tokens text []) : Blanks text := by
  generalize hnone : [] = none at h
  induction h with
  | nil => nofun
  | blank hc _ ih =>
    rw [Blanks, List.forall_mem_cons]
    exact ⟨kindOf_eq_blank_iff.1 hc, ih hnone⟩
  | token => nomatch hnone

/-- A text is cut at each of its signs. -/
theorem exists_of_sign {front back : List Token} {c : Char}
    (h : Tokens text (front ++ .sign c :: back)) :
    ∃ before after, text = before ++ c :: after ∧ Tokens before front ∧ Tokens after back := by
  generalize hall : front ++ .sign c :: back = all at h
  induction h generalizing front with
  | nil => exact absurd hall (by simp)
  | @blank d _ _ hd _ ih =>
    obtain ⟨before, after, rfl, hbefore, hafter⟩ := ih hall
    exact ⟨d :: before, after, rfl, .blank hd hbefore, hafter⟩
  | @token text rest token _ htoken hends h ih =>
    cases front with
    | nil =>
      obtain ⟨rfl, rfl⟩ := List.cons.inj hall
      cases htoken with
      | sign => exact ⟨[], rest, rfl, .nil, h⟩
    | cons first front =>
      obtain ⟨rfl, hrest⟩ := List.cons.inj hall
      obtain ⟨before, after, rfl, hbefore, hafter⟩ := ih hrest
      exact ⟨text ++ before, after, by rw [List.append_assoc],
        .token htoken hends.of_append hbefore, hafter⟩

/-- A text with a single token is that token with blanks around it. -/
theorem exists_of_singleton (h : Tokens text [token]) :
    ∃ before middle after, text = before ++ (middle ++ after) ∧ Blanks before ∧
      TokenText middle token ∧ Blanks after := by
  generalize hone : [token] = one at h
  induction h with
  | nil => nomatch hone
  | @blank c _ _ hc _ ih =>
    obtain ⟨before, middle, after, rfl, hbefore, hmiddle, hafter⟩ := ih hone
    refine ⟨c :: before, middle, after, rfl, ?_, hmiddle, hafter⟩
    rw [Blanks, List.forall_mem_cons]
    exact ⟨kindOf_eq_blank_iff.1 hc, hbefore⟩
  | @token text rest _ _ htoken _ h =>
    obtain ⟨rfl, rfl⟩ := List.cons.inj hone
    exact ⟨[], text, rest, rfl, nofun, htoken, h.blanks_of_nil⟩

end Tokens

/-! ## Tokens of a phrase -/

/-- Where a value is written, blanks may stand around it. -/
def Phrase.spaced : Phrase → Phrase
  | .value json => .element json
  | phrase => phrase

/-- Whether a text has some tokens in front of everything that does not continue a word. -/
def WrittenAs (text : List Char) (tokens : List Token) : Prop :=
  ∀ rest more, EndsWord rest → Tokens rest more → Tokens (text ++ rest) (tokens ++ more)

/-- The tokens of a text that stands for a phrase; every text that has them stands for it. -/
structure HasTokens (depth : Nat) (text : List Char) (phrase : Phrase) (tokens : List Token) :
    Prop where
  written : WrittenAs text tokens
  derives : ∀ other, Tokens other tokens → Derives depth other phrase.spaced

variable {depth : Nat} {text : List Char}

/-- Blanks are written without tokens. -/
theorem writtenAs_nil (h : Blanks text) : WrittenAs text [] :=
  fun _ _ _ hmore => .blanks_append h hmore

/-- A sign between two parts that are written in tokens. -/
theorem WrittenAs.sign {before after : List Char} {front back : List Token} {c : Char}
    (hbefore : WrittenAs before front) (hc : kindOf c = .sign) (hafter : WrittenAs after back) :
    WrittenAs (before ++ c :: after) (front ++ .sign c :: back) := by
  intro rest more hrest hmore
  have hsign : Tokens (c :: (after ++ rest)) (.sign c :: (back ++ more)) :=
    .token (.sign hc) trivial (hafter rest more hrest hmore)
  rw [List.append_assoc, List.append_assoc]
  exact hbefore _ _ (endsWord_cons (by rw [hc]; nofun)) hsign

/-- A value of a single token. -/
theorem hasTokens_single {value : Json} {token : Token} (htext : TokenText text token)
    (h : ∀ text, TokenText text token → Derives depth text (.value value)) :
    HasTokens depth text (.value value) [token] where
  written rest more hrest hmore := by
    refine .token htext ?_ hmore
    cases token with
    | word => exact hrest
    | sign | string => trivial
  derives other hother := by
    obtain ⟨before, middle, after, rfl, hbefore, hmiddle, hafter⟩ := hother.exists_of_singleton
    exact .element hbefore (h middle hmiddle) hafter

/-- A value that is written as a word is written as no other one. -/
theorem hasTokens_word {value : Json} (hne : text ≠ []) (hword : ∀ c ∈ text, kindOf c = .word)
    (h : Derives depth text (.value value)) : HasTokens depth text (.value value) [.word text] := by
  refine hasTokens_single (.word hne hword) fun other hother => ?_
  cases hother with
  | word => exact h

theorem hasTokens_string {value : String} (h : StringText text value) :
    HasTokens depth text (.value (.str value)) [.string value] := by
  refine hasTokens_single (.string h) fun other hother => ?_
  cases hother with
  | string hstring => exact .string hstring

theorem kindOf_of_isDigit {c : Char} (h : c.isDigit = true) : kindOf c = .word := by
  have hne : ∀ d : Char, d.isDigit = false → c ≠ d := by
    rintro d hd rfl
    rw [h] at hd
    nomatch hd
  simp [kindOf, hne]

/-- A numeral is a word. -/
theorem word_of_numeralText {numeral : Numeral} (h : NumeralText text numeral) :
    text ≠ [] ∧ ∀ c ∈ text, kindOf c = .word := by
  have hdigits : ∀ {digits : List Char}, Digits digits → ∀ c ∈ digits, kindOf c = .word :=
    fun hdigits c hc => kindOf_of_isDigit (hdigits.2 c hc)
  have hmark : ∀ mark ∈ ['e', 'E'], kindOf mark = .word := by simp [kindOf]
  have hunsigned : ∀ {text : List Char} {numeral : Numeral}, UnsignedText text numeral →
      text ≠ [] ∧ ∀ c ∈ text, kindOf c = .word := by
    rintro _ _ ⟨hinteger, hfraction, hexponent⟩
    refine ⟨fun hnil => hinteger.1.1 (List.append_eq_nil_iff.1 hnil).1, ?_⟩
    simp only [List.forall_mem_append]
    refine ⟨hdigits hinteger.1, ?_, ?_⟩
    · cases hfraction with
      | absent => nofun
      | present h => exact List.forall_mem_cons.2 ⟨by decide, hdigits h⟩
    · cases hexponent with
      | absent => nofun
      | unsigned hm h => exact List.forall_mem_cons.2 ⟨hmark _ hm, hdigits h⟩
      | plus hm h | minus hm h =>
        exact List.forall_mem_cons.2 ⟨hmark _ hm, List.forall_mem_cons.2 ⟨by decide, hdigits h⟩⟩
  cases h with
  | positive _ h => exact hunsigned h
  | negative _ h => exact ⟨nofun, List.forall_mem_cons.2 ⟨by decide, (hunsigned h).2⟩⟩

/-- Blanks around a value are no tokens. -/
theorem HasTokens.element {before after : List Char} {value : Json} {tokens : List Token}
    (hbefore : Blanks before) (h : HasTokens depth text (.value value) tokens)
    (hafter : Blanks after) :
    HasTokens depth (before ++ (text ++ after)) (.element value) tokens where
  written rest more hrest hmore := by
    have hblank : ∀ c ∈ after, kindOf c ≠ .word := by
      intro c hc
      rw [kindOf_eq_blank_iff.2 (hafter c hc)]
      nofun
    have hends : EndsWord (after ++ rest) := by
      cases after with
      | nil => exact hrest
      | cons c after => exact endsWord_cons (hblank c List.mem_cons_self)
    rw [List.append_assoc, List.append_assoc]
    exact .blanks_append hbefore (h.written _ _ hends (.blanks_append hafter hmore))
  derives := h.derives

/-- A pair of brackets around something that is written in tokens. -/
theorem HasTokens.bracketed {opening closing : Char} {value : Json} {tokens : List Token}
    (hopening : kindOf opening = .sign) (hclosing : kindOf closing = .sign)
    (hwritten : WrittenAs text tokens)
    (h : ∀ other, Tokens other tokens →
      Derives depth (opening :: (other ++ [closing])) (.value value)) :
    HasTokens depth (opening :: (text ++ [closing])) (.value value)
      (.sign opening :: (tokens ++ [.sign closing])) where
  written := by
    have hnone : WrittenAs [] [] := writtenAs_nil nofun
    exact hnone.sign hopening (hwritten.sign hclosing hnone)
  derives other hother := by
    have hwhole : Tokens other ([] ++ .sign opening :: (tokens ++ [.sign closing])) := hother
    obtain ⟨before, inner, rfl, hbefore, hinner⟩ := hwhole.exists_of_sign
    obtain ⟨body, after, rfl, hbody, hafter⟩ := hinner.exists_of_sign
    have hvalue := (h body hbody).element hbefore.blanks_of_nil hafter.blanks_of_nil
    show Derives depth _ (.element value)
    simpa using hvalue

theorem HasTokens.lastItem {value : Json} {tokens : List Token}
    (h : HasTokens depth text (.element value) tokens) :
    HasTokens depth text (.items [value]) tokens where
  written := h.written
  derives other hother := .lastItem (h.derives other hother)

theorem HasTokens.nextItem {more : List Char} {value : Json} {items : List Json}
    {front back : List Token} (h : HasTokens depth text (.element value) front)
    (hmore : HasTokens depth more (.items items) back) :
    HasTokens depth (text ++ ',' :: more) (.items (value :: items))
      (front ++ .sign ',' :: back) where
  written := h.written.sign (by decide) hmore.written
  derives other hother := by
    obtain ⟨before, after, rfl, hbefore, hafter⟩ := hother.exists_of_sign
    exact .nextItem (h.derives before hbefore) (hmore.derives after hafter)

theorem HasTokens.member {before quoted after : List Char} {name : String} {value : Json}
    {tokens : List Token} (hbefore : Blanks before) (hname : StringText quoted name)
    (hafter : Blanks after) (h : HasTokens depth text (.element value) tokens) :
    HasTokens depth (before ++ (quoted ++ (after ++ ':' :: text))) (.member name value)
      ([.string name] ++ .sign ':' :: tokens) where
  written := by
    have hwritten : WrittenAs (before ++ (quoted ++ after)) [.string name] := by
      intro rest more _ hmore
      rw [List.append_assoc, List.append_assoc]
      exact .blanks_append hbefore (.token (.string hname) trivial (.blanks_append hafter hmore))
    have htext : before ++ (quoted ++ (after ++ ':' :: text)) =
        before ++ (quoted ++ after) ++ ':' :: text := by simp
    rw [htext]
    exact hwritten.sign (by decide) h.written
  derives other hother := by
    obtain ⟨front, body, rfl, hfront, hbody⟩ := hother.exists_of_sign
    obtain ⟨before, quoted, after, rfl, hbefore, hquoted, hafter⟩ := hfront.exists_of_singleton
    cases hquoted with
    | string hname =>
      have hmember := Derives.member hbefore hname hafter (h.derives body hbody)
      show Derives depth _ (.member name value)
      simpa using hmember

theorem HasTokens.lastMember {name : String} {value : Json} {tokens : List Token}
    (h : HasTokens depth text (.member name value) tokens) :
    HasTokens depth text (.members [(name, value)]) tokens where
  written := h.written
  derives other hother := .lastMember (h.derives other hother)

theorem HasTokens.nextMember {more : List Char} {name : String} {value : Json}
    {members : List (String × Json)} {front back : List Token}
    (h : HasTokens depth text (.member name value) front)
    (hmore : HasTokens depth more (.members members) back) :
    HasTokens depth (text ++ ',' :: more) (.members ((name, value) :: members))
      (front ++ .sign ',' :: back) where
  written := h.written.sign (by decide) hmore.written
  derives other hother := by
    obtain ⟨before, after, rfl, hbefore, hafter⟩ := hother.exists_of_sign
    exact .nextMember (h.derives before hbefore) (hmore.derives after hafter)

/-- Every phrase is written in tokens that only texts of the same phrase have. -/
theorem exists_hasTokens {phrase : Phrase} (h : Derives depth text phrase) :
    ∃ tokens, HasTokens depth text phrase tokens := by
  induction h with
  | nullLiteral => exact ⟨_, hasTokens_word nofun (by simp [kindOf]) .nullLiteral⟩
  | trueLiteral => exact ⟨_, hasTokens_word nofun (by simp [kindOf]) .trueLiteral⟩
  | falseLiteral => exact ⟨_, hasTokens_word nofun (by simp [kindOf]) .falseLiteral⟩
  | number hnumeral hvalue =>
    obtain ⟨hne, hword⟩ := word_of_numeralText hnumeral
    exact ⟨_, hasTokens_word hne hword (.number hnumeral hvalue)⟩
  | string hstring => exact ⟨_, hasTokens_string hstring⟩
  | emptyArray hblanks =>
    exact ⟨_, .bracketed (by decide) (by decide) (writtenAs_nil hblanks)
      fun _ hother => .emptyArray hother.blanks_of_nil⟩
  | array _ ih =>
    obtain ⟨tokens, h⟩ := ih
    exact ⟨_, .bracketed (by decide) (by decide) h.written
      fun other hother => .array (h.derives other hother)⟩
  | emptyObject hblanks =>
    exact ⟨_, .bracketed (by decide) (by decide) (writtenAs_nil hblanks)
      fun _ hother => .emptyObject hother.blanks_of_nil⟩
  | object _ ih =>
    obtain ⟨tokens, h⟩ := ih
    exact ⟨_, .bracketed (by decide) (by decide) h.written
      fun other hother => .object (h.derives other hother)⟩
  | element hbefore _ hafter ih =>
    obtain ⟨tokens, h⟩ := ih
    exact ⟨tokens, h.element hbefore hafter⟩
  | lastItem _ ih =>
    obtain ⟨tokens, h⟩ := ih
    exact ⟨tokens, h.lastItem⟩
  | nextItem _ _ ih ihmore =>
    obtain ⟨front, h⟩ := ih
    obtain ⟨back, hmore⟩ := ihmore
    exact ⟨_, h.nextItem hmore⟩
  | member hbefore hname hafter _ ih =>
    obtain ⟨tokens, h⟩ := ih
    exact ⟨_, h.member hbefore hname hafter⟩
  | lastMember _ ih =>
    obtain ⟨tokens, h⟩ := ih
    exact ⟨tokens, h.lastMember⟩
  | nextMember _ _ ih ihmore =>
    obtain ⟨front, h⟩ := ih
    obtain ⟨back, hmore⟩ := ihmore
    exact ⟨_, h.nextMember hmore⟩

/-- Texts with the same tokens stand for the same value. -/
theorem derives_of_tokens {other : List Char} {value : Json} {tokens : List Token}
    (h : Derives depth text (.element value)) (htext : Tokens text tokens)
    (hother : Tokens other tokens) : Derives depth other (.element value) := by
  obtain ⟨found, hfound⟩ := exists_hasTokens h
  have hown := hfound.written [] [] nofun .nil
  rw [List.append_nil, List.append_nil] at hown
  rw [hown.unique htext] at hfound
  exact hfound.derives other hother

end CardServer.Json.Grammar
