import CardServer.Prompt

/-! # The word of a prompt is that of its leftmost reading

A *reading* of a text under a rule cuts it into a lead, an opening, a word in double quotes and a
rest.  Under the marker rule the opening is the marker and a run of blanks, under the quoted rule it
is nothing at all.  Two readings under one rule that have leads of the same length are the same, so
among all readings there is a single one with the shortest lead.  `Prompt.find?` finds its word.

* `leftmost?_eq_some_iff`      the first answer of a test on the suffixes of a text comes from the
  shortest lead that a suffix with an answer follows
* `here?_eq_some_iff`          a rule applies at the start of a text exactly when it has a reading there
* `ofPrompt_of_isFirst_marked` the word of the first marked reading is found
* `ofPrompt_eq_first_reading`  marked readings come before quoted ones, and of one rule the first counts
-/

namespace CardServer

open Prompt

/-- What a rule asks for in front of the opening quote. -/
def Source.Opens : Source → List Char → Prop
  | .marker, opening =>
    ∃ blanks : List Char, opening = "English word:".toList ++ blanks ∧ ∀ c ∈ blanks, Text.isBlank c
  | .quoted, opening => opening = []
  | .default, _ => False

/-- A way to cut a text into parts so that a rule applies to it. -/
@[ext]
structure Reading (rule : Source) (text : List Char) where
  lead : List Char
  opening : List Char
  word : List Char
  rest : List Char
  opens : rule.Opens opening
  word_ne_nil : word ≠ []
  quote_notMem_word : '"' ∉ word
  eq_parts : text = lead ++ (opening ++ '"' :: (word ++ '"' :: rest))

/-- A reading is the first one if all others have a longer lead. -/
def Reading.IsFirst {rule : Source} {text : List Char} (reading : Reading rule text) : Prop :=
  ∀ other : Reading rule text, other = reading ∨ reading.lead.length < other.lead.length

namespace Prompt

/-! ## The search for the leftmost place -/

/-- Without an answer at any suffix there is no first answer, and the other way round. -/
theorem leftmost?_eq_none_iff {α : Type} {test : List Char → Option α} {text : List Char} :
    leftmost? test text = none ↔ ∀ lead rest, text = lead ++ rest → test rest = none := by
  induction text with
  | nil => simp [leftmost?]
  | cons c tail ih =>
    constructor
    · intro h lead rest hparts
      simp only [leftmost?] at h
      split at h
      · nomatch h
      · next htest =>
        cases lead with
        | nil =>
          rw [List.nil_append] at hparts
          rw [← hparts]
          exact htest
        | cons d lead =>
          obtain ⟨-, htail⟩ := List.cons.inj hparts
          exact ih.1 h lead rest htail
    · intro h
      have htest : test (c :: tail) = none := h [] (c :: tail) rfl
      simp only [leftmost?, htest]
      exact ih.2 fun lead rest hparts => h (c :: lead) rest (by rw [hparts, List.cons_append])

/-- The first answer of a test on the suffixes of a text comes from the shortest lead that a suffix
    with an answer follows. -/
theorem leftmost?_eq_some_iff {α : Type} {test : List Char → Option α} {text : List Char}
    {answer : α} :
    leftmost? test text = some answer ↔
      ∃ lead rest, text = lead ++ rest ∧ test rest = some answer ∧
        ∀ lead' rest', text = lead' ++ rest' → lead'.length < lead.length → test rest' = none := by
  induction text with
  | nil =>
    constructor
    · intro h
      exact ⟨[], [], rfl, h, fun _ _ _ hlt => absurd hlt (Nat.not_lt_zero _)⟩
    · rintro ⟨lead, rest, hparts, hrest, -⟩
      obtain ⟨-, rfl⟩ := List.append_eq_nil_iff.1 hparts.symm
      exact hrest
  | cons c tail ih =>
    constructor
    · intro h
      simp only [leftmost?] at h
      split at h
      · next first htest =>
        obtain rfl := Option.some.inj h
        exact ⟨[], c :: tail, rfl, htest, fun _ _ _ hlt => absurd hlt (Nat.not_lt_zero _)⟩
      · next htest =>
        -- There is no answer at the whole text, so its first one comes from the tail.
        obtain ⟨lead, rest, htail, hrest, hbefore⟩ := ih.1 h
        refine ⟨c :: lead, rest, by rw [htail, List.cons_append], hrest, ?_⟩
        intro lead' rest' hparts hlt
        cases lead' with
        | nil =>
          rw [List.nil_append] at hparts
          rw [← hparts]
          exact htest
        | cons d lead' =>
          obtain ⟨-, htail'⟩ := List.cons.inj hparts
          exact hbefore lead' rest' htail' (by simpa using hlt)
    · rintro ⟨lead, rest, hparts, hrest, hbefore⟩
      cases lead with
      | nil =>
        rw [List.nil_append] at hparts
        simp only [leftmost?, hparts, hrest]
      | cons d lead =>
        obtain ⟨rfl, htail⟩ := List.cons.inj hparts
        have htest : test (c :: tail) = none :=
          hbefore [] (c :: tail) rfl (by simp)
        simp only [leftmost?, htest]
        refine ih.2 ⟨lead, rest, htail, hrest, ?_⟩
        intro lead' rest' htail' hlt
        exact hbefore (c :: lead') rest' (by rw [htail', List.cons_append]) (by simpa using hlt)

/-! ## The two rules at the start of a text -/

/-- The word that a rule finds at the very start of a text. -/
def here? : Source → List Char → Option (List Char)
  | .marker => markedHere?
  | .quoted => quotedHere?
  | .default => fun _ => none

private theorem skipBlanks_append_quote {blanks rest : List Char}
    (h : ∀ c ∈ blanks, Text.isBlank c) :
    Text.skipBlanks (blanks ++ '"' :: rest) = '"' :: rest := by
  unfold Text.skipBlanks
  rw [List.dropWhile_append_of_pos h, List.dropWhile_cons_of_neg]
  simp [Text.isBlank_quote]

/-- A marked word stands at the start of a text exactly when the text reads marker, blanks, quote,
    word, quote. -/
theorem markedHere?_eq_some_iff {text word : List Char} :
    markedHere? text = some word ↔
      word ≠ [] ∧ '"' ∉ word ∧ ∃ blanks rest, (∀ c ∈ blanks, Text.isBlank c) ∧
        text = marker ++ (blanks ++ '"' :: (word ++ '"' :: rest)) := by
  unfold markedHere?
  constructor
  · intro h
    split at h
    · next hmarker =>
      obtain ⟨hne, hfree, rest, hrest⟩ := quotedHere?_eq_some_iff.1 h
      have hdrop : marker ++ text.drop marker.length = text :=
        List.prefix_iff_eq_append.1 (List.isPrefixOf_iff_prefix.1 hmarker)
      refine ⟨hne, hfree, (text.drop marker.length).takeWhile Text.isBlank, rest, ?_, ?_⟩
      · intro c hc
        exact List.all_eq_true.1 List.all_takeWhile c hc
      · rw [← hrest, Text.takeWhile_append_skipBlanks, hdrop]
    · nomatch h
  · rintro ⟨hne, hfree, blanks, rest, hblanks, rfl⟩
    rw [if_pos (List.isPrefixOf_iff_prefix.2 (List.prefix_append _ _)), List.drop_left,
      skipBlanks_append_quote hblanks]
    exact quotedHere?_eq_some_iff.2 ⟨hne, hfree, rest, rfl⟩

/-- A rule applies at the start of a text exactly when the text reads opening, quote, word, quote. -/
theorem here?_eq_some_iff {rule : Source} {text word : List Char} :
    here? rule text = some word ↔
      word ≠ [] ∧ '"' ∉ word ∧ ∃ opening rest, rule.Opens opening ∧
        text = opening ++ '"' :: (word ++ '"' :: rest) := by
  cases rule with
  | marker =>
    simp only [here?, Source.Opens, markedHere?_eq_some_iff]
    constructor
    · rintro ⟨hne, hfree, blanks, rest, hblanks, htext⟩
      exact ⟨hne, hfree, _, rest, ⟨blanks, rfl, hblanks⟩, by rw [htext, List.append_assoc]; rfl⟩
    · rintro ⟨hne, hfree, _, rest, ⟨blanks, rfl, hblanks⟩, htext⟩
      exact ⟨hne, hfree, blanks, rest, hblanks, by rw [htext, List.append_assoc]; rfl⟩
  | quoted => simp [here?, Source.Opens, quotedHere?_eq_some_iff]
  | default => simp [here?, Source.Opens]

end Prompt

/-! ## Readings -/

/-- Two texts that have a part without quotes in front of a quote agree on that part and on what
    follows it. -/
private theorem append_quote_inj {before before' after after' : List Char} (h : '"' ∉ before)
    (h' : '"' ∉ before') (heq : before ++ '"' :: after = before' ++ '"' :: after') :
    before = before' ∧ after = after' := by
  induction before generalizing before' with
  | nil =>
    cases before' with
    | nil => exact ⟨rfl, (List.cons.inj heq).2⟩
    | cons d before' =>
      obtain ⟨rfl, -⟩ := List.cons.inj heq
      exact absurd (List.mem_cons_self) h'
  | cons c before ih =>
    cases before' with
    | nil =>
      obtain ⟨rfl, -⟩ := List.cons.inj heq
      exact absurd (List.mem_cons_self) h
    | cons d before' =>
      obtain ⟨rfl, htail⟩ := List.cons.inj heq
      simp only [List.mem_cons, not_or] at h h'
      obtain ⟨rfl, hafter⟩ := ih h.2 h'.2 htail
      exact ⟨rfl, hafter⟩

/-- What stands in front of the opening quote holds no quote itself. -/
theorem Source.Opens.quote_notMem {rule : Source} {opening : List Char}
    (h : rule.Opens opening) : '"' ∉ opening := by
  cases rule with
  | marker =>
    obtain ⟨blanks, rfl, hblanks⟩ := h
    rw [List.mem_append, not_or]
    refine ⟨by decide, fun hmem => ?_⟩
    have hquote := hblanks '"' hmem
    rw [Text.isBlank_quote] at hquote
    nomatch hquote
  | quoted =>
    obtain rfl : opening = [] := h
    exact List.not_mem_nil
  | default => exact h.elim

namespace Reading

variable {rule : Source} {text : List Char}

/-- A rule finds the word of a reading behind its lead. -/
theorem here?_eq_word (reading : Reading rule text) :
    here? rule (reading.opening ++ '"' :: (reading.word ++ '"' :: reading.rest)) =
      some reading.word :=
  here?_eq_some_iff.2 ⟨reading.word_ne_nil, reading.quote_notMem_word, reading.opening,
    reading.rest, reading.opens, rfl⟩

/-- Where a rule finds a word, there is a reading with that word. -/
theorem exists_of_here? {lead rest word : List Char} (htext : text = lead ++ rest)
    (h : here? rule rest = some word) :
    ∃ reading : Reading rule text, reading.lead = lead ∧ reading.word = word := by
  obtain ⟨hne, hfree, opening, tail, hopens, hrest⟩ := here?_eq_some_iff.1 h
  exact ⟨⟨lead, opening, word, tail, hopens, hne, hfree, by rw [htext, hrest]⟩, rfl, rfl⟩

/-- The length of the lead decides a reading. -/
theorem eq_of_length_lead_eq {reading other : Reading rule text}
    (h : reading.lead.length = other.lead.length) : reading = other := by
  have hparts := reading.eq_parts.symm.trans other.eq_parts
  -- Openings and words hold no quote, so both readings have their quotes at the same places.
  obtain ⟨hlead, hbehind⟩ := List.append_inj hparts h
  obtain ⟨hopening, hquoted⟩ :=
    append_quote_inj reading.opens.quote_notMem other.opens.quote_notMem hbehind
  obtain ⟨hword, hrest⟩ :=
    append_quote_inj reading.quote_notMem_word other.quote_notMem_word hquoted
  exact Reading.ext hlead hopening hword hrest

/-- Without a reading a rule finds no word anywhere, and the other way round. -/
theorem leftmost?_eq_none_iff :
    leftmost? (here? rule) text = none ↔ ¬ Nonempty (Reading rule text) := by
  rw [Prompt.leftmost?_eq_none_iff]
  constructor
  · rintro h ⟨reading⟩
    have hnone := h _ _ reading.eq_parts
    rw [here?_eq_word] at hnone
    nomatch hnone
  · intro hempty lead rest htext
    cases hhere : here? rule rest with
    | none => rfl
    | some word =>
      obtain ⟨reading, -⟩ := exists_of_here? htext hhere
      exact absurd ⟨reading⟩ hempty

/-- The leftmost word that a rule finds is that of the first reading. -/
theorem leftmost?_eq_some_iff {word : List Char} :
    leftmost? (here? rule) text = some word ↔
      ∃ reading : Reading rule text, reading.IsFirst ∧ reading.word = word := by
  rw [Prompt.leftmost?_eq_some_iff]
  constructor
  · rintro ⟨lead, rest, htext, hrest, hbefore⟩
    obtain ⟨reading, rfl, hword⟩ := exists_of_here? htext hrest
    refine ⟨reading, fun other => ?_, hword⟩
    -- The rule finds a word behind the lead of every reading, but behind no shorter one.
    have hle : reading.lead.length ≤ other.lead.length := by
      refine Nat.le_of_not_lt fun hlt => ?_
      have hnone := hbefore _ _ other.eq_parts hlt
      rw [here?_eq_word] at hnone
      nomatch hnone
    rcases Nat.eq_or_lt_of_le hle with heq | hlt
    · exact .inl (eq_of_length_lead_eq heq.symm)
    · exact .inr hlt
  · rintro ⟨reading, hfirst, rfl⟩
    refine ⟨_, _, reading.eq_parts, reading.here?_eq_word, fun lead rest htext hlt => ?_⟩
    cases hhere : here? rule rest with
    | none => rfl
    | some word =>
      obtain ⟨other, rfl, -⟩ := exists_of_here? htext hhere
      rcases hfirst other with rfl | hgt <;> omega

end Reading

/-! ## The word of a prompt -/

namespace WordMatch

theorem ofPrompt_eq (prompt : String) :
    ofPrompt prompt =
      match leftmost? (here? .marker) prompt.toList, leftmost? (here? .quoted) prompt.toList with
      | some word, _ => ⟨String.ofList word, .marker⟩
      | none, some word => ⟨String.ofList word, .quoted⟩
      | none, none => ⟨"unknown", .default⟩ := by
  simp only [ofPrompt, Prompt.find?, here?]
  cases leftmost? markedHere? prompt.toList with
  | some word => rfl
  | none => cases leftmost? quotedHere? prompt.toList <;> rfl

/-- The word of the first marked reading is found. -/
theorem ofPrompt_of_isFirst_marked {prompt : String} {reading : Reading .marker prompt.toList}
    (h : reading.IsFirst) : ofPrompt prompt = ⟨String.ofList reading.word, .marker⟩ := by
  rw [ofPrompt_eq, Reading.leftmost?_eq_some_iff.2 ⟨reading, h, rfl⟩]

/-- Marked readings come before quoted ones, of one rule the first reading counts, and without any
    reading the word is `unknown`. -/
theorem ofPrompt_eq_first_reading (prompt : String) :
    ((ofPrompt prompt).source = .marker ↔ Nonempty (Reading .marker prompt.toList)) ∧
      ((ofPrompt prompt).source = .marker →
        ∃ reading : Reading .marker prompt.toList,
          reading.IsFirst ∧ (ofPrompt prompt).word = String.ofList reading.word) ∧
      ((ofPrompt prompt).source = .quoted ↔
        ¬ Nonempty (Reading .marker prompt.toList) ∧ Nonempty (Reading .quoted prompt.toList)) ∧
      ((ofPrompt prompt).source = .quoted →
        ∃ reading : Reading .quoted prompt.toList,
          reading.IsFirst ∧ (ofPrompt prompt).word = String.ofList reading.word) ∧
      (¬ Nonempty (Reading .marker prompt.toList) → ¬ Nonempty (Reading .quoted prompt.toList) →
        ofPrompt prompt = ⟨"unknown", .default⟩) ∧
      ofPrompt "" = ⟨"unknown", .default⟩ := by
  rw [ofPrompt_eq]
  cases hmarked : leftmost? (here? .marker) prompt.toList with
  | some word =>
    obtain ⟨reading, hfirst, rfl⟩ := Reading.leftmost?_eq_some_iff.1 hmarked
    have hsome : Nonempty (Reading .marker prompt.toList) := ⟨reading⟩
    exact ⟨iff_of_true rfl hsome, fun _ => ⟨reading, hfirst, rfl⟩,
      iff_of_false nofun fun h => h.1 hsome, nofun, fun h => absurd hsome h, rfl⟩
  | none =>
    -- Only now the quoted rule is asked.
    have hnone := Reading.leftmost?_eq_none_iff.1 hmarked
    cases hquoted : leftmost? (here? .quoted) prompt.toList with
    | some word =>
      obtain ⟨reading, hfirst, rfl⟩ := Reading.leftmost?_eq_some_iff.1 hquoted
      have hsome : Nonempty (Reading .quoted prompt.toList) := ⟨reading⟩
      exact ⟨iff_of_false nofun hnone, nofun, iff_of_true rfl ⟨hnone, hsome⟩,
        fun _ => ⟨reading, hfirst, rfl⟩, fun _ h => absurd hsome h, rfl⟩
    | none =>
      have hnone' := Reading.leftmost?_eq_none_iff.1 hquoted
      exact ⟨iff_of_false nofun hnone, nofun, iff_of_false nofun fun h => hnone' h.2, nofun,
        fun _ _ => rfl, rfl⟩

end WordMatch

end CardServer
