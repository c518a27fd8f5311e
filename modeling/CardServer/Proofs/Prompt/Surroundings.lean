import CardServer.Proofs.Prompt.Leftmost

/-! # A prompt within other text

Where a rule applies in a text it applies in every longer text.  Text in front may bring an earlier
reading.  Text behind cannot: a new reading needs a quote of its own behind the old text, so it would
have to reach across both quotes of the old reading, and neither an opening nor a word holds a quote.

* `Reading.exists_of_append`    a reading of a longer text that starts no later than one of the text
  itself lies within the text
* `Reading.isFirst_append`      the first reading stays the first one, whatever follows
* `leftmost?_append`            a word that a rule finds is found whatever follows
* `ofPrompt_stable`             text around a prompt never weakens the rule, and text behind it never
  replaces a word by another one of the same rule
-/

namespace CardServer

open Prompt

namespace Reading

variable {rule : Source} {text : List Char}

/-- A reading of a text as one of a longer text. -/
def within (reading : Reading rule text) (before after : List Char) :
    Reading rule (before ++ (text ++ after)) where
  lead := before ++ reading.lead
  opening := reading.opening
  word := reading.word
  rest := reading.rest ++ after
  opens := reading.opens
  word_ne_nil := reading.word_ne_nil
  quote_notMem_word := reading.quote_notMem_word
  eq_parts :=
    (congrArg (fun text => before ++ (text ++ after)) reading.eq_parts).trans (by simp)

/-- A text has two quotes more than the lead of its reading. -/
theorem count_quote_le (reading : Reading rule text) :
    reading.lead.count '"' + 2 ≤ text.count '"' := by
  have hcount : text.count '"' = _ := congrArg (List.count '"') reading.eq_parts
  simp only [List.count_append, List.count_cons_self] at hcount
  omega

/-- A reading of a longer text that starts no later than one of the text itself lies within the
    text. -/
theorem exists_of_append {added : List Char} (reading : Reading rule text)
    (other : Reading rule (text ++ added)) (h : other.lead.length ≤ reading.lead.length) :
    ∃ own : Reading rule text, own.lead = other.lead ∧ own.word = other.word := by
  -- All of the other reading up to its closing quote, and all but that quote.
  let front := other.lead ++ (other.opening ++ '"' :: other.word)
  let closed := front ++ ['"']
  have hclosed : closed <+: text ++ added :=
    ⟨other.rest, Eq.trans (by simp [closed, front]) other.eq_parts.symm⟩
  have hown : reading.lead <+: text := ⟨_, reading.eq_parts.symm⟩
  have hlead : other.lead <+: reading.lead :=
    List.prefix_of_prefix_length_le ⟨_, other.eq_parts.symm⟩
      (hown.trans (List.prefix_append _ _)) h
  have hinside : closed <+: text := by
    refine List.prefix_of_prefix_length_le hclosed (List.prefix_append _ _)
      (Nat.le_of_not_lt fun hlt => ?_)
    -- Otherwise the text would end in front of the closing quote and have too few quotes.
    have htext : text <+: front := by
      refine List.prefix_of_prefix_length_le (List.prefix_append text added)
        ((List.prefix_append front ['"']).trans hclosed) ?_
      simp only [closed, List.length_append, List.length_singleton] at hlt
      omega
    have hcount := htext.sublist.count_le '"'
    have hbefore := hlead.sublist.count_le '"'
    have hquotes := reading.count_quote_le
    have hopening := List.count_eq_zero.2 other.opens.quote_notMem
    have hword := List.count_eq_zero.2 other.quote_notMem_word
    simp only [front, List.count_append, List.count_cons_self, hopening, hword] at hcount
    omega
  obtain ⟨rest, hrest⟩ := hinside
  exact ⟨⟨other.lead, other.opening, other.word, rest, other.opens, other.word_ne_nil,
    other.quote_notMem_word, hrest.symm.trans (by simp [closed, front])⟩, rfl, rfl⟩

/-- The first reading stays the first one, whatever follows. -/
theorem isFirst_append {reading : Reading rule text} (h : reading.IsFirst) (added : List Char) :
    (reading.within [] added).IsFirst := by
  intro other
  rcases Nat.lt_or_ge reading.lead.length other.lead.length with hlt | hge
  · exact .inr hlt
  · obtain ⟨own, hlead, -⟩ := reading.exists_of_append other hge
    rcases h own with rfl | hlt
    · exact .inl (eq_of_length_lead_eq (congrArg List.length hlead.symm))
    · rw [hlead] at hlt
      omega

end Reading

namespace Prompt

variable {rule : Source} {text word : List Char}

/-- A word that a rule finds is found whatever follows. -/
theorem leftmost?_append (h : leftmost? (here? rule) text = some word) (added : List Char) :
    leftmost? (here? rule) (text ++ added) = some word := by
  obtain ⟨reading, hfirst, rfl⟩ := Reading.leftmost?_eq_some_iff.1 h
  exact Reading.leftmost?_eq_some_iff.2
    ⟨reading.within [] added, Reading.isFirst_append hfirst added, rfl⟩

/-- A rule that finds a word in a text finds one in every longer text. -/
theorem exists_leftmost?_within (h : leftmost? (here? rule) text = some word)
    (before after : List Char) :
    ∃ other, leftmost? (here? rule) (before ++ (text ++ after)) = some other := by
  obtain ⟨reading, -, -⟩ := Reading.leftmost?_eq_some_iff.1 h
  refine Option.ne_none_iff_exists'.1 fun hnone => ?_
  exact Reading.leftmost?_eq_none_iff.1 hnone ⟨reading.within before after⟩

end Prompt

/-- Text around a prompt never weakens the rule that finds its word.  Text behind it changes nothing
    if the word is marked; if the word is quoted, it leaves it alone unless it brings a marked one. -/
theorem WordMatch.ofPrompt_stable (before prompt after : String) :
    (ofPrompt prompt).source.rank ≤ (ofPrompt (before ++ prompt ++ after)).source.rank ∧
      ((ofPrompt prompt).source = .marker → ofPrompt (prompt ++ after) = ofPrompt prompt) ∧
      ∀ word, ofPrompt prompt = ⟨word, .quoted⟩ →
        ofPrompt (prompt ++ after) = ⟨word, .quoted⟩ ∨
          (ofPrompt (prompt ++ after)).source = .marker := by
  simp only [ofPrompt_eq, String.toList_append, List.append_assoc]
  cases hmarked : leftmost? (here? .marker) prompt.toList with
  | some word =>
    obtain ⟨other, hother⟩ := exists_leftmost?_within hmarked before.toList after.toList
    have hsame := leftmost?_append hmarked after.toList
    rw [hother, hsame]
    exact ⟨Nat.le_refl _, fun _ => rfl, fun found hfound =>
      nomatch (show Source.marker = .quoted from congrArg WordMatch.source hfound)⟩
  | none =>
    cases hquoted : leftmost? (here? .quoted) prompt.toList with
    | some word =>
      obtain ⟨other, hother⟩ := exists_leftmost?_within hquoted before.toList after.toList
      have hsame := leftmost?_append hquoted after.toList
      rw [hother, hsame]
      refine ⟨?_, nofun, fun found hfound => ?_⟩
      · cases leftmost? (here? .marker) (before.toList ++ (prompt.toList ++ after.toList)) with
        | some marked => exact Nat.le_succ 1
        | none => exact Nat.le_refl 1
      · -- The longer text may hold a marked word even though the prompt does not.
        cases leftmost? (here? .marker) (prompt.toList ++ after.toList) with
        | some marked => exact .inr rfl
        | none => exact .inl hfound
    | none =>
      exact ⟨Nat.zero_le _, nofun, fun found hfound =>
        nomatch (show Source.default = .quoted from congrArg WordMatch.source hfound)⟩

end CardServer
