import CardServer.Proofs.Prompt.Leftmost
import Mathlib.Data.List.DropRight
import Mathlib.Data.List.GetD
import Mathlib.Data.Nat.Find

/-! # The word of a prompt by its pieces

A prompt can be cut at its quotes once and for all, without any search.  A piece between two quotes is
a *candidate* for the word if it is not empty and if the piece in front of it ends as the rule asks.
Each reading has its word in a candidate and each candidate has a reading, and a shorter lead holds
fewer quotes.  So the first reading is that of the least candidate.

* `exists_cut`            a text can be cut at any of its quotes, and its pieces are cut there too
* `Reading.isCandidate`   the word of a reading is a candidate
* `exists_reading`        every candidate is the word of a reading
* `leftmost?_eq_least`    the leftmost word under a rule is the least candidate
* `ofPrompt_by_pieces`    the word of a prompt is the least candidate under the first rule that has any
-/

namespace CardServer

open Prompt

/-- What a rule asks of the piece in front of a word. -/
def Source.Introduces : Source → List Char → Prop
  | .marker, piece => "English word:".toList <:+ piece.rdropWhile Text.isBlank
  | .quoted, _ => True
  | .default, _ => False

namespace Prompt

/-- Whether a piece, by its number, can be the word under a rule: it stands between two quotes, is not
    empty, and the piece in front of it introduces it. -/
structure IsCandidate (rule : Source) (pieces : List (List Char)) (i : Nat) : Prop where
  pos : 1 ≤ i
  succ_lt : i + 1 < pieces.length
  ne_nil : pieces.getD i [] ≠ []
  introduced : rule.Introduces (pieces.getD (i - 1) [])

/-! ## Pieces -/

theorem length_splitOn_quote (text : List Char) :
    (text.splitOn '"').length = text.count '"' + 1 := by
  induction text with
  | nil => rfl
  | cons c text ih =>
    rw [List.splitOn_cons_eq_if_modifyHead, List.count_cons]
    split
    · rw [List.length_cons, ih]
    · rw [List.length_modifyHead, ih, Nat.add_zero]

/-- A text with a single piece is that piece. -/
theorem eq_of_splitOn_eq_singleton {text piece : List Char} (h : text.splitOn '"' = [piece]) :
    '"' ∉ text ∧ text = piece := by
  have hcount : text.count '"' = 0 := by
    have hlength := length_splitOn_quote text
    rw [h, List.length_singleton] at hlength
    omega
  have hfree : '"' ∉ text := List.count_eq_zero.1 hcount
  rw [List.splitOn_eq_singleton hfree] at h
  exact ⟨hfree, (List.cons.inj h).1⟩

/-- A text can be cut at any of its quotes, and its pieces are cut there too. -/
theorem exists_cut (text : List Char) {i : Nat} (hpos : 0 < i)
    (hlt : i < (text.splitOn '"').length) :
    ∃ before after, text = before ++ '"' :: after ∧
      before.splitOn '"' = (text.splitOn '"').take i ∧
      after.splitOn '"' = (text.splitOn '"').drop i := by
  induction text generalizing i with
  | nil =>
    rw [List.splitOn_nil, List.length_singleton] at hlt
    omega
  | cons c text ih =>
    rw [List.splitOn_cons_eq_if_modifyHead] at hlt ⊢
    by_cases hc : c = '"'
    · subst hc
      simp only [beq_self_eq_true, if_true, List.length_cons] at hlt ⊢
      obtain ⟨j, rfl⟩ : ∃ j, i = j + 1 := ⟨i - 1, by omega⟩
      rcases Nat.eq_zero_or_pos j with rfl | hj
      · -- The cut is at this quote.
        exact ⟨[], text, rfl, by simp, by simp⟩
      · obtain ⟨before, after, rfl, hbefore, hafter⟩ := ih hj (by omega)
        refine ⟨'"' :: before, after, rfl, ?_, ?_⟩
        · rw [List.splitOn_cons_eq_if_modifyHead, if_pos (by simp), hbefore, List.take_succ_cons]
        · rw [hafter, List.drop_succ_cons]
    · have hne : (c == '"') = false := by simpa using hc
      simp only [hne, Bool.false_eq_true, if_false, List.length_modifyHead] at hlt ⊢
      obtain ⟨before, after, rfl, hbefore, hafter⟩ := ih hpos hlt
      refine ⟨c :: before, after, rfl, ?_, ?_⟩
      · rw [List.splitOn_cons_eq_if_modifyHead, if_neg (by simpa using hc), hbefore,
          List.take_modifyHead]
      · rw [hafter, List.drop_modifyHead_of_pos hpos]

/-- The last piece of a text is what the text ends in. -/
theorem suffix_of_splitOn {text last : List Char} {front : List (List Char)}
    (h : text.splitOn '"' = front ++ [last]) : last <:+ text := by
  rcases Nat.eq_zero_or_pos front.length with hzero | hpos
  · rw [List.length_eq_zero_iff.1 hzero, List.nil_append] at h
    exact (eq_of_splitOn_eq_singleton h).2 ▸ List.suffix_refl text
  · obtain ⟨before, after, htext, -, hafter⟩ :=
      exists_cut text hpos (by rw [h]; simp)
    rw [h, List.drop_left] at hafter
    obtain ⟨-, rfl⟩ := eq_of_splitOn_eq_singleton hafter
    exact ⟨before ++ ['"'], by rw [htext, List.append_assoc, List.singleton_append]⟩

/-- What is added to a text without a quote is added to its last piece. -/
theorem exists_splitOn_append (text : List Char) {added : List Char} (h : '"' ∉ added) :
    ∃ front last, (text ++ added).splitOn '"' = front ++ [last ++ added] := by
  induction text with
  | nil => exact ⟨[], [], by rw [List.nil_append, List.splitOn_eq_singleton h]; rfl⟩
  | cons c text ih =>
    obtain ⟨front, last, hsplit⟩ := ih
    rw [List.cons_append, List.splitOn_cons_eq_if_modifyHead, hsplit]
    split
    · exact ⟨[] :: front, last, rfl⟩
    · cases front with
      | nil => exact ⟨[], c :: last, rfl⟩
      | cons piece front => exact ⟨(c :: piece) :: front, last, rfl⟩

/-! ## Candidates and readings -/

/-- A piece introduces a word exactly if it ends in an opening of the rule. -/
theorem introduces_iff {rule : Source} {piece : List Char} :
    rule.Introduces piece ↔ ∃ front opening, piece = front ++ opening ∧ rule.Opens opening := by
  cases rule with
  | marker =>
    constructor
    · rintro ⟨front, hfront⟩
      refine ⟨front, "English word:".toList ++ piece.rtakeWhile Text.isBlank, ?_, _, rfl, ?_⟩
      · rw [← List.append_assoc, hfront, List.rdropWhile_append_rtakeWhile]
      · exact fun c hc => List.mem_rtakeWhile_imp hc
    · rintro ⟨front, _, rfl, blanks, rfl, hblanks⟩
      refine ⟨front, ?_⟩
      -- The marker ends in a colon, so nothing but the blanks is dropped.
      rw [List.rdropWhile, ← List.append_assoc, List.reverse_append,
        List.dropWhile_append_of_pos (by simpa using hblanks), ← List.rdropWhile]
      have hmarker : "English word:".toList ≠ [] := by decide
      refine (List.rdropWhile_eq_self_iff.2 fun _ => ?_).symm
      rw [List.getLast_append_of_ne_nil _ hmarker]
      exact (by decide : ¬ Text.isBlank ':')
  | quoted => exact iff_of_true trivial ⟨piece, [], by rw [List.append_nil], rfl⟩
  | default => exact iff_of_false id fun ⟨_, _, _, h⟩ => h

end Prompt

namespace Reading

variable {rule : Source} {text : List Char}

/-- The number of the piece that holds the word of a reading. -/
def number (reading : Reading rule text) : Nat := reading.lead.count '"' + 1

/-- The word of a reading is the piece with its number, and a candidate. -/
theorem isCandidate (reading : Reading rule text) :
    IsCandidate rule (text.splitOn '"') reading.number ∧
      (text.splitOn '"').getD reading.number [] = reading.word := by
  obtain ⟨front, last, hsplit⟩ :=
    exists_splitOn_append reading.lead reading.opens.quote_notMem
  have hpieces : text.splitOn '"' =
      front ++ (last ++ reading.opening) :: reading.word :: reading.rest.splitOn '"' := by
    have htext : text =
        (reading.lead ++ reading.opening) ++ '"' :: (reading.word ++ '"' :: reading.rest) := by
      rw [List.append_assoc]
      exact reading.eq_parts
    conv_lhs => rw [htext]
    rw [List.splitOn_append_cons_self, hsplit,
      List.splitOn_append_cons_self_of_not_mem reading.quote_notMem_word, List.append_assoc]
    rfl
  have hnumber : reading.number = front.length + 1 := by
    have hlength := length_splitOn_quote (reading.lead ++ reading.opening)
    rw [hsplit, List.count_append, List.count_eq_zero.2 reading.opens.quote_notMem] at hlength
    simpa [number] using hlength.symm
  have hword : (text.splitOn '"').getD reading.number [] = reading.word := by
    simp [hpieces, hnumber, List.getD_eq_getElem?_getD]
  refine ⟨⟨by omega, ?_, ?_, ?_⟩, hword⟩
  · have hrest := List.length_pos_iff.2 (List.splitOn_ne_nil '"' reading.rest)
    rw [hpieces, hnumber]
    simp only [List.length_append, List.length_cons]
    omega
  · rw [hword]
    exact reading.word_ne_nil
  · have hfront : (text.splitOn '"').getD (reading.number - 1) [] = last ++ reading.opening := by
      simp [hpieces, hnumber, List.getD_eq_getElem?_getD]
    rw [hfront]
    exact introduces_iff.2 ⟨last, reading.opening, rfl, reading.opens⟩

/-- Every candidate is the word of a reading. -/
theorem exists_reading {i : Nat} (h : IsCandidate rule (text.splitOn '"') i) :
    ∃ reading : Reading rule text, reading.number = i := by
  have hpos := h.pos
  have hlt := h.succ_lt
  obtain ⟨before, behind, htext, hbefore, hbehind⟩ :=
    exists_cut text hpos (by omega)
  -- The next quote ends the word.
  obtain ⟨word, rest, hparts, hword, -⟩ :=
    exists_cut behind Nat.one_pos (by rw [hbehind, List.length_drop]; omega)
  have hpiece : (text.splitOn '"').drop i =
      (text.splitOn '"').getD i [] :: (text.splitOn '"').drop (i + 1) := by
    rw [List.drop_eq_getElem_cons (by omega), List.getD_eq_getElem _ _ (by omega)]
  rw [hbehind, hpiece, List.take_succ_cons, List.take_zero] at hword
  obtain ⟨hfree, hwordEq⟩ := eq_of_splitOn_eq_singleton hword
  -- The piece in front of the word ends in an opening, and so does the text up to the quote.
  obtain ⟨front, opening, hfront, hopens⟩ := introduces_iff.1 h.introduced
  have hlast : before.splitOn '"' = (text.splitOn '"').take (i - 1) ++ [front ++ opening] := by
    rw [hbefore, ← hfront, List.getD_eq_getElem _ _ (by omega)]
    conv_lhs => rw [show i = i - 1 + 1 by omega]
    rw [List.take_add_one, List.getElem?_eq_getElem (by omega), Option.toList_some]
  obtain ⟨lead, hlead⟩ := (List.suffix_append front opening).trans (suffix_of_splitOn hlast)
  refine ⟨⟨lead, opening, word, rest, hopens, hwordEq ▸ h.ne_nil, hfree, ?_⟩, ?_⟩
  · rw [htext, hparts, ← hlead, List.append_assoc]
  · have hlength := length_splitOn_quote before
    rw [hbefore, List.length_take_of_le (by omega), ← hlead, List.count_append,
      List.count_eq_zero.2 hopens.quote_notMem] at hlength
    exact hlength.symm

/-- A lead that is not longer holds no more quotes. -/
theorem number_le {reading other : Reading rule text}
    (h : reading.lead.length ≤ other.lead.length) : reading.number ≤ other.number := by
  have hlead : reading.lead <+: other.lead :=
    List.prefix_of_prefix_length_le ⟨_, reading.eq_parts.symm⟩ ⟨_, other.eq_parts.symm⟩ h
  exact Nat.succ_le_succ (hlead.sublist.count_le '"')

/-- No candidate comes before the word of the first reading. -/
theorem number_le_of_isFirst {reading : Reading rule text} (h : reading.IsFirst) {i : Nat}
    (hi : IsCandidate rule (text.splitOn '"') i) : reading.number ≤ i := by
  obtain ⟨other, rfl⟩ := exists_reading hi
  rcases h other with rfl | hlt
  · exact Nat.le_refl _
  · exact number_le (Nat.le_of_lt hlt)

end Reading

/-! ## The least candidate -/

open scoped Classical in
/-- The leftmost word under a rule is the least candidate. -/
theorem Prompt.leftmost?_eq_least (rule : Source) (text : List Char) :
    leftmost? (here? rule) text =
      if h : ∃ i, IsCandidate rule (text.splitOn '"') i then
        some ((text.splitOn '"').getD (Nat.find h) [])
      else
        none := by
  cases hfound : leftmost? (here? rule) text with
  | some word =>
    obtain ⟨reading, hfirst, rfl⟩ := Reading.leftmost?_eq_some_iff.1 hfound
    obtain ⟨hcandidate, hword⟩ := reading.isCandidate
    have hsome : ∃ i, IsCandidate rule (text.splitOn '"') i := ⟨_, hcandidate⟩
    have hfind : Nat.find hsome = reading.number :=
      Nat.le_antisymm (Nat.find_min' hsome hcandidate)
        (Reading.number_le_of_isFirst hfirst (Nat.find_spec hsome))
    rw [dif_pos hsome, hfind, hword]
  | none =>
    have hnone : ¬ ∃ i, IsCandidate rule (text.splitOn '"') i := by
      rintro ⟨i, hi⟩
      obtain ⟨reading, -⟩ := Reading.exists_reading hi
      exact Reading.leftmost?_eq_none_iff.1 hfound ⟨reading⟩
    rw [dif_neg hnone]

open scoped Classical in
/-- The word of a prompt is the least candidate under the marker rule if there is any, otherwise the
    least one under the quoted rule if there is any, and otherwise `unknown`. -/
theorem WordMatch.ofPrompt_by_pieces (prompt : String) :
    let pieces := prompt.toList.splitOn '"'
    ofPrompt prompt =
      if h : ∃ i, IsCandidate .marker pieces i then
        ⟨String.ofList (pieces.getD (Nat.find h) []), .marker⟩
      else if h : ∃ i, IsCandidate .quoted pieces i then
        ⟨String.ofList (pieces.getD (Nat.find h) []), .quoted⟩
      else
        ⟨"unknown", .default⟩ := by
  intro pieces
  rw [ofPrompt_eq, leftmost?_eq_least, leftmost?_eq_least]
  by_cases hmarked : ∃ i, IsCandidate .marker pieces i
  · rw [dif_pos hmarked, dif_pos hmarked]
  · rw [dif_neg hmarked, dif_neg hmarked]
    by_cases hquoted : ∃ i, IsCandidate .quoted pieces i
    · rw [dif_pos hquoted, dif_pos hquoted]
    · rw [dif_neg hquoted, dif_neg hquoted]

end CardServer
