import CardServer.Card
import Mathlib.Data.List.Nodup

/-! # The word in its sentences

A sentence has its word between two single quotes and no quote besides these.  So the word in quotes
stands in the gap and nowhere else, whatever quotes it holds itself: further to the left its opening
quote would be one of the lead, further to the right its closing quote would be one of the tail.

* `mem_places_iff`             the places where a pattern stands in a text
* `Frame.Quotes.places_fill`   a word in quotes stands at one place of its sentence
* `Frame.gap?_eq_some_iff`     the word of a sentence is what lead and tail leave of it
* `examples_embed_word_once`   both for the sentences of a card
-/

namespace CardServer

/-! ## Places -/

/-- The places where a pattern stands in a text; they may overlap. -/
def places (pattern text : List Char) : List Nat :=
  (List.range (text.length + 1)).filter fun i => pattern.isPrefixOf (text.drop i)

/-- A pattern stands where the text is cut by what is in front of it and what is behind. -/
theorem mem_places_iff {pattern text : List Char} {i : Nat} :
    i ∈ places pattern text ↔
      ∃ before after, text = before ++ (pattern ++ after) ∧ before.length = i := by
  simp only [places, List.mem_filter, List.mem_range, List.isPrefixOf_iff_prefix]
  constructor
  · rintro ⟨hi, after, hafter⟩
    refine ⟨text.take i, after, ?_, by rw [List.length_take]; omega⟩
    rw [hafter, List.take_append_drop]
  · rintro ⟨before, after, rfl, rfl⟩
    refine ⟨by rw [List.length_append]; omega, after, ?_⟩
    rw [List.drop_left]

theorem nodup_places (pattern text : List Char) : (places pattern text).Nodup :=
  List.nodup_range.filter _

/-! ## Quotes -/

/-- A letter stands no further to the left than a text without it reaches. -/
theorem length_le_of_append_eq {c : Char} {lead before rest after : List Char} (hlead : c ∉ lead)
    (h : before ++ c :: after = lead ++ rest) : lead.length ≤ before.length := by
  by_contra hlt
  have hbound : before.length < lead.length := Nat.lt_of_not_le hlt
  have hat : (lead ++ rest)[before.length]? = some c := by
    rw [← h, List.getElem?_append_right (Nat.le_refl _), Nat.sub_self]
    rfl
  rw [List.getElem?_append_left hbound] at hat
  exact hlead (List.mem_of_getElem? hat)

/-- Between a lead and a tail without quotes, what stands in quotes stands there alone. -/
theorem append_quoted_inj {q : Char} {lead tail before after word : List Char} (hlead : q ∉ lead)
    (htail : q ∉ tail)
    (h : before ++ (q :: (word ++ [q]) ++ after) = lead ++ (q :: (word ++ [q]) ++ tail)) :
    before = lead ∧ after = tail := by
  have hleft : lead.length ≤ before.length := length_le_of_append_eq hlead h
  have hright : tail.length ≤ after.length := by
    -- The same from the other end, where the closing quote comes first.
    have hreverse := congrArg List.reverse h
    simp only [List.reverse_append, List.reverse_cons, List.nil_append, List.append_assoc,
      List.cons_append] at hreverse
    have hle := length_le_of_append_eq (mt List.mem_reverse.1 htail) hreverse
    simpa only [List.length_reverse] using hle
  have htotal := congrArg List.length h
  simp only [List.length_append] at htotal
  obtain ⟨hbefore, hrest⟩ := List.append_inj h (by omega)
  exact ⟨hbefore, List.append_cancel_left hrest⟩

/-! ## Sentences -/

/-- A word between single quotes. -/
def inQuotes (word : String) : List Char := '\'' :: (word.toList ++ ['\''])

namespace Frame

/-- A frame that puts its gap between quotes and has no other quote, with the text in front of the
    quotes and the text behind them. -/
structure Quotes (frame : Frame) (lead tail : List Char) : Prop where
  lead_eq : frame.lead.toList = lead ++ ['\'']
  tail_eq : frame.tail.toList = '\'' :: tail
  notMem_lead : '\'' ∉ lead
  notMem_tail : '\'' ∉ tail

theorem Quotes.toList_fill {frame : Frame} {lead tail : List Char} (h : frame.Quotes lead tail)
    (word : String) : (frame.fill word).toList = lead ++ (inQuotes word ++ tail) := by
  simp only [fill, String.toList_append, h.lead_eq, h.tail_eq, inQuotes, List.append_assoc,
    List.cons_append, List.nil_append]

/-- A word in quotes stands at one place of its sentence, right behind the text in front. -/
theorem Quotes.places_fill {frame : Frame} {lead tail : List Char} (h : frame.Quotes lead tail)
    (word : String) : places (inQuotes word) (frame.fill word).toList = [lead.length] := by
  have hmem (i : Nat) : i ∈ places (inQuotes word) (frame.fill word).toList ↔ i = lead.length := by
    rw [mem_places_iff, h.toList_fill]
    constructor
    · rintro ⟨before, after, hcut, rfl⟩
      obtain ⟨rfl, -⟩ := append_quoted_inj h.notMem_lead h.notMem_tail hcut.symm
      rfl
    · rintro rfl
      exact ⟨lead, tail, rfl, rfl⟩
  refine List.perm_singleton.1 ((List.perm_ext_iff_of_nodup (nodup_places _ _)
    (List.nodup_singleton _)).2 fun i => ?_)
  rw [hmem, List.mem_singleton]

/-- What lead and tail leave of a text, if it starts and ends with them. -/
def gap? (frame : Frame) (text : String) : Option String :=
  let behind := text.toList.drop frame.lead.toList.length
  let word := String.ofList (behind.take (behind.length - frame.tail.toList.length))
  if frame.fill word = text then some word else none

/-- The gap of a sentence holds the word that it is made with. -/
theorem gap?_eq_some_iff {frame : Frame} {text word : String} :
    frame.gap? text = some word ↔ frame.fill word = text := by
  simp only [gap?]
  constructor
  · intro h
    split at h
    · next hfill => rwa [Option.some.inj h] at hfill
    · nomatch h
  · rintro rfl
    have hword : String.ofList (((frame.fill word).toList.drop frame.lead.toList.length).take
        (((frame.fill word).toList.drop frame.lead.toList.length).length -
          frame.tail.toList.length)) = word := by
      rw [fill, String.toList_append, String.toList_append, List.append_assoc, List.drop_left,
        List.length_append, Nat.add_sub_cancel, List.take_left, String.ofList_toList]
    rw [hword, if_pos rfl]

/-- Different words make different sentences. -/
theorem fill_inj {frame : Frame} {word other : String} :
    frame.fill other = frame.fill word ↔ other = word := by
  constructor
  · intro h
    exact Option.some.inj ((gap?_eq_some_iff.2 h).symm.trans (gap?_eq_some_iff.2 rfl))
  · rintro rfl
    rfl

end Frame

namespace Card

theorem quotes_firstFrame :
    firstFrame.Quotes "This is a test sentence with the word ".toList ".".toList :=
  ⟨by decide, by decide, by decide, by decide⟩

theorem quotes_secondFrame :
    secondFrame.Quotes "Another example using ".toList " in context.".toList :=
  ⟨by decide, by decide, by decide, by decide⟩

/-- A card has two sentences, and the word in single quotes stands at exactly one place of each, right
    behind a text that is the same for all words; places that overlap would count.  So a sentence tells
    its word: it is what the lead and the tail of the sentence leave, and no other word has the same
    sentence. -/
theorem examples_embed_word_once (word : String) :
    (ofWord word).examples =
      ["This is a test sentence with the word '" ++ word ++ "'.",
        "Another example using '" ++ word ++ "' in context."] ∧
    ((ofWord word).examples.map fun text => places (inQuotes word) text.toList) =
      [["This is a test sentence with the word ".length], ["Another example using ".length]] ∧
    [firstFrame, secondFrame].zipWith Frame.gap? (ofWord word).examples =
      [some word, some word] ∧
    ∀ other, ((ofWord other).first = (ofWord word).first ↔ other = word) ∧
      ((ofWord other).second = (ofWord word).second ↔ other = word) := by
  refine ⟨rfl, ?_, ?_, fun other => ⟨Frame.fill_inj, Frame.fill_inj⟩⟩
  · have hfirst := quotes_firstFrame.places_fill word
    have hsecond := quotes_secondFrame.places_fill word
    simp only [examples, ofWord, List.map_cons, List.map_nil, hfirst, hsecond,
      String.length_toList]
  · have hfirst : firstFrame.gap? (ofWord word).first = some word := Frame.gap?_eq_some_iff.2 rfl
    have hsecond : secondFrame.gap? (ofWord word).second = some word :=
      Frame.gap?_eq_some_iff.2 rfl
    simp only [examples, List.zipWith_cons_cons, hfirst, hsecond, List.zipWith_nil_left]

end Card

end CardServer
