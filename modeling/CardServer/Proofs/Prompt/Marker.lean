import CardServer.Proofs.Prompt.Leftmost

/-! # A marked word behind a lead without the marker

The first character of the marker occurs in it only once, so no two places of the marker in a text
overlap.  A marked word behind a lead that does not hold the marker is therefore the first one, even
if the lead ends in a part of the marker.

* `isPrefix_of_append_marker`   a marker that starts in front of another one ends in front of it
* `ofPrompt_eq_of_lead`         the word behind a lead without the marker is found
-/

namespace CardServer

open Prompt

namespace Prompt

/-- The first character of the marker does not occur in it again. -/
private theorem getElem?_marker_ne {i : Nat} (hi : 0 < i) : marker[i]? ≠ marker[0]? := by
  have hall : ∀ i < marker.length, 0 < i → marker[i]? ≠ marker[0]? := by decide +kernel
  rcases Nat.lt_or_ge i marker.length with hlt | hge
  · exact hall i hlt hi
  · rw [List.getElem?_eq_none hge]
    exact nofun

/-- A marker that starts in front of another one ends in front of it. -/
theorem isPrefix_of_append_marker {between rest rest' : List Char} (hne : between ≠ [])
    (h : marker ++ rest = between ++ (marker ++ rest')) : marker <+: between := by
  have hpos : 0 < between.length := List.length_pos_iff.2 hne
  rcases Nat.lt_or_ge between.length marker.length with hlt | hge
  · -- The other marker would start within the first one.
    have hhead : marker[between.length]? = marker[0]? := by
      have hget : (marker ++ rest)[between.length]? =
          (between ++ (marker ++ rest'))[between.length]? := by rw [h]
      rw [List.getElem?_append_left hlt, List.getElem?_append_right (Nat.le_refl _), Nat.sub_self,
        List.getElem?_append_left (by decide)] at hget
      exact hget
    exact absurd hhead (getElem?_marker_ne hpos)
  · exact List.prefix_of_prefix_length_le (List.prefix_append _ _) ⟨_, h.symm⟩ hge

end Prompt

/-- A marked reading whose lead does not hold the marker is the first one. -/
theorem Reading.isFirst_of_lead {text : List Char} (reading : Reading .marker text)
    (h : ¬ marker <:+: reading.lead) : reading.IsFirst := by
  intro other
  rcases Nat.lt_trichotomy other.lead.length reading.lead.length with hlt | heq | hgt
  · obtain ⟨blanks, hopening, -⟩ := reading.opens
    obtain ⟨blanks', hopening', -⟩ := other.opens
    have hparts := reading.eq_parts.symm.trans other.eq_parts
    -- The shorter lead is a part of the longer one, and the marker follows it.
    have hprefix : other.lead <+: reading.lead :=
      List.prefix_of_prefix_length_le ⟨_, other.eq_parts.symm⟩ ⟨_, reading.eq_parts.symm⟩
        (Nat.le_of_lt hlt)
    obtain ⟨between, hbetween⟩ := hprefix
    have hne : between ≠ [] := by
      rintro rfl
      rw [List.append_nil] at hbetween
      rw [hbetween] at hlt
      exact Nat.lt_irrefl _ hlt
    rw [← hbetween, List.append_assoc] at hparts
    have hbehind := List.append_cancel_left hparts
    rw [hopening, hopening', List.append_assoc, List.append_assoc] at hbehind
    have hmarker := isPrefix_of_append_marker hne hbehind.symm
    refine absurd ?_ h
    rw [← hbetween]
    exact hmarker.isInfix.trans (List.suffix_append _ _).isInfix
  · exact .inl (Reading.eq_of_length_lead_eq heq)
  · exact .inr hgt

/-- The word behind a lead without the marker is found. -/
theorem WordMatch.ofPrompt_eq_of_lead {lead blanks word rest : String}
    (hlead : ¬ marker <:+: lead.toList) (hblanks : ∀ c ∈ blanks.toList, Text.isBlank c)
    (hne : word ≠ "") (hfree : '"' ∉ word.toList) :
    ofPrompt (lead ++ "English word:" ++ blanks ++ "\"" ++ word ++ "\"" ++ rest) =
      ⟨word, .marker⟩ := by
  let reading : Reading .marker
      (lead ++ "English word:" ++ blanks ++ "\"" ++ word ++ "\"" ++ rest).toList :=
    { lead := lead.toList
      opening := "English word:".toList ++ blanks.toList
      word := word.toList
      rest := rest.toList
      opens := ⟨blanks.toList, rfl, hblanks⟩
      word_ne_nil := fun hnil => hne (String.toList_eq_nil_iff.1 hnil)
      quote_notMem_word := hfree
      eq_parts := by simp }
  have hfirst : reading.IsFirst := reading.isFirst_of_lead hlead
  rw [ofPrompt_of_isFirst_marked hfirst]
  simp [reading]

end CardServer
