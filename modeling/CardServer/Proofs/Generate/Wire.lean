import CardServer.Proofs.Generate.RoundTrip
import CardServer.Proofs.Json.Soundness
import CardServer.Proofs.Json.Visible

/-! # The wire form of a card

A card is sent as compact Json.  Its text is a Json text of exactly one value, from which the word, the
placeholders and the sentences are read back as they were, whatever characters the word is made of.
The text has no control characters, and no two words share one.

* `read_wire`             what is read back from the text of a card
* `isVisible_wire`        no control characters stand in the text of a card
* `word_of_wire`          the text of a card tells its word
* `wire_is_lossless`      the same of the bytes that are sent
-/

namespace CardServer.Card

/-- What is read back from the text of a card is the card. -/
theorem read_wire (card : Card) : Json.read card.wire = .ok card.toJson :=
  Json.read_of_isText card.isText_wire

/-- No control characters stand in the text of a card. -/
theorem isVisible_wire (card : Card) : Json.IsVisible card.wire.toList := by
  rw [wire, Json.render, String.toList_ofList]
  exact Json.isVisible_write card.toJson

/-- A card as a Json value has its word as a member. -/
theorem word_of_toJson {card other : Card} (h : card.toJson = other.toJson) :
    card.word = other.word := by
  simp only [toJson, Json.obj.injEq, List.cons.injEq, Prod.mk.injEq, Json.str.injEq] at h
  exact h.1.2

/-- The text of a card tells its word. -/
theorem word_of_wire {card other : Card} (h : card.wire = other.wire) : card.word = other.word := by
  have hread := card.read_wire
  rw [h, other.read_wire] at hread
  exact (word_of_toJson (Except.ok.inj hread)).symm

/-- The bytes that are sent for the card of a word stand for exactly one value: an object with the
    word, the two placeholders and the two sentences around the word.  A strict reader reads this value
    back, no byte is a control character, and no other word has the same text. -/
theorem wire_is_lossless (word : String) :
    let wire := (ofWord word).wire
    let card : Json := .obj
      [("word", .str word), ("translation", .str "_______________"),
        ("transcription", .str "ˈtest"),
        ("example", .arr
          [.obj [("text", .str ("This is a test sentence with the word '" ++ word ++ "'."))],
            .obj [("text", .str ("Another example using '" ++ word ++ "' in context."))]])]
    Json.ofBytes? wire.toUTF8 = some card ∧
      (∀ value, Json.Grammar.IsEncoding wire.toUTF8 value ↔ value = card) ∧
      (∀ b ∈ wire.toUTF8.data.toList, 0x20 ≤ b) ∧
      ∀ other, (ofWord other).wire = wire → other = word := by
  intro wire card
  have hcard : (ofWord word).toJson = card := toJson_ofWord word
  have htext : Json.Grammar.IsText wire.toList card := hcard ▸ (ofWord word).isText_wire
  have hread : Json.ofBytes? wire.toUTF8 = some card :=
    Json.ofBytes?_eq_some_iff.2 ⟨wire, rfl, htext⟩
  refine ⟨hread, fun value => ⟨fun hvalue => ?_, ?_⟩, fun b hb => ?_, fun other hother => ?_⟩
  · -- The reader reads back whatever value the bytes stand for, so there is only one.
    have hagain := Json.ofBytes?_eq_some_iff.2 hvalue
    rw [hread] at hagain
    exact (Option.some.inj hagain).symm
  · rintro rfl
    exact ⟨wire, rfl, htext⟩
  · exact Json.le_of_mem_toUTF8 (ofWord word).isVisible_wire hb
  · exact word_of_wire hother

end CardServer.Card
