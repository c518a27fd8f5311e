import CardServer.Json.Writer

/-! # Word cards

The card that answers a generate call: the word itself, two fixed placeholders where a real model
would put its work, and two example sentences with the word in single quotes.

-/

namespace CardServer

/-- A sentence with a gap for the word. -/
structure Frame where
  lead : String
  tail : String
  deriving DecidableEq, Repr

/-- The sentence with a word in its gap. -/
def Frame.fill (frame : Frame) (word : String) : String := frame.lead ++ word ++ frame.tail

/-- A word card. -/
structure Card where
  word : String
  translation : String
  transcription : String
  first : String
  second : String
  deriving DecidableEq, Repr

namespace Card

/-- What stands in place of a translation. -/
def translationPlaceholder : String := "_______________"

/-- What stands in place of a transcription. -/
def transcriptionPlaceholder : String := "ˈtest"

/-- The sentence of the first example. -/
def firstFrame : Frame := ⟨"This is a test sentence with the word '", "'."⟩

/-- The sentence of the second example. -/
def secondFrame : Frame := ⟨"Another example using '", "' in context."⟩

/-- The card for a word. -/
def ofWord (word : String) : Card where
  word
  translation := translationPlaceholder
  transcription := transcriptionPlaceholder
  first := firstFrame.fill word
  second := secondFrame.fill word

/-- The examples of a card in order. -/
def examples (card : Card) : List String := [card.first, card.second]

/-- A card as a Json object. -/
def toJson (card : Card) : Json :=
  .obj [("word", .str card.word), ("translation", .str card.translation),
    ("transcription", .str card.transcription),
    ("example", .arr (card.examples.map fun text => .obj [("text", .str text)]))]

/-- The text of a card as it is sent. -/
def wire (card : Card) : String := card.toJson.render

end Card

/-- The model that the listing routes advertise. -/
structure ModelInfo where
  name : String
  id : String
  size : String
  modified : String
  deriving DecidableEq, Repr

namespace ModelInfo

/-- The only model there is. -/
def only : ModelInfo := ⟨"llama3:8b", "365c0bd3c000", "4.7 GB", "2 months ago"⟩

/-- A model as a Json object. -/
def toJson (model : ModelInfo) : Json :=
  .obj [("name", .str model.name), ("id", .str model.id), ("size", .str model.size),
    ("modified", .str model.modified)]

end ModelInfo

end CardServer
