import CardServer.Proofs.Generate.Reading
import CardServer.Proofs.Json.Written
import CardServer.Proofs.Prompt.Marker
import CardServer.Proofs.Service.Dispatch

/-! # From a word to its card

A client that puts a marked word into the prompt of a generate call gets the card of exactly that
word back, in whatever way it writes its Json and whatever else it sends.

* `ofBody_of_isText`               the members of an object are found in each of its texts
* `isText_wire`                    a card is sent as a Json text
* `exchange_card_of_marked_word`   the whole way of a marked word
-/

namespace CardServer

open Http (Request Response)

/-- The members of an object are found in each of its texts. -/
theorem GenerateCall.ofBody_of_isText {text : String} {members : List (String × Json)}
    (h : Json.Grammar.IsText text.toList (.obj members)) :
    ofBody text.toUTF8 = (ofMembers members, none) :=
  ofBody_of_isEncoding_obj ⟨text, rfl, h⟩

/-- A card is sent as a Json text. -/
theorem Card.isText_wire (card : Card) : Json.Grammar.IsText card.wire.toList card.toJson := by
  have hstring : ∀ (depth : Nat) (text : String),
      Json.Grammar.Derives depth (Json.write (.str text)) (.value (.str text)) :=
    fun _ text => .string (Json.stringText_writeString text)
  have hexamples : Json.Grammar.Derives 126
      (Json.write (.arr (card.examples.map fun text => .obj [("text", .str text)])))
      (.value (.arr (card.examples.map fun text => .obj [("text", .str text)]))) := by
    refine Json.derives_write_arr fun item hitem => ?_
    obtain ⟨text, -, rfl⟩ := List.mem_map.1 hitem
    refine Json.derives_write_obj fun member hmember => ?_
    obtain rfl := List.mem_singleton.1 hmember
    exact hstring _ text
  have hobject : Json.Grammar.Derives 127 (Json.write card.toJson) (.value card.toJson) := by
    refine Json.derives_write_obj fun member hmember => ?_
    simp only [List.mem_cons, List.not_mem_nil, or_false] at hmember
    rcases hmember with rfl | rfl | rfl | rfl
    · exact hstring _ card.word
    · exact hstring _ card.translation
    · exact hstring _ card.transcription
    · exact hexamples
  have hwire : card.wire.toList = Json.write card.toJson := String.toList_ofList
  rw [hwire]
  exact Json.derives_element hobject

/-- The card of a word as a Json value. -/
theorem Card.toJson_ofWord (word : String) :
    (Card.ofWord word).toJson =
      .obj [("word", .str word), ("translation", .str "_______________"),
        ("transcription", .str "ˈtest"),
        ("example", .arr
          [.obj [("text", .str ("This is a test sentence with the word '" ++ word ++ "'."))],
            .obj [("text", .str ("Another example using '" ++ word ++ "' in context."))]])] := rfl

namespace Service

/-- A generate call that is short enough is answered with the card for its word. -/
theorem exchange_of_isGenerate (fresh : Uuid) (recorder : Recorder) {request : Request}
    (hcall : IsGenerate request) (hsize : request.body.size ≤ bodyLimit) :
    let response := (exchange fresh recorder request).reply.response
    response.status = 200 ∧ response.valuesOf "content-type" = ["application/json"] ∧
      response.body = .text (Card.ofWord
        (WordMatch.ofPrompt (GenerateCall.ofBody request.body).1.prompt).word).wire := by
  have hmarked : IsGenerate (RequestId.mark (RequestId.choose fresh request) request) := by
    simpa [IsGenerate] using hcall
  have hreply : dispatch recorder (RequestId.mark (RequestId.choose fresh request) request) = _ :=
    (dispatch_of_isGenerate hmarked).trans (generate_of_le (by simpa using hsize))
  simp only [exchange, inner, counted, hreply, RequestId.status_stamp, RequestId.body_stamp,
    RequestId.body_mark]
  refine ⟨rfl, ?_, rfl⟩
  rw [RequestId.valuesOf_stamp_of_ne (by decide)]
  rfl

/-- Whatever a client sends besides, a marked word comes back on a card of its own.  The body is any
    text of an object whose last member named `prompt` holds the word. -/
theorem exchange_card_of_marked_word {lead blanks word rest text : String}
    {before after : List (String × Json)} {request : Request}
    (hne : word ≠ "") (hfree : '"' ∉ word.toList)
    (hlead : ¬ "English word:".toList <:+: lead.toList)
    (hblanks : ∀ c ∈ blanks.toList, Text.isBlank c)
    (htext : Json.Grammar.IsText text.toList
      (.obj (before ++ ("prompt",
        .str (lead ++ "English word:" ++ blanks ++ "\"" ++ word ++ "\"" ++ rest)) :: after)))
    (hlast : ∀ member ∈ after, member.1 ≠ "prompt")
    (hmethod : request.method = .post)
    (hpath : request.uri.path = "/v1/generate" ∨ request.uri.path = "/api/generate")
    (hbody : request.body = text.toUTF8) (hsize : request.body.size ≤ 2097152)
    (fresh : Uuid) (recorder : Recorder) :
    let response := (exchange fresh recorder request).reply.response
    let card : Json := .obj
      [("word", .str word), ("translation", .str "_______________"),
        ("transcription", .str "ˈtest"),
        ("example", .arr
          [.obj [("text", .str ("This is a test sentence with the word '" ++ word ++ "'."))],
            .obj [("text", .str ("Another example using '" ++ word ++ "' in context."))]])]
    response.status = 200 ∧ response.valuesOf "content-type" = ["application/json"] ∧
      ∃ content : String, response.body = .text content ∧ Json.read content = .ok card ∧
        ∀ value, Json.Grammar.IsText content.toList value ↔ value = card := by
  -- The last member named `prompt` decides.
  have hprompt : (GenerateCall.ofBody request.body).1.prompt =
      lead ++ "English word:" ++ blanks ++ "\"" ++ word ++ "\"" ++ rest := by
    rw [hbody, GenerateCall.ofBody_of_isText htext]
    simp only [GenerateCall.ofMembers, Json.lastMember?_append_cons _ hlast]
    rfl
  have hword : WordMatch.ofPrompt
      (lead ++ "English word:" ++ blanks ++ "\"" ++ word ++ "\"" ++ rest) = ⟨word, .marker⟩ :=
    WordMatch.ofPrompt_eq_of_lead hlead hblanks hne hfree
  have hcall : IsGenerate request := ⟨hmethod, hpath⟩
  obtain ⟨hstatus, htype, hcontent⟩ := exchange_of_isGenerate fresh recorder hcall hsize
  rw [hprompt, hword] at hcontent
  -- The card is sent as a text of the grammar, and the reader shows that it stands for nothing else.
  have hwire := Card.isText_wire (Card.ofWord word)
  rw [Card.toJson_ofWord] at hwire
  have hread := Json.read_of_isText hwire
  refine ⟨hstatus, htype, (Card.ofWord word).wire, hcontent, hread, fun value => ?_⟩
  constructor
  · intro hvalue
    have hagain := Json.read_of_isText hvalue
    rw [hread] at hagain
    exact (Except.ok.inj hagain).symm
  · rintro rfl
    exact hwire

open Json.Grammar in
/-- The last member of that name has its name escaped, an earlier one has not, and the lead ends in a
    part of the marker. -/
theorem exchange_card_of_word_with_backslash :
    let text := "\x7b\"prompt\":null, \"\\u0070rompt\":" ++
      "\"an English wordEnglish word: \\\"a\\\\b\\\"\"\x7d"
    let request : Request :=
      ⟨.post, ⟨none, none, "/api/generate", some "n=1"⟩, .http11, [], text.toUTF8⟩
    let response := (exchange (.ofRandom 0) .absent request).reply.response
    let card : Json := .obj
      [("word", .str "a\\b"), ("translation", .str "_______________"),
        ("transcription", .str "ˈtest"),
        ("example", .arr
          [.obj [("text", .str ("This is a test sentence with the word '" ++ "a\\b" ++ "'."))],
            .obj [("text", .str ("Another example using '" ++ "a\\b" ++ "' in context."))]])]
    response.status = 200 ∧ response.valuesOf "content-type" = ["application/json"] ∧
      ∃ content : String, response.body = .text content ∧ Json.read content = .ok card ∧
        ∀ value, IsText content.toList value ↔ value = card := by
  intro text request response card
  let prompt := "an English word" ++ "English word:" ++ " " ++ "\"" ++ "a\\b" ++ "\"" ++ ""
  let spelled : List Char := ['\\', 'u', '0', '0', '7', '0'] ++ ['r', 'o', 'm', 'p', 't']
  let earlier : List Char := Json.writeString "prompt" ++ ':' :: Json.write .null
  let later : List Char :=
    [' '] ++ ('"' :: (spelled ++ ['"']) ++ ([] ++ ':' :: Json.writeString prompt))
  have hname : StringText ('"' :: (spelled ++ ['"'])) "prompt" := by
    have hunit : UnitEscape ['\\', 'u', '0', '0', '7', '0'] 'p'.toNat :=
      .mk (i := 0) (j := 0) (k := 7) (l := 0) (.inl rfl) (.inl rfl) (.inl rfl) (.inl rfl)
    have hplain : Spellings ['r', 'o', 'm', 'p', 't'] ['r', 'o', 'm', 'p', 't'] :=
      Json.spellings_flatMap_escapeChar ['r', 'o', 'm', 'p', 't']
    have hchars : "prompt".toList = ['p', 'r', 'o', 'm', 'p', 't'] := String.toList_ofList
    refine .mk ?_
    rw [hchars]
    exact .cons (.unit hunit) hplain
  have hearlier : Derives 126 earlier (.member "prompt" .null) :=
    Json.derives_write_member "prompt" .nullLiteral
  have hlater : Derives 126 later (.member "prompt" (.str prompt)) :=
    .member (by simp [Blanks]) hname nofun
      (Json.derives_element (.string (Json.stringText_writeString prompt)))
  have hparts : text.toList = '{' :: ((earlier ++ ',' :: later) ++ ['}']) := by decide +kernel
  have htext : IsText text.toList (.obj ([("prompt", .null)] ++ ("prompt", .str prompt) :: [])) := by
    rw [hparts]
    exact Json.derives_element (.object (.nextMember hearlier (.lastMember hlater)))
  have hne : "a\\b" ≠ "" := by decide
  have hfree : '"' ∉ "a\\b".toList := by decide
  have hlead : ¬ "English word:".toList <:+: "an English word".toList := by decide +kernel
  have hblanks : ∀ c ∈ " ".toList, Text.isBlank c := by
    intro c hc
    obtain rfl : c = ' ' := by simpa using hc
    decide
  have hsize : request.body.size ≤ 2097152 := by decide +kernel
  exact exchange_card_of_marked_word hne hfree hlead hblanks htext nofun rfl (.inr rfl) rfl hsize
    (.ofRandom 0) .absent

end Service

end CardServer
