import CardServer.Text.Blank

/-! # The word a prompt asks for

A prompt names its word in one of two ways, and the first rule that applies anywhere in the prompt
wins:

* *marker*: `English word:`, any blank characters, then a non-empty run of text in double quotes;
* *quoted*: a non-empty run of text in double quotes.

Of several places where a rule applies the leftmost one counts.  Where neither applies, the word is
`unknown`.  `WordMatch.ofPrompt` carries this out on the characters of the prompt.

* `quotedHere?_eq_some_iff`   a run in quotes stands at the start of a text exactly when the text
  reads quote, run, quote
-/

namespace CardServer

/-- The rule that produced a word. -/
inductive Source where
  | marker
  | quoted
  | default
  deriving DecidableEq, Repr

namespace Source

/-- The label under which a source is logged and counted. -/
def label : Source → String
  | .marker => "marker"
  | .quoted => "quoted"
  | .default => "default"

/-- The strength of the rule behind a source. -/
def rank : Source → Nat
  | .marker => 2
  | .quoted => 1
  | .default => 0

end Source

/-- A word together with the rule that found it. -/
structure WordMatch where
  word : String
  source : Source
  deriving DecidableEq, Repr

namespace Prompt

/-- The word of a prompt in which neither rule applies. -/
def unknownWord : String := "unknown"

/-- The literal that introduces a marked word. -/
def marker : List Char := "English word:".toList

/-- The non-empty run of text in double quotes at the very start of a text. -/
def quotedHere? : List Char → Option (List Char)
  | '"' :: rest =>
    match rest.takeWhile (· != '"'), rest.dropWhile (· != '"') with
    -- Two quotes in a row hold no word, and a word without its second quote is none.
    | [], _ => none
    | _, [] => none
    | word, _ :: _ => some word
  | _ => none

/-- The marked word at the very start of a text. -/
def markedHere? (text : List Char) : Option (List Char) :=
  if marker.isPrefixOf text then
    quotedHere? (Text.skipBlanks (text.drop marker.length))
  else
    none

/-- The first answer that a test gives on the suffixes of a text, from the whole text on. -/
def leftmost? {α : Type} (test : List Char → Option α) : List Char → Option α
  | [] => test []
  | c :: rest =>
    match test (c :: rest) with
    | some answer => some answer
    | none => leftmost? test rest

/-- The word that the two rules find in the characters of a prompt. -/
def find? (text : List Char) : Option (List Char × Source) :=
  -- A marked word counts wherever it stands, even behind a quoted one.
  match leftmost? markedHere? text with
  | some word => some (word, .marker)
  | none => (leftmost? quotedHere? text).map fun word => (word, .quoted)

private theorem dropWhile_ne_quote_head {rest : List Char} {c : Char} {tail : List Char}
    (h : rest.dropWhile (· != '"') = c :: tail) : c = '"' := by
  have := List.head?_dropWhile_not (· != '"') rest
  rw [h] at this
  simpa using this

private theorem takeWhile_ne_quote {word tail : List Char} (h : '"' ∉ word) :
    (word ++ '"' :: tail).takeWhile (· != '"') = word := by
  rw [List.takeWhile_append_of_pos]
  · simp
  · intro c hc
    simp only [bne_iff_ne, ne_eq]
    rintro rfl
    exact h hc

private theorem dropWhile_ne_quote {word tail : List Char} (h : '"' ∉ word) :
    (word ++ '"' :: tail).dropWhile (· != '"') = '"' :: tail := by
  rw [List.dropWhile_append_of_pos]
  · simp
  · intro c hc
    simp only [bne_iff_ne, ne_eq]
    rintro rfl
    exact h hc

/-- A run in quotes stands at the start of a text exactly when the text reads quote, run, quote. -/
theorem quotedHere?_eq_some_iff {text word : List Char} :
    quotedHere? text = some word ↔
      word ≠ [] ∧ '"' ∉ word ∧ ∃ tail, text = '"' :: (word ++ '"' :: tail) := by
  constructor
  · intro h
    unfold quotedHere? at h
    split at h
    · next rest =>
      split at h
      · cases h
      · cases h
      · next c tail hdrop hne =>
        cases h
        refine ⟨fun hnil => hne hnil, ?_, tail, ?_⟩
        · intro hmem
          have hall := List.all_eq_true.1 (List.all_takeWhile (p := (· != '"')) (l := rest)) _ hmem
          simp at hall
        · have hc := dropWhile_ne_quote_head hdrop
          have happ := List.takeWhile_append_dropWhile (p := (· != '"')) (l := rest)
          rw [hdrop, hc] at happ
          rw [happ]
    · cases h
  · rintro ⟨hne, hfree, tail, rfl⟩
    simp only [quotedHere?, takeWhile_ne_quote hfree, dropWhile_ne_quote hfree]

end Prompt

/-- The word that a prompt asks for, and the rule that found it. -/
def WordMatch.ofPrompt (prompt : String) : WordMatch :=
  match Prompt.find? prompt.toList with
  | some (word, source) => ⟨String.ofList word, source⟩
  | none => ⟨Prompt.unknownWord, .default⟩

end CardServer
