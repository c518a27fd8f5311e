import CardServer.Proofs.Generate.Reading
import CardServer.Proofs.Json.Layout
import CardServer.Proofs.Json.Written
import CardServer.Proofs.Service.Conservation
import Mathlib.Logic.Relation

/-! # What of the body of a generate call does not matter

The body of a generate call can be changed in many ways without any effect: blanks between the tokens,
the spelling of strings, all members of other names, members that a later one hides, values that are no
strings, and the order of members of different names.  Each of these changes keeps what the members say
about the two names that matter, and so does any number of them one after the other.

On the way a body may become too deep for the reader, as long as it is not so at either end.

* `derives_unique`                     a text stands for one value
* `ofMembers_eq_of_edit`               an edit of the members keeps what they say
* `exists_isObject_of_change`          and so does a change of the text
* `reply_eq_of_ofBody_eq`              calls that say the same are answered the same
* `only_model_and_prompt_matter`       changed bodies are read, answered, logged and counted alike
-/

namespace CardServer

open Http (Request)

namespace Json.Grammar

/-- What may be nested may also be nested if more depth is allowed. -/
theorem Derives.mono {depth depth' : Nat} {text : List Char} {phrase : Phrase}
    (h : Derives depth text phrase) (hle : depth ≤ depth') : Derives depth' text phrase := by
  induction h generalizing depth' with
  | nullLiteral => exact .nullLiteral
  | trueLiteral => exact .trueLiteral
  | falseLiteral => exact .falseLiteral
  | number hnumeral hvalue => exact .number hnumeral hvalue
  | string hstring => exact .string hstring
  | emptyArray hblanks =>
    obtain ⟨inner, rfl⟩ := Nat.exists_eq_add_of_lt hle
    exact .emptyArray hblanks
  | array _ ih =>
    obtain ⟨inner, rfl⟩ := Nat.exists_eq_add_of_lt hle
    exact .array (ih (Nat.le_add_right _ _))
  | emptyObject hblanks =>
    obtain ⟨inner, rfl⟩ := Nat.exists_eq_add_of_lt hle
    exact .emptyObject hblanks
  | object _ ih =>
    obtain ⟨inner, rfl⟩ := Nat.exists_eq_add_of_lt hle
    exact .object (ih (Nat.le_add_right _ _))
  | element hbefore _ hafter ih => exact .element hbefore (ih hle) hafter
  | lastItem _ ih => exact .lastItem (ih hle)
  | nextItem _ _ ih ihmore => exact .nextItem (ih hle) (ihmore hle)
  | member hbefore hname hafter _ ih => exact .member hbefore hname hafter (ih hle)
  | lastMember _ ih => exact .lastMember (ih hle)
  | nextMember _ _ ih ihmore => exact .nextMember (ih hle) (ihmore hle)

/-- A text stands for one value, however deep it is nested. -/
theorem derives_unique {depth depth' : Nat} {text : List Char} {value value' : Json}
    (h : Derives depth text (.element value)) (h' : Derives depth' text (.element value')) :
    value = value' := by
  -- With depth enough for both the reader finds both.
  have hreads := reads_of_derives (h.mono (Nat.le_max_left depth depth'))
  have hreads' := reads_of_derives (h'.mono (Nat.le_max_right depth depth'))
  obtain ⟨_, hread, -⟩ := hreads _ [] text (Nat.le_refl _) nofun (by rw [List.append_nil])
  obtain ⟨_, hread', -⟩ := hreads' _ [] text (Nat.le_refl _) nofun (by rw [List.append_nil])
  rw [hread] at hread'
  exact (Prod.mk.inj (Except.ok.inj hread')).1

end Json.Grammar

/-- What a list of members says about a name does not depend on the members of other names. -/
theorem Json.lastMember?_filter (name : String) (members : List (String × Json)) :
    lastMember? name (members.filter (·.1 = name)) = lastMember? name members := by
  induction members with
  | nil => rfl
  | cons member members ih =>
    by_cases hname : member.1 = name
    · rw [List.filter_cons_of_pos (by simpa using hname), lastMember?_cons, lastMember?_cons, ih]
    · rw [List.filter_cons_of_neg (by simpa using hname), ih, lastMember?_cons, if_neg hname,
        Option.or_none]

namespace GenerateCall

open Json Json.Grammar

/-! ## Changes -/

/-- Whether a value is not a string. -/
def IsNoString (value : Json) : Prop := ∀ text, value ≠ .str text

/-- The names that matter. -/
def Matters (name : String) : Prop := name = "model" ∨ name = "prompt"

/-- The edits of the members of an object that have no effect. -/
inductive Edit : List (String × Json) → List (String × Json) → Prop
  /-- A member of another name is added. -/
  | add {before after : List (String × Json)} {name : String} (value : Json) : ¬ Matters name →
      Edit (before ++ after) (before ++ (name, value) :: after)
  /-- A member of another name is removed. -/
  | remove {before after : List (String × Json)} {name : String} {value : Json} :
      ¬ Matters name → Edit (before ++ (name, value) :: after) (before ++ after)
  /-- A member of another name is replaced by one of another name. -/
  | replace {before after : List (String × Json)} {name name' : String} {value : Json}
      (value' : Json) : ¬ Matters name → ¬ Matters name' →
      Edit (before ++ (name, value) :: after) (before ++ (name', value') :: after)
  /-- A member is removed that a later one of its name hides. -/
  | removeHidden {before after : List (String × Json)} {name : String} {value : Json} :
      (∃ later ∈ after, later.1 = name) →
      Edit (before ++ (name, value) :: after) (before ++ after)
  /-- In the last member of a name one value that is no string is replaced by another. -/
  | replaceNoString {before after : List (String × Json)} {name : String} {value value' : Json} :
      (∀ later ∈ after, later.1 ≠ name) → IsNoString value → IsNoString value' →
      Edit (before ++ (name, value) :: after) (before ++ (name, value') :: after)
  /-- The only member of a name is removed, if its value is no string. -/
  | removeNoString {before after : List (String × Json)} {name : String} {value : Json} :
      (∀ other ∈ before ++ after, other.1 ≠ name) → IsNoString value →
      Edit (before ++ (name, value) :: after) (before ++ after)
  /-- The members are put in another order, but those of one name stay in theirs. -/
  | reorder {members reordered : List (String × Json)} : members.Perm reordered →
      (∀ name, members.filter (·.1 = name) = reordered.filter (·.1 = name)) →
      Edit members reordered

/-- Whether a text is that of an object with some members, however deep its values are nested. -/
def IsObject (text : List Char) (members : List (String × Json)) : Prop :=
  ∃ depth, Derives depth text (.element (.obj members))

/-- The changes of the text of an object that have no effect: the tokens stay and only blanks between
    them and the spelling of strings change, or the members are edited. -/
inductive Change : List Char → List Char → Prop
  | respell {text other : List Char} {tokens : List Token} : Tokens text tokens →
      Tokens other tokens → Change text other
  | edit {text other : List Char} {members edited : List (String × Json)} :
      IsObject text members → IsObject other edited → Edit members edited → Change text other

/-! ## What they keep -/

/-- The text that members give to a name. -/
def said (name : String) (members : List (String × Json)) : Option String :=
  (lastMember? name members).bind text?

variable {name : String} {members edited before after : List (String × Json)}

theorem text?_eq_none {value : Json} (h : IsNoString value) : value.text? = none := by
  cases value with
  | str text => exact absurd rfl (h text)
  | null | bool _ | num _ | arr _ | obj _ => rfl

/-- A member of another name says nothing. -/
theorem said_of_ne {member : String × Json} (h : member.1 ≠ name) :
    said name (before ++ member :: after) = said name (before ++ after) := by
  rw [said, said, lastMember?_append, lastMember?_append, lastMember?_cons, if_neg h,
    Option.or_none]

/-- A member with a later one of its name says nothing. -/
theorem said_of_hidden {member : String × Json} (h : ∃ later ∈ after, later.1 = name) :
    said name (before ++ member :: after) = said name (before ++ after) := by
  have hsome : lastMember? name after ≠ none := by
    rw [Ne, lastMember?_eq_none_iff]
    intro hnone
    obtain ⟨later, hlater, hname⟩ := h
    exact hnone later hlater hname
  obtain ⟨value, hvalue⟩ := Option.ne_none_iff_exists'.1 hsome
  simp only [said, lastMember?_append, lastMember?_cons, hvalue, Option.some_or]

/-- A name says nothing if its last value is no string. -/
theorem said_of_isNoString {value : Json} (hlast : ∀ later ∈ after, later.1 ≠ name)
    (h : IsNoString value) : said name (before ++ (name, value) :: after) = none := by
  rw [said, lastMember?_append_cons value hlast]
  exact text?_eq_none h

/-- An edit keeps what is said about the names that matter. -/
theorem said_eq_of_edit (h : Edit members edited) (hname : Matters name) :
    said name edited = said name members := by
  have hne : ∀ {other : String}, ¬ Matters other → other ≠ name := by
    rintro other hother rfl
    exact hother hname
  cases h with
  | add value hother => exact said_of_ne (hne hother)
  | remove hother => exact (said_of_ne (hne hother)).symm
  | replace value hother hother' => rw [said_of_ne (hne hother'), said_of_ne (hne hother)]
  | @removeHidden _ _ hidden _ hlater =>
    by_cases heq : hidden = name
    · subst heq
      exact (said_of_hidden hlater).symm
    · exact (said_of_ne heq).symm
  | @replaceNoString _ _ last _ _ hlast hvalue hvalue' =>
    by_cases heq : last = name
    · subst heq
      rw [said_of_isNoString hlast hvalue, said_of_isNoString hlast hvalue']
    · rw [said_of_ne heq, said_of_ne heq]
  | @removeNoString before after only _ honly hvalue =>
    by_cases heq : only = name
    · subst heq
      have hafter : ∀ later ∈ after, later.1 ≠ only :=
        fun later hlater => honly later (List.mem_append_right before hlater)
      rw [said_of_isNoString hafter hvalue, said, lastMember?_eq_none_iff.2 honly]
      rfl
    · exact (said_of_ne heq).symm
  | reorder _ hsame =>
    rw [said, said, ← lastMember?_filter name members, hsame, lastMember?_filter]

/-- An edit of the members keeps what they say. -/
theorem ofMembers_eq_of_edit (h : Edit members edited) : ofMembers edited = ofMembers members := by
  show (⟨said "model" edited, (said "prompt" edited).getD ""⟩ : GenerateCall) =
    ⟨said "model" members, (said "prompt" members).getD ""⟩
  rw [said_eq_of_edit h (.inl rfl), said_eq_of_edit h (.inr rfl)]

/-- A change of a text keeps it a text of an object and keeps what its members say. -/
theorem exists_isObject_of_change {text other : List Char} (h : Change text other)
    (htext : IsObject text members) :
    ∃ changed, IsObject other changed ∧ ofMembers changed = ofMembers members := by
  obtain ⟨depth, hderives⟩ := htext
  cases h with
  | respell htokens hother =>
    exact ⟨members, ⟨depth, derives_of_tokens hderives htokens hother⟩, rfl⟩
  | edit hobject hother hedit =>
    obtain ⟨_, hobject⟩ := hobject
    obtain rfl := Json.obj.inj (derives_unique hderives hobject)
    exact ⟨_, hother, ofMembers_eq_of_edit hedit⟩

/-- So does any number of changes. -/
theorem exists_isObject_of_changes {text other : List Char}
    (h : Relation.ReflTransGen Change text other) (htext : IsObject text members) :
    ∃ changed, IsObject other changed ∧ ofMembers changed = ofMembers members := by
  induction h with
  | refl => exact ⟨members, htext, rfl⟩
  | tail _ hchange ih =>
    obtain ⟨between, hbetween, heq⟩ := ih
    obtain ⟨changed, hchanged, heq'⟩ := exists_isObject_of_change hchange hbetween
    exact ⟨changed, hchanged, heq'.trans heq⟩

/-- Bodies that arise from each other by changes are read alike. -/
theorem ofBody_eq_of_changes {text other : String}
    (h : Relation.ReflTransGen Change text.toList other.toList)
    (htext : IsText text.toList (.obj members)) (hother : IsText other.toList (.obj edited)) :
    ofBody text.toUTF8 = (ofMembers members, none) ∧
      ofBody other.toUTF8 = (ofMembers members, none) := by
  obtain ⟨changed, ⟨_, hchanged⟩, heq⟩ := exists_isObject_of_changes h ⟨127, htext⟩
  obtain rfl := Json.obj.inj (derives_unique hother hchanged)
  refine ⟨ofBody_of_isEncoding_obj ⟨text, rfl, htext⟩, ?_⟩
  rw [← heq]
  exact ofBody_of_isEncoding_obj ⟨other, rfl, hother⟩

end GenerateCall

namespace Service

/-! ## Answers -/

/-- Calls for one path that say the same are answered the same, whatever else they bring, but for the
    id on the response. -/
theorem reply_eq_of_ofBody_eq {request twin : Request} (hrequest : IsAnswered request)
    (htwin : IsAnswered twin) (hpath : request.uri.path = twin.uri.path)
    (hbody : GenerateCall.ofBody request.body = GenerateCall.ofBody twin.body)
    (fresh fresh' : Uuid) (recorder : Recorder) :
    let reply := (exchange fresh recorder request).reply
    let reply' := (exchange fresh' recorder twin).reply
    reply.response.status = reply'.response.status ∧ reply.response.body = reply'.response.body ∧
      reply.events = reply'.events ∧ reply.counted = reply'.counted ∧
      reply.folds = reply'.folds := by
  have hdispatch : dispatch recorder request = dispatch recorder twin := by
    rw [dispatch_of_isGenerate hrequest.1, dispatch_of_isGenerate htwin.1,
      generate_of_le hrequest.2, generate_of_le htwin.2, hbody]
  have hmethod : request.method = twin.method := hrequest.1.1.trans htwin.1.1.symm
  simp only [reply_exchange, hdispatch, counted, labels, hmethod, hpath, RequestId.status_stamp,
    RequestId.body_stamp, and_self]

/-- Of the body of a generate call only the last `model` and the last `prompt` matter.  Two bodies of
    which one arises from the other by changes of blanks, of spelling and of members that do not
    matter are read as the same call with nothing to note, and posted to one path they bring the same
    response, log the same events and leave the same counters, whatever else the requests bring. -/
theorem only_model_and_prompt_matter {text other : String}
    {members otherMembers : List (String × Json)}
    (hchanges : Relation.ReflTransGen GenerateCall.Change text.toList other.toList)
    (htext : Json.Grammar.IsText text.toList (.obj members))
    (hother : Json.Grammar.IsText other.toList (.obj otherMembers))
    (hsize : text.toUTF8.size ≤ 2097152) (hsize' : other.toUTF8.size ≤ 2097152) :
    (GenerateCall.ofBody text.toUTF8).1 = (GenerateCall.ofBody other.toUTF8).1 ∧
      GenerateCall.noted text.toUTF8 = [] ∧ GenerateCall.noted other.toUTF8 = [] ∧
      ∀ (request twin : Request) (fresh fresh' : Uuid) (recorder : Recorder),
        request.method = .post → twin.method = .post →
        request.uri.path = "/v1/generate" ∨ request.uri.path = "/api/generate" →
        request.uri.path = twin.uri.path →
        request.body = text.toUTF8 → twin.body = other.toUTF8 →
        let result := exchange fresh recorder request
        let result' := exchange fresh' recorder twin
        result.reply.response.status = result'.reply.response.status ∧
          result.reply.response.body = result'.reply.response.body ∧
          result.reply.events = result'.reply.events ∧
          result.recorder recorder = result'.recorder recorder := by
  obtain ⟨hread, hread'⟩ := GenerateCall.ofBody_eq_of_changes hchanges htext hother
  refine ⟨by rw [hread, hread'], by rw [GenerateCall.noted, hread]; rfl,
    by rw [GenerateCall.noted, hread']; rfl, ?_⟩
  intro request twin fresh fresh' recorder hmethod hmethod' hcall hpath hbody hbody' result result'
  have hrequest : IsAnswered request := ⟨⟨hmethod, hcall⟩, hbody ▸ hsize⟩
  have htwin : IsAnswered twin := ⟨⟨hmethod', hpath ▸ hcall⟩, hbody' ▸ hsize'⟩
  have hsame : GenerateCall.ofBody request.body = GenerateCall.ofBody twin.body := by
    rw [hbody, hbody', hread, hread']
  obtain ⟨hstatus, hcontent, hevents, hcounted, hfolds⟩ :=
    reply_eq_of_ofBody_eq hrequest htwin hpath hsame fresh fresh' recorder
  have hrecorder : Exchange.recorder (exchange fresh recorder request) recorder =
      Exchange.recorder (exchange fresh' recorder twin) recorder := by
    simp only [Exchange.recorder, hcounted, hfolds]
  exact ⟨hstatus, hcontent, hevents, hrecorder⟩

open Json Json.Grammar in
/-- A member of another name is taken away; then the name of the one that is left is spelled with an
    escape, and a blank is put in front. -/
theorem call_with_member_removed_and_name_escaped :
    let text := "\x7b\"n\":null,\"prompt\":\"A\"\x7d"
    let other := " \x7b\"\\u0070rompt\":\"A\"\x7d"
    let uri : Http.Uri := ⟨none, none, "/v1/generate", none⟩
    let result := exchange (.ofRandom 0) .absent ⟨.post, uri, .http11, [], text.toUTF8⟩
    let result' := exchange (.ofRandom 1) .absent ⟨.post, uri, .http11, [], other.toUTF8⟩
    (GenerateCall.ofBody text.toUTF8).1 = (GenerateCall.ofBody other.toUTF8).1 ∧
      GenerateCall.noted text.toUTF8 = [] ∧ GenerateCall.noted other.toUTF8 = [] ∧
      result.reply.response.status = result'.reply.response.status ∧
      result.reply.response.body = result'.reply.response.body ∧
      result.reply.events = result'.reply.events ∧
      result.recorder .absent = result'.recorder .absent := by
  intro text other uri result result'
  let shorter : List Char := '{' :: (writeString "prompt" ++ ':' :: writeString "A" ++ ['}'])
  let spelled : List Char :=
    '"' :: ((['\\', 'u', '0', '0', '7', '0'] ++ ['r', 'o', 'm', 'p', 't']) ++ ['"'])
  let tokens : List Token :=
    [.sign '{', .string "prompt", .sign ':', .string "A", .sign '}']
  have hletter : StringText (writeString "A") "A" := stringText_writeString "A"
  have hplain : StringText (writeString "prompt") "prompt" := stringText_writeString "prompt"
  have hescaped : StringText spelled "prompt" := by
    have hunit : UnitEscape ['\\', 'u', '0', '0', '7', '0'] 'p'.toNat :=
      .mk (i := 0) (j := 0) (k := 7) (l := 0) (.inl rfl) (.inl rfl) (.inl rfl) (.inl rfl)
    have hchars : "prompt".toList = ['p', 'r', 'o', 'm', 'p', 't'] := String.toList_ofList
    refine .mk ?_
    rw [hchars]
    exact .cons (.unit hunit) (spellings_flatMap_escapeChar ['r', 'o', 'm', 'p', 't'])
  -- The three texts have the members that they seem to have.
  have hmember : Derives 126 (writeString "prompt" ++ ':' :: writeString "A")
      (.member "prompt" (.str "A")) := derives_write_member "prompt" (.string hletter)
  have hextra : Derives 126 (writeString "n" ++ ':' :: write .null) (.member "n" .null) :=
    derives_write_member "n" .nullLiteral
  have hshorter : IsText shorter (.obj [("prompt", .str "A")]) :=
    derives_element (.object (.lastMember hmember))
  have hparts : text.toList = '{' :: (((writeString "n" ++ ':' :: write .null) ++
      ',' :: (writeString "prompt" ++ ':' :: writeString "A")) ++ ['}']) := by decide +kernel
  have htext : IsText text.toList (.obj [("n", .null), ("prompt", .str "A")]) := by
    rw [hparts]
    exact derives_element (.object (.nextMember hextra (.lastMember hmember)))
  -- The last two have the same tokens.
  have htokens : ∀ {quoted : List Char}, StringText quoted "prompt" →
      Tokens ('{' :: (quoted ++ ':' :: (writeString "A" ++ ['}']))) tokens := by
    intro quoted hquoted
    have hclosing : Tokens ['}'] [.sign '}'] := .token (.sign (by decide)) trivial .nil
    have hvalue : Tokens (':' :: (writeString "A" ++ ['}'])) [.sign ':', .string "A", .sign '}'] :=
      .token (.sign (by decide)) trivial (.token (.string hletter) trivial hclosing)
    exact .token (.sign (by decide)) trivial (.token (.string hquoted) trivial hvalue)
  have hother' : Tokens other.toList tokens := by
    have hcut : other.toList = ' ' :: '{' :: (spelled ++ ':' :: (writeString "A" ++ ['}'])) := by
      decide +kernel
    rw [hcut]
    exact .blank (by decide) (htokens hescaped)
  have hshorter' : Tokens shorter tokens := by
    have hcut : shorter = '{' :: (writeString "prompt" ++ ':' :: (writeString "A" ++ ['}'])) := by
      decide +kernel
    rw [hcut]
    exact htokens hplain
  have hother : IsText other.toList (.obj [("prompt", .str "A")]) :=
    derives_of_tokens hshorter hshorter' hother'
  have hn : ¬ GenerateCall.Matters "n" := by simp [GenerateCall.Matters]
  have hedit : GenerateCall.Edit ([] ++ ("n", .null) :: [("prompt", .str "A")])
      ([] ++ [("prompt", .str "A")]) := .remove hn
  have hchanges : Relation.ReflTransGen GenerateCall.Change text.toList other.toList :=
    .tail (.single (.edit ⟨127, htext⟩ ⟨127, hshorter⟩ hedit)) (.respell hshorter' hother')
  obtain ⟨hread, hquiet, hquiet', hanswer⟩ := only_model_and_prompt_matter hchanges htext hother
    (by decide +kernel) (by decide +kernel)
  exact ⟨hread, hquiet, hquiet', hanswer _ _ (.ofRandom 0) (.ofRandom 1) .absent rfl rfl (.inl rfl)
    rfl rfl rfl⟩

end Service

end CardServer
