import CardServer.GenerateCall
import CardServer.Proofs.Json.Soundness

/-! # What is read from the body of a generate call

Any bytes may come as the body of a generate call, and each sequence of bytes is of one of three
kinds: it encodes an object, or another value, or no value at all.  The kind decides what is read from
the body and what is noted about it in the log.

* `ofBody_of_isEncoding_obj`   the members of an object are found, and nothing is noted
* `ofBody_of_isEncoding`       of another value nothing is read, and that is noted
* `ofBody_of_forall_not`       so it is with bytes that encode no value
* `bind_text?_eq_some_iff`     a name has the text of its last member
* `ofBody_eq_reading`          the three kinds together
-/

namespace CardServer.GenerateCall

open Json.Grammar

/-- The events that are logged while a body is read. -/
def noted (body : ByteArray) : List Log.Event := ((ofBody body).2.map (·.event)).toList

variable {body : ByteArray}

/-- The members of an object are found in each of its encodings. -/
theorem ofBody_of_isEncoding_obj {members : List (String × Json)}
    (h : IsEncoding body (.obj members)) : ofBody body = (ofMembers members, none) := by
  simp only [ofBody, Json.ofBytes_eq_ok_iff.2 h]

/-- A value that is no object counts as an empty one. -/
theorem ofBody_of_isEncoding {value : Json} (h : IsEncoding body value)
    (hvalue : ∀ members, value ≠ .obj members) : ofBody body = (default, some .notObject) := by
  unfold ofBody
  rw [Json.ofBytes_eq_ok_iff.2 h]
  cases value with
  | obj members => exact absurd rfl (hvalue members)
  | null | bool _ | num _ | str _ | arr _ => rfl

/-- Bytes that encode no value count as an empty object, and an empty body passes in silence. -/
theorem ofBody_of_forall_not (h : ∀ value, ¬ IsEncoding body value) :
    ∃ report, Json.ofBytes body = .error report ∧
      ofBody body = (default, if body.isEmpty then none else some (.notJson report)) := by
  cases hread : Json.ofBytes body with
  | error report => exact ⟨report, rfl, by simp only [ofBody, hread]⟩
  | ok value => exact absurd (Json.ofBytes_eq_ok_iff.1 hread) (h value)

/-- The empty body encodes no value. -/
theorem not_isEncoding_empty (value : Json) : ¬ IsEncoding .empty value := by
  intro h
  have hnone : Json.ofBytes? .empty = none := by decide +kernel
  rw [Json.ofBytes?_eq_some_iff.2 h] at hnone
  nomatch hnone

/-- The text of a name is that of its last member, if that is a string. -/
theorem bind_text?_eq_some_iff {name text : String} {members : List (String × Json)} :
    (Json.lastMember? name members).bind Json.text? = some text ↔
      Json.IsLast name (.str text) members := by
  rw [← Json.lastMember?_eq_some_iff, Option.bind_eq_some_iff]
  constructor
  · rintro ⟨value, hvalue, htext⟩
    cases value with
    | str text' => rw [hvalue, ← Option.some.inj htext]
    | null | bool _ | num _ | arr _ | obj _ => nomatch htext
  · intro h
    exact ⟨_, h, rfl⟩

/-- What is read from a body, and what is noted about it.  In an object the last member of a name
    decides: it is the text if it is a string, and hides every earlier one if it is not.  Anything else
    is read as an empty object, with one event that says so unless there is nothing to read; about
    bytes that are no Json the event says why they are none. -/
theorem ofBody_eq_reading (body : ByteArray) :
    (∀ members, IsEncoding body (.obj members) →
      (∀ model, (ofBody body).1.model = some model ↔ Json.IsLast "model" (.str model) members) ∧
      (∀ prompt, Json.IsLast "prompt" (.str prompt) members → (ofBody body).1.prompt = prompt) ∧
      ((¬ ∃ prompt, Json.IsLast "prompt" (.str prompt) members) → (ofBody body).1.prompt = "") ∧
      noted body = []) ∧
    (∀ value, IsEncoding body value → (∀ members, value ≠ .obj members) →
      (ofBody body).1 = ⟨none, ""⟩ ∧
      noted body = [⟨.debug, "ollama_mock::models::generation",
        "Generate body is not a JSON object, treating as empty", none, []⟩]) ∧
    ((∀ value, ¬ IsEncoding body value) → body ≠ .empty →
      (ofBody body).1 = ⟨none, ""⟩ ∧
      ∃ report, Json.ofBytes body = .error report ∧
        noted body = [⟨.debug, "ollama_mock::models::generation",
          "Generate body is not JSON, treating as empty", some report, []⟩]) ∧
    (body = .empty →
      (∀ value, ¬ IsEncoding body value) ∧ (ofBody body).1 = ⟨none, ""⟩ ∧ noted body = []) := by
  refine ⟨fun members h => ?_, fun value h hvalue => ?_, fun h hne => ?_, ?_⟩
  · have hbody := ofBody_of_isEncoding_obj h
    have hmodel : (ofBody body).1.model = (Json.lastMember? "model" members).bind Json.text? := by
      rw [hbody]
      rfl
    have hprompt : (ofBody body).1.prompt =
        ((Json.lastMember? "prompt" members).bind Json.text?).getD "" := by
      rw [hbody]
      rfl
    refine ⟨fun model => ?_, fun prompt hlast => ?_, fun hnone => ?_, ?_⟩
    · rw [hmodel, bind_text?_eq_some_iff]
    · rw [hprompt, bind_text?_eq_some_iff.2 hlast, Option.getD_some]
    · cases htext : (Json.lastMember? "prompt" members).bind Json.text? with
      | none => rw [hprompt, htext, Option.getD_none]
      | some prompt => exact absurd ⟨prompt, bind_text?_eq_some_iff.1 htext⟩ hnone
    · rw [noted, hbody]
      rfl
  · have hbody := ofBody_of_isEncoding h hvalue
    rw [noted, hbody]
    exact ⟨rfl, rfl⟩
  · obtain ⟨report, hreport, hbody⟩ := ofBody_of_forall_not h
    have hsize : body.isEmpty = false := by
      cases hempty : body.isEmpty with
      | false => rfl
      | true => exact absurd (ByteArray.size_eq_zero_iff.1 (beq_iff_eq.1 hempty)) hne
    rw [hsize] at hbody
    rw [noted, hbody]
    exact ⟨rfl, report, hreport, rfl⟩
  · rintro rfl
    obtain ⟨report, -, hbody⟩ := ofBody_of_forall_not not_isEncoding_empty
    refine ⟨not_isEncoding_empty, ?_, ?_⟩
    · rw [hbody]
      rfl
    · rw [noted, hbody]
      rfl

end CardServer.GenerateCall
