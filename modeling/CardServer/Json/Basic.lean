import CardServer.Number.Binary64

/-! # Json values

A value as it was written: the members of an object stand in the order of the text, and a name that
occurs twice stands there twice.  What an object says about a name is its *last* member of that name.

* `lastMember?_append_cons`   a member with no later one of its name decides that name
* `lastMember?_eq_some_iff`   and no other member does
-/

namespace CardServer

/-- A number as read: an integer between `-2 ^ 63` and `2 ^ 64 - 1` is kept exactly, any other number
    is rounded. -/
inductive Json.Number where
  | int (value : Int)
  | real (value : Binary64)
  deriving DecidableEq, Repr

/-- A Json value. -/
inductive Json where
  | null
  | bool (value : Bool)
  | num (value : Json.Number)
  | str (value : String)
  | arr (items : List Json)
  | obj (members : List (String × Json))
  deriving Inhabited, Repr

namespace Json

/-- What a list of members says about a name: the value of the last one with that name. -/
def lastMember? (name : String) (members : List (String × Json)) : Option Json :=
  members.foldl (fun found member => if member.1 = name then some member.2 else found) none

@[simp] theorem lastMember?_nil (name : String) : lastMember? name [] = none := rfl

/-- What was found before counts only if nothing is found later. -/
private theorem foldl_eq_or {name : String} (members : List (String × Json))
    (found : Option Json) :
    members.foldl (fun found member => if member.1 = name then some member.2 else found) found =
      (lastMember? name members).or found := by
  induction members generalizing found with
  | nil => rfl
  | cons member members ih =>
    have hfirst := ih (if member.1 = name then some member.2 else none)
    rw [lastMember?, List.foldl_cons, List.foldl_cons, ih, hfirst]
    by_cases h : member.1 = name <;> simp [h]

theorem lastMember?_append (name : String) (before after : List (String × Json)) :
    lastMember? name (before ++ after) = (lastMember? name after).or (lastMember? name before) := by
  rw [← foldl_eq_or, lastMember?, List.foldl_append]
  rfl

theorem lastMember?_cons (name : String) (member : String × Json)
    (members : List (String × Json)) :
    lastMember? name (member :: members) =
      (lastMember? name members).or (if member.1 = name then some member.2 else none) :=
  lastMember?_append name [member] members

theorem lastMember?_eq_none_iff {name : String} {members : List (String × Json)} :
    lastMember? name members = none ↔ ∀ member ∈ members, member.1 ≠ name := by
  induction members with
  | nil => simp
  | cons member members ih =>
    rw [lastMember?_cons, Option.or_eq_none_iff, ih]
    by_cases h : member.1 = name <;> simp [h]

/-- A member with no later one of its name decides that name. -/
theorem lastMember?_append_cons {name : String} {before after : List (String × Json)}
    (value : Json) (h : ∀ member ∈ after, member.1 ≠ name) :
    lastMember? name (before ++ (name, value) :: after) = some value := by
  rw [lastMember?_append, lastMember?_cons, lastMember?_eq_none_iff.2 h]
  simp

/-- Whether a value is that of the last member of a name. -/
def IsLast (name : String) (value : Json) (members : List (String × Json)) : Prop :=
  ∃ before after, members = before ++ (name, value) :: after ∧
    ∀ member ∈ after, member.1 ≠ name

/-- A name is decided by its last member and by no other. -/
theorem lastMember?_eq_some_iff {name : String} {value : Json} {members : List (String × Json)} :
    lastMember? name members = some value ↔ IsLast name value members := by
  constructor
  · intro h
    induction members with
    | nil => nomatch h
    | cons member members ih =>
      rw [lastMember?_cons] at h
      cases hlater : lastMember? name members with
      | some later =>
        rw [hlater, Option.some_or] at h
        obtain ⟨before, after, rfl, hafter⟩ := ih (hlater.trans h)
        exact ⟨member :: before, after, rfl, hafter⟩
      | none =>
        -- Nothing is found later, so the first member is the one that was found.
        rw [hlater, Option.none_or] at h
        split at h
        · next hname =>
          refine ⟨[], members, ?_, lastMember?_eq_none_iff.1 hlater⟩
          rw [← Option.some.inj h, ← hname]
          rfl
        · nomatch h
  · rintro ⟨before, after, rfl, h⟩
    exact lastMember?_append_cons value h

/-- The text of a string value. -/
def text? : Json → Option String
  | .str value => some value
  | _ => none

end Json

end CardServer
