import CardServer.RequestId

/-! # The choice of a request id

The first value that the client supplies decides.  It is the id if it can be used, and otherwise the id
is a fresh identifier; either way the id is printable ASCII, so that it always makes a header value
and can always be read back from one.

* `isVersion4_text_ofRandom`   a fresh identifier is a UUID of version 4
* `choose_cases`               where the id of a request comes from
* `value?_choose`              the id of a request makes a header value
* `text?_bytesOf_choose`       the id of a request is read back from its bytes
-/

namespace CardServer

open Http (Request Header isTextByte isValueByte_of_isTextByte)

/-! ## Random identifiers -/

namespace Uuid

/-- A group of lower-case hexadecimal digits. -/
def IsGroup (length : Nat) (text : List Char) : Prop :=
  text.length = length ∧ ∀ c ∈ text, c ∈ "0123456789abcdef".toList

/-- The written form of a UUID of version 4: the version leads the third group, and the first digit of
    the fourth group says the variant. -/
inductive IsVersion4 : List Char → Prop
  | mk {low mid high sequence node : List Char} {variant : Char} : IsGroup 8 low → IsGroup 4 mid →
      IsGroup 3 high → variant ∈ ['8', '9', 'a', 'b'] → IsGroup 3 sequence → IsGroup 12 node →
      IsVersion4 (low ++ '-' :: (mid ++ '-' :: ('4' :: high ++ '-' ::
        (variant :: sequence ++ '-' :: node))))

theorem digitChar_mem (digit : Fin 16) : digitChar digit ∈ "0123456789abcdef".toList := by
  have hall : ∀ digit : Fin 16, digitChar digit ∈ "0123456789abcdef".toList := by decide +kernel
  exact hall digit

theorem mem_group {id : Uuid} {first count : Nat} {c : Char} (h : c ∈ id.group first count) :
    ∃ digit, c = digitChar digit := by
  obtain ⟨i, -, rfl⟩ := List.mem_map.1 h
  exact ⟨id.digit i, rfl⟩

theorem isGroup_group (id : Uuid) {first count : Nat}
    (h : (id.group first count).length = count) : IsGroup count (id.group first count) := by
  refine ⟨h, fun c hc => ?_⟩
  obtain ⟨digit, rfl⟩ := mem_group hc
  exact digitChar_mem digit

/-- A fresh identifier is a UUID of version 4. -/
theorem isVersion4_text_ofRandom (bits : BitVec 128) :
    IsVersion4 (ofRandom bits).text.toList := by
  let id := ofRandom bits
  -- Two digits are fixed, at least in part: the version and the variant.
  have hversion : id.group 12 4 = '4' :: id.group 13 3 := rfl
  have hvariant : id.group 16 4 = digitChar (id.digit 16) :: id.group 17 3 := rfl
  have hmem : digitChar (id.digit 16) ∈ ['8', '9', 'a', 'b'] := by
    have hall : ∀ chance < 4, digitChar (Fin.ofNat 16 (8 + chance)) ∈ ['8', '9', 'a', 'b'] := by
      decide +kernel
    exact hall _ (Nat.mod_lt _ (by decide))
  have htext : id.text.toList = id.chars := String.toList_ofList
  show IsVersion4 id.text.toList
  rw [htext, chars, hversion, hvariant]
  exact .mk (isGroup_group id rfl) (isGroup_group id rfl) (isGroup_group id rfl) hmem
    (isGroup_group id rfl) (isGroup_group id rfl)

/-- The written form of an identifier is printable ASCII. -/
theorem all_isTextByte_text (id : Uuid) : (Header.bytesOf id.text).all isTextByte = true := by
  have hdigit : ∀ digit : Fin 16, (String.utf8EncodeChar (digitChar digit)).all isTextByte = true := by
    decide +kernel
  have hgroup : ∀ first count,
      ((id.group first count).flatMap String.utf8EncodeChar).all isTextByte = true := by
    intro first count
    rw [List.all_flatMap, List.all_eq_true]
    intro c hc
    obtain ⟨digit, rfl⟩ := mem_group hc
    exact hdigit digit
  have hhyphen : (String.utf8EncodeChar '-').all isTextByte = true := by decide +kernel
  rw [text, Header.bytesOf_ofList]
  simp only [chars, List.flatMap_append, List.flatMap_cons, List.all_append, hgroup, hhyphen,
    Bool.and_self]

end Uuid

/-! ## The id of a request -/

namespace RequestId

/-- A value that can be used as an id: not empty, and only printable ASCII characters and tabs. -/
def IsUsable (value : List UInt8) : Prop :=
  value ≠ [] ∧ ∀ b ∈ value, 0x20 ≤ b ∧ b ≤ 0x7e ∨ b = 0x09

theorem isUsable_iff {value : List UInt8} :
    IsUsable value ↔ value ≠ [] ∧ value.all isTextByte = true := by
  have hbelow : ∀ b : UInt8, b < 0x7F ↔ b ≤ 0x7e := by
    intro b
    rw [UInt8.lt_iff_toNat_lt, UInt8.le_iff_toNat_le]
    exact Nat.lt_succ_iff
  have hbyte : ∀ b : UInt8, isTextByte b = true ↔ (0x20 ≤ b ∧ b ≤ 0x7e ∨ b = 0x09) := by
    intro b
    simp only [isTextByte, Bool.or_eq_true, Bool.and_eq_true, decide_eq_true_eq, beq_iff_eq, hbelow]
  simp only [IsUsable, List.all_eq_true, hbyte]

theorem choose_of_head? {request : Request} {value : List UInt8}
    (h : (request.valuesOf headerName).head? = some value) (fresh : Uuid) :
    choose fresh request =
      ((Header.text? value).bind fun text => if text.isEmpty then none else some text).getD
        fresh.text := by
  simp only [choose, supplied?, h]
  rfl

/-- The id of a request is the first value supplied if that can be used, whatever values follow, and
    otherwise the fresh identifier. -/
theorem choose_cases (fresh : Uuid) (request : Request) :
    (∃ value, (request.valuesOf headerName).head? = some value ∧ IsUsable value ∧
        Header.bytesOf (choose fresh request) = value) ∨
      (∀ value, (request.valuesOf headerName).head? = some value → ¬ IsUsable value) ∧
        choose fresh request = fresh.text := by
  cases hfirst : (request.valuesOf headerName).head? with
  | none =>
    have hchoose : choose fresh request = fresh.text := by
      simp only [choose, supplied?, hfirst]
      rfl
    refine .inr ⟨?_, hchoose⟩
    intro value hvalue
    cases hvalue
  | some value =>
    -- The later values are never looked at.
    rw [choose_of_head? hfirst]
    cases htext : Header.text? value with
    | none =>
      refine .inr ⟨?_, rfl⟩
      rintro _ ⟨⟩ husable
      rw [Header.text?, if_pos (isUsable_iff.1 husable).2] at htext
      cases htext
    | some text =>
      obtain ⟨hall, hbytes⟩ := Header.text?_eq_some_iff.1 htext
      rw [Option.bind_some]
      by_cases hempty : text.isEmpty
      · rw [if_pos hempty]
        refine .inr ⟨?_, rfl⟩
        rintro _ ⟨⟩ husable
        obtain rfl := String.isEmpty_iff.1 hempty
        exact husable.1 hbytes.symm
      · rw [if_neg hempty]
        refine .inl ⟨value, rfl, isUsable_iff.2 ⟨?_, hall⟩, hbytes⟩
        rintro rfl
        exact hempty (String.isEmpty_iff.2 (Header.bytesOf_injective hbytes))

/-- The id of a request is printable ASCII. -/
theorem all_isTextByte_choose (fresh : Uuid) (request : Request) :
    (Header.bytesOf (choose fresh request)).all isTextByte = true := by
  rcases choose_cases fresh request with ⟨value, -, husable, hbytes⟩ | ⟨-, hfresh⟩
  · rw [hbytes]
    exact (isUsable_iff.1 husable).2
  · rw [hfresh]
    exact fresh.all_isTextByte_text

/-- The id of a request makes a header value. -/
theorem value?_choose (fresh : Uuid) (request : Request) :
    value? (choose fresh request) = some (Header.bytesOf (choose fresh request)) := by
  have htext := List.all_eq_true.1 (all_isTextByte_choose fresh request)
  have hvalue : (Header.bytesOf (choose fresh request)).all Http.isValueByte = true :=
    List.all_eq_true.2 fun b hb => isValueByte_of_isTextByte (htext b hb)
  rw [value?, if_pos hvalue]

/-- The id of a request is read back from its bytes. -/
theorem text?_bytesOf_choose (fresh : Uuid) (request : Request) :
    Header.text? (Header.bytesOf (choose fresh request)) = some (choose fresh request) :=
  Header.text?_eq_some_iff.2 ⟨all_isTextByte_choose fresh request, rfl⟩

end RequestId

end CardServer
