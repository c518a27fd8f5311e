import CardServer.Settings.Loaded

/-! # What keys touch

A key changes the entry of a table that its first name says, in lower case, and leaves every other
entry as it is, however much else the key goes through.  The first name of a key that is read from a
text is what the text starts with, so a variable changes an entry only if its own name goes on with
the name of that entry.

* `Key.entry?_change_of_not_touches`, `Key.entry?_change_congr`   a key works on one entry
* `Key.root_ofText`   the first name of a key is what its text starts with
* `keyOfVariable?_of_lower`, `prefix_of_touches`   the variables that set an entry
-/

namespace CardServer.Settings

/-- A character either is its own lower case or is one of the 26 capital letters. -/
theorem toLower_cases (c : Char) :
    c.toLower = c ∨ (65 ≤ c.toNat ∧ c.toNat ≤ 90 ∧ c.toLower.toNat = c.toNat + 32) := by
  by_cases h : c.val ≥ 'A'.val ∧ c.val ≤ 'Z'.val
  · right
    have hdef : c.toLower = _ := dif_pos h
    have hlow : 65 ≤ c.toNat := UInt32.le_iff_toNat_le.1 h.1
    have hhigh : c.toNat ≤ 90 := UInt32.le_iff_toNat_le.1 h.2
    have hsum : (c.val + 32).toNat = (c.val.toNat + 32) % 2 ^ 32 := UInt32.toNat_add _ _
    have hnat : c.toLower.toNat = c.toNat + 32 := by
      have hsmall : c.val.toNat ≤ 90 := hhigh
      rw [hdef]
      show (c.val + 32).toNat = c.val.toNat + 32
      omega
    exact ⟨hlow, hhigh, hnat⟩
  · left
    exact dif_neg h

theorem toLower_toLower (c : Char) : c.toLower.toLower = c.toLower := by
  rcases toLower_cases c with h | ⟨hlow, -, h⟩
  · rw [h, h]
  · rcases toLower_cases c.toLower with h' | ⟨-, hhigh, -⟩
    · exact h'
    · omega

theorem toLower_eq_underscore_iff (c : Char) : c.toLower = '_' ↔ c = '_' := by
  have hcode : '_'.toNat = 95 := rfl
  constructor
  · intro h
    rcases toLower_cases c with h' | ⟨hlow, hhigh, h'⟩
    · rw [← h', h]
    · rw [h, hcode] at h'
      omega
  · intro h
    rw [h]
    rfl

theorem map_toLower_toLower (text : String) :
    (text.map Char.toLower).map Char.toLower = text.map Char.toLower := by
  apply String.toList_injective
  rw [String.toList_map, String.toList_map, List.map_map]
  exact List.map_congr_left fun c _ => toLower_toLower c

/-! ## The first name of a key -/

namespace Key

/-- The name that a key starts with. -/
def root : Key → String
  | .name entry => entry
  | .child parent _ => parent.root
  | .item parent _ => parent.root

/-- Whether a key goes through the entry of a name. -/
def touches (key : Key) (name : String) : Bool := key.root.map Char.toLower = name

/-- A change at a key of one name is a change of the entry of that name. -/
theorem entry?_change_name (first name : String) (f : Option Value → Value) (table : Value) :
    Value.entry? ((Key.name first).change f table) name =
      if first.map Char.toLower = name then some (f (table.entry? name)) else table.entry? name := by
  have h := Value.entryOf?_upsert (first.map Char.toLower) name f table.entries
  by_cases hfirst : first.map Char.toLower = name
  · rw [if_pos hfirst] at h ⊢
    rw [← hfirst] at h ⊢
    exact h
  · rw [if_neg hfirst] at h ⊢
    exact h

/-- A change at a key leaves alone all entries that the key does not go through. -/
theorem entry?_change_of_not_touches {key : Key} {name : String} {f : Option Value → Value}
    {table : Value} (h : key.touches name = false) :
    Value.entry? (key.change f table) name = table.entry? name := by
  -- changes further down happen inside of a change at the parent
  induction key generalizing f with
  | name first =>
    have hne : first.map Char.toLower ≠ name := of_decide_eq_false h
    rw [entry?_change_name, if_neg hne]
  | child parent _ ih => exact ih h
  | item parent _ ih => exact ih h

/-- What an entry becomes by a change at a key is a matter of that entry alone. -/
theorem entry?_change_congr {key : Key} {name : String} {f : Option Value → Value}
    {table other : Value} (h : table.entry? name = other.entry? name) :
    Value.entry? (key.change f table) name = Value.entry? (key.change f other) name := by
  induction key generalizing f with
  | name first => rw [entry?_change_name, entry?_change_name, h]
  | child parent _ ih => exact ih
  | item parent _ ih => exact ih

/-! ## Keys and their texts -/

theorem root_of_readRest {steps : Nat} {start key : Key} {text : List Char}
    (h : readRest steps start text = some key) : key.root = start.root := by
  -- every step of the reader wraps the key that it has so far
  fun_induction readRest steps start text with
  | case1 =>
    cases h
    rfl
  | case4 _ _ _ _ ih => exact (ih h).trans rfl
  | case5 _ _ _ _ _ _ _ ih => exact (ih h).trans rfl
  | case2 | case3 | case6 | case7 => contradiction

/-- The first name of a key is what its text starts with. -/
theorem root_ofText (text : String) : (ofText text).root.toList <+: text.toList := by
  have hname : (Key.name text).root.toList <+: text.toList := List.prefix_refl _
  simp only [ofText]
  split
  · exact hname
  · cases hkey : readRest text.toList.length
        (.name (String.ofList (text.toList.takeWhile isNameChar)))
        (text.toList.dropWhile isNameChar) with
    | none => exact hname
    | some key =>
      have hroot : key.root = String.ofList (text.toList.takeWhile isNameChar) :=
        root_of_readRest hkey
      rw [Option.getD_some, hroot, String.toList_ofList]
      exact List.takeWhile_prefix _

/-- A text that is the name of an entry as it stands: it holds no point and no bracket, and no
    capital letter. -/
def IsName (text : String) : Prop := ∀ c ∈ text.toList, c ≠ '.' ∧ c ≠ '[' ∧ c.toLower = c

instance (text : String) : Decidable (IsName text) :=
  decidable_of_iff (text.toList.all fun c => c != '.' && c != '[' && c.toLower == c)
    (by simp [IsName, and_assoc])

/-- An identifier in lower case is such a text. -/
theorem isName_of_identifier {text : String}
    (h : ∀ c ∈ text.toList, c.isLower ∨ c.isDigit ∨ c = '_') : IsName text := by
  have hcapital : ∀ n < 26, ¬ ((Char.ofNat (65 + n)).isLower ∨ (Char.ofNat (65 + n)).isDigit ∨
      Char.ofNat (65 + n) = '_') := by decide +kernel
  intro c hc
  have hclass := h c hc
  refine ⟨?_, ?_, ?_⟩
  · rintro rfl
    exact absurd hclass (by decide)
  · rintro rfl
    exact absurd hclass (by decide)
  · rcases toLower_cases c with hlower | ⟨hlow, hhigh, -⟩
    · exact hlower
    · have hcode : 65 + (c.toNat - 65) = c.toNat := by omega
      have hnot := hcapital (c.toNat - 65) (by omega)
      rw [hcode, Char.ofNat_toNat] at hnot
      exact absurd hclass hnot

theorem IsName.map_toLower {text : String} (h : IsName text) : text.map Char.toLower = text := by
  apply String.toList_injective
  rw [String.toList_map]
  exact (List.map_congr_left fun c hc => (h c hc).2.2).trans (List.map_id _)

/-- The key that such a text writes is the text. -/
theorem IsName.ofText {text : String} (h : IsName text) : Key.ofText text = .name text := by
  have hsplit : text.toList.takeWhile isNameChar ++ text.toList.dropWhile isNameChar =
      text.toList := List.takeWhile_append_dropWhile
  simp only [Key.ofText]
  split
  · rfl
  · cases hrest : text.toList.dropWhile isNameChar with
    | nil =>
      have hall : text.toList.takeWhile isNameChar = text.toList := by
        rw [← List.append_nil (text.toList.takeWhile isNameChar), ← hrest]
        exact hsplit
      rw [hall, String.ofList_toList]
      cases text.toList.length <;> rfl
    | cons c rest =>
      -- the character after the first name is neither of those that a key goes on with
      have hc : c ∈ text.toList := (List.dropWhile_suffix _).mem (hrest ▸ List.mem_cons_self ..)
      obtain ⟨hpoint, hbracket, -⟩ := h c hc
      have hnone : ∀ steps start, readRest steps start (c :: rest) = none := by
        intro steps start
        cases steps with
        | zero => rfl
        | succ steps =>
          unfold readRest
          split <;> simp_all
      rw [hnone]
      rfl

/-- Such a text goes through its own entry and no other. -/
theorem IsName.touches_ofText {text : String} (h : IsName text) (name : String) :
    (Key.ofText text).touches name = decide (text = name) := by
  rw [h.ofText, touches, root, h.map_toLower]

end Key

/-! ## Keys of variables -/

theorem map_toLower_pointed (text : List Char) :
    (pointed text).map Char.toLower = pointed (text.map Char.toLower) := by
  fun_induction pointed text with
  | case1 rest ih => simpa [pointed] using ih
  | case2 c rest hpair ih =>
    have hlower : ∀ rest', c.toLower = '_' → rest.map Char.toLower ≠ '_' :: rest' := by
      intro rest' hc hrest
      obtain ⟨d, rest'', rfl, hd, -⟩ := List.map_eq_cons_iff.1 hrest
      exact hpair rest'' ((toLower_eq_underscore_iff c).1 hc)
        (congrArg (· :: rest'') ((toLower_eq_underscore_iff d).1 hd))
    rw [List.map_cons, List.map_cons, ih, pointed]
    exact hlower
  | case3 => rfl

/-- Points only come in: what a name with points starts with up to the first of them, the name
    starts with already. -/
theorem prefix_of_prefix_pointed {front text : List Char} (hfront : '.' ∉ front)
    (h : front <+: pointed text) : front <+: text := by
  fun_induction pointed text generalizing front with
  | case1 rest ih =>
    cases front with
    | nil => exact List.nil_prefix
    | cons d front =>
      have hd : d = '.' := (List.cons_prefix_cons.1 h).1
      exact absurd (hd ▸ List.mem_cons_self ..) hfront
  | case2 c rest _ ih =>
    cases front with
    | nil => exact List.nil_prefix
    | cons d front =>
      obtain ⟨hd, h⟩ := List.cons_prefix_cons.1 h
      exact List.cons_prefix_cons.2 ⟨hd, ih (fun hf => hfront (List.mem_cons_of_mem _ hf)) h⟩
  | case3 => exact h

/-- The key of a variable is a matter of its name in lower case. -/
theorem keyOfVariable?_eq (name : String) :
    keyOfVariable? name =
      if variableStart.isPrefixOf (name.map Char.toLower).toList then
        some (String.ofList (pointed ((name.map Char.toLower).toList.drop variableStart.length)))
      else none := by
  simp only [keyOfVariable?, String.toList_map, map_toLower_pointed, List.map_drop]

/-- The variable that is named after an entry sets it. -/
theorem keyOfVariable?_of_lower {name entry : String} (h : name.map Char.toLower = "app__" ++ entry)
    (hentry : pointed entry.toList = entry.toList) : keyOfVariable? name = some entry := by
  have hchars : (name.map Char.toLower).toList = variableStart ++ entry.toList := by
    rw [h, String.toList_append]
    rfl
  have hstart : variableStart.isPrefixOf (variableStart ++ entry.toList) = true :=
    List.isPrefixOf_iff_prefix.2 (List.prefix_append ..)
  rw [keyOfVariable?_eq, hchars, if_pos hstart, List.drop_left, hentry, String.ofList_toList]

/-- A variable whose key goes through an entry has a name that starts like that of the variable named
    after the entry. -/
theorem prefix_of_touches {name key entry : String} (h : keyOfVariable? name = some key)
    (htouches : (Key.ofText key).touches entry = true) (hentry : '.' ∉ entry.toList) :
    ("app__" ++ entry).toList <+: (name.map Char.toLower).toList := by
  have hroot : (Key.ofText key).root.map Char.toLower = entry := of_decide_eq_true htouches
  rw [keyOfVariable?_eq] at h
  split at h
  · next hstart =>
    injection h with hkey
    obtain ⟨rest, hname⟩ := List.isPrefixOf_iff_prefix.1 hstart
    rw [← hname, List.drop_left] at hkey
    have hlower : rest.map Char.toLower = rest := by
      have hall := congrArg String.toList (map_toLower_toLower name)
      rw [String.toList_map, ← hname, List.map_append] at hall
      exact List.append_cancel_left (hall.trans (by rfl))
    have hpointed : entry.toList <+: pointed rest := by
      have hprefix := (Key.root_ofText key).map Char.toLower
      rwa [← String.toList_map, hroot, ← hkey, String.toList_ofList, map_toLower_pointed,
        hlower] at hprefix
    rw [← hname, String.toList_append]
    exact (List.prefix_append_right_inj variableStart).2 (prefix_of_prefix_pointed hentry hpointed)
  · contradiction

end CardServer.Settings
