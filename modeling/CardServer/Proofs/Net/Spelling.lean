import CardServer.Net.Address

/-! # Addresses are read back from their texts

The text of an address is one of the many spellings that a reader accepts, and the one address that it
is read as is the address that was written: bytes have no zeros in front, groups no more than four
digits, and the two colons stand for the run of zeros that they were put in place of.

* `spanDigits_toDigits`       a number is read back from its digits
* `readBytes_dottedText`      four bytes are read back, and `readBytes_eq_none` when there are none
* `readGroups_written`        groups are read back up to what they end at
* `take_append_longestRun`    what the two colons stand for
* `ofText?_text`              an address is read back from its text
-/

namespace CardServer.Net.Address

/-! ## Digits -/

/-- A text that does not go on with a digit to some base. -/
def EndsDigits (base : Nat) (rest : List Char) : Prop :=
  ∀ c, rest.head? = some c → digit? base c = none

theorem endsDigits_nil (base : Nat) : EndsDigits base [] := fun _ h => nomatch h

theorem endsDigits_cons {base : Nat} {c : Char} (h : digit? base c = none) (rest : List Char) :
    EndsDigits base (c :: rest) := by
  intro d hd
  rwa [← Option.some.inj hd]

theorem digit?_digitChar {base d : Nat} (hbase : base ≤ 16) (h : d < base) :
    digit? base (Nat.digitChar d) = some d := by
  have hvalue : ∀ d < 16, (Nat.digitChar d).isDigit = true ∧
      (Nat.digitChar d).toNat - '0'.toNat = d ∨
      (Nat.digitChar d).isDigit = false ∧ 'a' ≤ Nat.digitChar d ∧ Nat.digitChar d ≤ 'f' ∧
        (Nat.digitChar d).toNat - 'a'.toNat + 10 = d := by decide
  rcases hvalue d (by omega) with ⟨hdigit, hd⟩ | ⟨hdigit, hlow, hhigh, hd⟩
  · simp only [digit?, hdigit, if_true, hd]
    rw [if_pos h]
  · simp only [digit?, hdigit, Bool.false_eq_true, if_false, hlow, hhigh, and_self, if_true, hd]
    rw [if_pos h]

theorem spanDigits_of_endsDigits {base : Nat} {rest : List Char} (h : EndsDigits base rest) :
    spanDigits base rest = ([], rest) := by
  cases rest with
  | nil => rfl
  | cons c rest => rw [spanDigits, h c rfl]

/-- Digits are read up to what they end at. -/
theorem spanDigits_append {base : Nat} (hbase : base ≤ 16) {values : List Nat}
    (h : ∀ d ∈ values, d < base) {rest : List Char} (hrest : EndsDigits base rest) :
    spanDigits base (values.map Nat.digitChar ++ rest) = (values, rest) := by
  induction values with
  | nil => exact spanDigits_of_endsDigits hrest
  | cons d values ih =>
    have ih := ih fun e he => h e (List.mem_cons_of_mem _ he)
    rw [List.map_cons, List.cons_append, spanDigits,
      digit?_digitChar hbase (h d (List.mem_cons_self ..)), ih]

/-- The digits of a number, without a zero in front unless the number is zero. -/
structure IsNumeral (base n : Nat) (values : List Nat) : Prop where
  ne_nil : values ≠ []
  lt : ∀ d ∈ values, d < base
  ofDigits_eq : ofDigits base values = n
  eq_zero : values.head? = some 0 → n = 0

theorem exists_isNumeral {base : Nat} (hbase : 1 < base) (n : Nat) :
    ∃ values, Nat.toDigits base n = values.map Nat.digitChar ∧ IsNumeral base n values := by
  induction n using Nat.strongRecOn with
  | _ n ih =>
    rcases Nat.lt_or_ge n base with hsmall | hgreat
    · refine ⟨[n], Nat.toDigits_of_lt_base hsmall, List.cons_ne_nil _ _, ?_, ?_, ?_⟩
      · simpa using hsmall
      · simp [ofDigits]
      · simp
    · -- The last digit comes off, and what is left has the other digits.
      have hquotient : 0 < n / base := Nat.div_pos hgreat (by omega)
      obtain ⟨values, htext, hvalues⟩ := ih (n / base) (Nat.div_lt_self (by omega) hbase)
      refine ⟨values ++ [n % base], ?_, List.concat_ne_nil _ _, ?_, ?_, ?_⟩
      · rw [Nat.toDigits_of_base_le hbase hgreat, htext, List.map_append]
        rfl
      · intro d hd
        rcases List.mem_append.1 hd with hd | hd
        · exact hvalues.lt d hd
        · rw [List.mem_singleton.1 hd]
          exact Nat.mod_lt _ (by omega)
      · have hfront : values.foldl (fun n d => n * base + d) 0 = n / base := hvalues.ofDigits_eq
        rw [ofDigits, List.foldl_append, hfront, List.foldl_cons, List.foldl_nil, Nat.mul_comm]
        exact Nat.div_add_mod n base
      · intro hhead
        have hzero : n / base = 0 := by
          cases values with
          | nil => exact absurd rfl hvalues.ne_nil
          | cons d values => exact hvalues.eq_zero hhead
        omega

/-- A number is read back from its digits. -/
theorem spanDigits_toDigits {base : Nat} (hbase : 1 < base) (hbound : base ≤ 16) (n : Nat)
    {rest : List Char} (hrest : EndsDigits base rest) :
    ∃ values, spanDigits base (Nat.toDigits base n ++ rest) = (values, rest) ∧
      IsNumeral base n values ∧ values.length = (Nat.toDigits base n).length := by
  obtain ⟨values, htext, hvalues⟩ := exists_isNumeral hbase n
  refine ⟨values, ?_, hvalues, by rw [htext, List.length_map]⟩
  rw [htext]
  exact spanDigits_append hbound hvalues.lt hrest

/-! ## Bytes -/

theorem readByte_toDigits (byte : UInt8) {rest : List Char} (hrest : EndsDigits 10 rest) :
    readByte (Nat.toDigits 10 byte.toNat ++ rest) = some (byte, rest) := by
  obtain ⟨values, hspan, hvalues, hlength⟩ :=
    spanDigits_toDigits (by decide) (by decide) byte.toNat hrest
  have hbyte : byte.toNat < 256 := byte.toNat_lt
  have hthree : values.length ≤ 3 := by
    rw [hlength, Nat.length_toDigits_le_iff (by decide) (by decide)]
    omega
  have hfront : ¬ (values.head? = some 0 ∧ 1 < values.length) := by
    rintro ⟨hhead, hlong⟩
    rw [hlength, hvalues.eq_zero hhead, Nat.toDigits_zero] at hlong
    exact absurd hlong (by decide)
  have hne : values.isEmpty = false := List.isEmpty_eq_false_iff.2 hvalues.ne_nil
  simp only [readByte, hspan, hvalues.ofDigits_eq, hne, Bool.false_eq_true, hfront, false_or]
  rw [if_neg (by omega), UInt8.ofNat_toNat]

/-- Four bytes with points between them, as characters. -/
theorem toList_dottedText (a b c d : UInt8) :
    (dottedText a b c d).toList =
      Nat.toDigits 10 a.toNat ++ '.' :: (Nat.toDigits 10 b.toNat ++ '.' ::
        (Nat.toDigits 10 c.toNat ++ '.' :: Nat.toDigits 10 d.toNat)) := by
  simp [dottedText]

theorem expect_cons (c : Char) (rest : List Char) : expect c (c :: rest) = some rest := by
  rw [expect, if_pos rfl]

/-- Four bytes are read back from their text. -/
theorem readBytes_dottedText (a b c d : UInt8) {rest : List Char} (hrest : EndsDigits 10 rest) :
    readBytes ((dottedText a b c d).toList ++ rest) = some ((a, b, c, d), rest) := by
  have hpoint (text : List Char) : EndsDigits 10 ('.' :: text) := endsDigits_cons (by decide) text
  simp only [toList_dottedText, List.append_assoc, List.cons_append, readBytes, bind, pure,
    readByte_toDigits _ (hpoint _), readByte_toDigits d hrest, expect_cons, Option.bind_some]

/-- Where no point stands in front of the first colon, none follows the first digits. -/
theorem expect_point_spanDigits {text : List Char} (h : '.' ∉ text.takeWhile (· != ':')) :
    expect '.' (spanDigits 10 text).2 = none := by
  -- The first character that is no digit stands in front of the colon, or is the colon.
  induction text with
  | nil => rfl
  | cons c rest ih =>
    cases hc : digit? 10 c with
    | some value =>
      have hcolon : c ≠ ':' := by
        rintro rfl
        nomatch (show none = some value from hc)
      rw [List.takeWhile_cons_of_pos (by simpa using hcolon)] at h
      simpa only [spanDigits, hc] using ih fun hmem => h (List.mem_cons_of_mem _ hmem)
    | none =>
      have hne : c ≠ '.' := by
        rintro rfl
        exact h (by simp)
      simp only [spanDigits, hc, expect, if_neg hne]

/-- What follows a byte is what follows its digits. -/
theorem eq_of_readByte {text rest : List Char} {byte : UInt8}
    (h : readByte text = some (byte, rest)) : rest = (spanDigits 10 text).2 := by
  simp only [readByte] at h
  split at h
  · nomatch h
  · exact ((Prod.mk.injEq ..).mp (Option.some.inj h)).2.symm

/-- A text that has no point up to its first colon does not start with four bytes. -/
theorem readBytes_eq_none {text : List Char} (h : '.' ∉ text.takeWhile (· != ':')) :
    readBytes text = none := by
  have hpoint : expect '.' (spanDigits 10 text).2 = none := expect_point_spanDigits h
  cases hbyte : readByte text with
  | none => simp only [readBytes, hbyte, bind, Option.bind_none]
  | some result =>
    obtain ⟨a, rest⟩ := result
    rw [← eq_of_readByte hbyte] at hpoint
    simp only [readBytes, hbyte, bind, Option.bind_some, hpoint, Option.bind_none]

theorem readV4_dottedText (a b c d : UInt8) :
    readV4 (dottedText a b c d).toList = some (.v4 a b c d) := by
  have hread := readBytes_dottedText a b c d (endsDigits_nil 10)
  rw [List.append_nil] at hread
  rw [readV4, hread]

/-! ## Groups -/

theorem readGroup_toDigits (group : UInt16) {rest : List Char} (hrest : EndsDigits 16 rest) :
    readGroup (Nat.toDigits 16 group.toNat ++ rest) = some (group, rest) := by
  obtain ⟨values, hspan, hvalues, hlength⟩ :=
    spanDigits_toDigits (by decide) (by decide) group.toNat hrest
  have hgroup : group.toNat < 65536 := group.toNat_lt
  have hfour : values.length ≤ 4 := by
    rw [hlength, Nat.length_toDigits_le_iff (by decide) (by decide)]
    omega
  have hne : values.isEmpty = false := List.isEmpty_eq_false_iff.2 hvalues.ne_nil
  simp only [readGroup, hspan, hvalues.ofDigits_eq, hne, Bool.false_eq_true, false_or]
  rw [if_neg (by omega), UInt16.ofNat_toNat]

/-- A text that ends or goes on with a colon. -/
def OpensColon (rest : List Char) : Prop := ∀ c, rest.head? = some c → c = ':'

theorem OpensColon.endsDigits {rest : List Char} (h : OpensColon rest) : EndsDigits 16 rest := by
  intro c hc
  rw [h c hc]
  rfl

theorem OpensColon.takeWhile {rest : List Char} (h : OpensColon rest) :
    rest.takeWhile (· != ':') = [] := by
  cases rest with
  | nil => rfl
  | cons c rest =>
    rw [h c rfl]
    rfl

/-- Up to a colon there is nothing but the text in front of it. -/
theorem OpensColon.notMem_takeWhile {c : Char} {front rest : List Char} (hrest : OpensColon rest)
    (h : c ∉ front) : c ∉ (front ++ rest).takeWhile (· != ':') := by
  induction front with
  | nil =>
    rw [List.nil_append, hrest.takeWhile]
    exact List.not_mem_nil
  | cons d front ih =>
    have ih := ih fun hmem => h (List.mem_cons_of_mem _ hmem)
    rw [List.cons_append, List.takeWhile_cons]
    split
    · intro hmem
      rcases List.mem_cons.1 hmem with rfl | hmem
      · exact h (List.mem_cons_self ..)
      · exact ih hmem
    · exact List.not_mem_nil

/-- The digits of a group do not start four bytes. -/
theorem readBytes_toDigits (group : UInt16) {rest : List Char} (hrest : OpensColon rest) :
    readBytes (Nat.toDigits 16 group.toNat ++ rest) = none := by
  have hbase : 1 < 16 := by decide
  obtain ⟨values, htext, -⟩ := exists_isNumeral hbase group.toNat
  have hpoint : '.' ∉ Nat.toDigits 16 group.toNat := by
    intro hmem
    rw [htext] at hmem
    obtain ⟨d, -, hd⟩ := List.mem_map.1 hmem
    exact Nat.digitChar_ne '.' (by decide) hd
  exact readBytes_eq_none (hrest.notMem_takeWhile hpoint)

/-- Groups in hexadecimal digits, each but the first with a colon in front of it. -/
def written (first : Bool) : List UInt16 → List Char
  | [] => []
  | group :: rest =>
    (if first then [] else [':']) ++ (Nat.toDigits 16 group.toNat ++ written false rest)

theorem toList_groupsText (groups : List UInt16) : (groupsText groups).toList = written true groups := by
  have hjoin (group : UInt16) (rest : List UInt16) :
      (groupsText (group :: rest)).toList = Nat.toDigits 16 group.toNat ++ written false rest := by
    induction rest generalizing group with
    | nil => simp [groupsText, written]
    | cons next rest ih =>
      have hstep : (groupsText (group :: next :: rest)).toList =
          Nat.toDigits 16 group.toNat ++ ':' :: (groupsText (next :: rest)).toList := by
        simp [groupsText]
      rw [hstep, ih, written]
      rfl
  cases groups with
  | nil => rfl
  | cons group rest => exact hjoin group rest

/-- What the groups of an address end at: nothing or two colons. -/
inductive Stops : List Char → Prop
  | nil : Stops []
  | colons (rest : List Char) : Stops (':' :: ':' :: rest)

theorem Stops.opensColon {rest : List Char} (h : Stops rest) : OpensColon rest := by
  cases h with
  | nil => exact fun _ hc => nomatch hc
  | colons rest => exact fun c hc => (Option.some.inj hc).symm

theorem opensColon_written_append (groups : List UInt16) {rest : List Char} (hrest : Stops rest) :
    OpensColon (written false groups ++ rest) := by
  cases groups with
  | nil => exact hrest.opensColon
  | cons group groups => exact fun c hc => (Option.some.inj hc).symm

/-- No group is read where groups stop. -/
theorem readGroups_of_stops (limit : Nat) (first : Bool) {rest : List Char} (h : Stops rest) :
    readGroups limit first rest = ([], false, rest) := by
  cases limit with
  | zero => rfl
  | succ limit =>
    have hbytes : ∀ text : List Char, readBytes (':' :: text) = none := fun text =>
      readBytes_eq_none (by simp)
    have hgroup : ∀ text : List Char, readGroup (':' :: text) = none := fun _ => rfl
    have hnone : readBytes [] = none := readBytes_eq_none List.not_mem_nil
    cases h with
    | nil => cases first <;> simp [readGroups, expect, hnone, readGroup, spanDigits]
    | colons rest => cases first <;> simp [readGroups, expect, hbytes, hgroup]

/-- Groups are read back up to what they end at. -/
theorem readGroups_written {limit : Nat} {groups : List UInt16} (hlength : groups.length ≤ limit)
    (first : Bool) {rest : List Char} (hrest : Stops rest) :
    readGroups limit first (written first groups ++ rest) = (groups, false, rest) := by
  induction groups generalizing limit first with
  | nil => exact readGroups_of_stops limit first hrest
  | cons group groups ih =>
    obtain ⟨limit, rfl⟩ : ∃ less, limit = less + 1 := ⟨limit - 1, by
      rw [List.length_cons] at hlength
      omega⟩
    have hless : groups.length ≤ limit := by simpa using hlength
    have ih := ih hless false
    let text := Nat.toDigits 16 group.toNat ++ (written false groups ++ rest)
    have hstart : (if first then some (written first (group :: groups) ++ rest)
        else expect ':' (written first (group :: groups) ++ rest)) = some text := by
      cases first <;> simp [written, expect, text]
    have hopens := opensColon_written_append groups hrest
    have hbytes : readBytes text = none := readBytes_toDigits group hopens
    have hgroup : readGroup text = some (group, written false groups ++ rest) :=
      readGroup_toDigits group hopens.endsDigits
    simp only [readGroups, hstart, Option.bind_some, hbytes, ite_self, hgroup, ih]

/-! ## Runs of zeros -/

theorem replicate_zeroRun_append_drop (groups : List UInt16) :
    List.replicate (zeroRun groups) 0 ++ groups.drop (zeroRun groups) = groups := by
  induction groups with
  | nil => rfl
  | cons group rest ih =>
    by_cases hzero : group = 0
    · have hrun : zeroRun (group :: rest) = zeroRun rest + 1 := by simp [zeroRun, hzero]
      rw [hrun, List.replicate_succ, List.drop_succ_cons, List.cons_append, ih, hzero]
    · have hrun : zeroRun (group :: rest) = 0 := by simp [zeroRun, hzero]
      rw [hrun]
      rfl

/-- The run of zeros that is longest is one: zeros in its place give the groups back. -/
theorem take_append_longestRun (groups : List UInt16) {start length : Nat}
    (h : longestRun groups = (start, length)) :
    start + length ≤ groups.length ∧
      groups.take start ++ (List.replicate length 0 ++ groups.drop (start + length)) = groups := by
  induction groups generalizing start length with
  | nil =>
    obtain ⟨rfl, rfl⟩ := (Prod.mk.injEq ..).mp h
    exact ⟨Nat.le_refl _, rfl⟩
  | cons group rest ih =>
    cases hrest : longestRun rest with
    | mk later least =>
      obtain ⟨hbound, hsame⟩ := ih hrest
      simp only [longestRun, hrest] at h
      split at h
      · obtain ⟨rfl, rfl⟩ := (Prod.mk.injEq ..).mp h
        refine ⟨?_, ?_⟩
        · rw [Nat.zero_add]
          exact (List.takeWhile_prefix _).length_le
        · rw [List.take_zero, List.nil_append, Nat.zero_add]
          exact replicate_zeroRun_append_drop (group :: rest)
      · obtain ⟨rfl, rfl⟩ := (Prod.mk.injEq ..).mp h
        refine ⟨by rw [List.length_cons]; omega, ?_⟩
        rw [List.take_succ_cons, Nat.add_right_comm, List.drop_succ_cons, List.cons_append, hsame]

/-! ## Addresses -/

theorem ofGroups?_of_length {groups : List UInt16} (h : groups.length = 8) :
    ofGroups? groups = some (.v6 groups h) := by
  rw [ofGroups?, dif_pos h]

/-- Groups with two colons among them are read as all groups, with zeros for the colons. -/
theorem readV6_colons {head tail : List UInt16} {body : List Char} {dotted : Bool}
    (hhead : head.length < 8)
    (hbody : readGroups (7 - head.length) true body = (tail, dotted, [])) :
    readV6 (written true head ++ ':' :: ':' :: body) =
      ofGroups? (head ++ List.replicate (8 - head.length - tail.length) 0 ++ tail) := by
  have hread : readGroups 8 true (written true head ++ ':' :: ':' :: body) =
      (head, false, ':' :: ':' :: body) :=
    readGroups_written (Nat.le_of_lt hhead) true (.colons body)
  simp only [readV6, hread, hbody]
  rw [if_neg (Nat.ne_of_lt hhead)]
  rfl

/-- The group of the two halves of a group is the group. -/
theorem pairGroup_halves (group : UInt16) :
    pairGroup (UInt8.ofNat (group.toNat / 256)) (UInt8.ofNat (group.toNat % 256)) = group := by
  have hgroup : group.toNat < 65536 := group.toNat_lt
  have hhigh : (UInt8.ofNat (group.toNat / 256)).toNat = group.toNat / 256 :=
    UInt8.toNat_ofNat_of_lt' (by show _ < 256; omega)
  have hlow : (UInt8.ofNat (group.toNat % 256)).toNat = group.toNat % 256 :=
    UInt8.toNat_ofNat_of_lt' (by show _ < 256; omega)
  rw [pairGroup, hhigh, hlow, Nat.div_add_mod', UInt16.ofNat_toNat]

/-- Groups that embed four bytes are read back. -/
theorem readGroups_embedded (a b c d : UInt8) :
    readGroups 7 true ("ffff:".toList ++ (dottedText a b c d).toList) =
      ([0xFFFF, pairGroup a b, pairGroup c d], true, []) := by
  have hbytes := readBytes_dottedText a b c d (endsDigits_nil 10)
  rw [List.append_nil] at hbytes
  let rest := ':' :: (dottedText a b c d).toList
  have hopens : OpensColon rest := fun c hc => (Option.some.inj hc).symm
  have htext : "ffff:".toList ++ (dottedText a b c d).toList =
      Nat.toDigits 16 (0xFFFF : UInt16).toNat ++ rest := rfl
  have hfirst : readBytes (Nat.toDigits 16 (0xFFFF : UInt16).toNat ++ rest) = none :=
    readBytes_toDigits 0xFFFF hopens
  have hgroup : readGroup (Nat.toDigits 16 (0xFFFF : UInt16).toNat ++ rest) = some (0xFFFF, rest) :=
    readGroup_toDigits 0xFFFF hopens.endsDigits
  rw [htext]
  simp only [readGroups, if_true, Option.bind_some, hfirst, hgroup, rest, expect_cons, hbytes,
    Bool.false_eq_true, if_false]
  rfl

/-- An address that embeds four bytes is read back. -/
theorem readV6_embedded (a b c d : UInt8) :
    readV6 (':' :: ':' :: ("ffff:".toList ++ (dottedText a b c d).toList)) =
      ofGroups? [0, 0, 0, 0, 0, 0xFFFF, pairGroup a b, pairGroup c d] := by
  have hhead : ([] : List UInt16).length < 8 := by decide
  have hread := readV6_colons hhead (readGroups_embedded a b c d)
  exact hread

/-- Two colons in place of a run of zeros are read as the run. -/
theorem readV6_compressed {groups : List UInt16} (eight : groups.length = 8) {start length : Nat}
    (hrun : longestRun groups = (start, length)) (hlong : 1 < length) :
    readV6 (written true (groups.take start) ++
      ':' :: ':' :: written true (groups.drop (start + length))) = some (.v6 groups eight) := by
  obtain ⟨hbound, hsame⟩ := take_append_longestRun groups hrun
  have hhead : (groups.take start).length = start := List.length_take_of_le (by omega)
  have htail : (groups.drop (start + length)).length = 8 - (start + length) := by
    rw [List.length_drop, eight]
  have hfits : (groups.drop (start + length)).length ≤ 7 - (groups.take start).length := by omega
  have hbody := readGroups_written hfits true .nil
  rw [List.append_nil] at hbody
  have hzeros : 8 - (groups.take start).length - (groups.drop (start + length)).length = length := by
    omega
  rw [readV6_colons (by omega) hbody, hzeros, List.append_assoc, hsame, ofGroups?_of_length eight]

/-- Eight groups without two colons are read as they stand. -/
theorem readV6_written {groups : List UInt16} (eight : groups.length = 8) :
    readV6 (written true groups) = some (.v6 groups eight) := by
  have hread := readGroups_written (Nat.le_of_eq eight) true .nil
  rw [List.append_nil] at hread
  simp only [readV6, hread, eight, if_true, List.isEmpty_nil]
  exact ofGroups?_of_length eight

/-- Groups do not start four bytes. -/
theorem readBytes_written (groups : List UInt16) {rest : List Char} (hrest : Stops rest) :
    readBytes (written true groups ++ rest) = none := by
  cases groups with
  | nil =>
    refine readBytes_eq_none ?_
    rw [written, List.nil_append, hrest.opensColon.takeWhile]
    exact List.not_mem_nil
  | cons group groups =>
    rw [written, if_pos rfl, List.nil_append, List.append_assoc]
    exact readBytes_toDigits group (opensColon_written_append groups hrest)

/-- The three forms of the text of eight groups: with four bytes at the end, with two colons in place of
    the longest run of zeros, or with all groups. -/
inductive Form (groups : List UInt16) (text : List Char) : Prop
  | embedded (high low : UInt16) (hgroups : groups = [0, 0, 0, 0, 0, 0xFFFF, high, low])
      (htext : text = ':' :: ':' :: ("ffff:".toList ++
        (dottedText (UInt8.ofNat (high.toNat / 256)) (UInt8.ofNat (high.toNat % 256))
          (UInt8.ofNat (low.toNat / 256)) (UInt8.ofNat (low.toNat % 256))).toList))
  | compressed (start length : Nat) (hrun : longestRun groups = (start, length)) (hlong : 1 < length)
      (htext : text = written true (groups.take start) ++
        ':' :: ':' :: written true (groups.drop (start + length)))
  | full (htext : text = written true groups)

theorem form_v6Text (groups : List UInt16) : Form groups (v6Text groups).toList := by
  unfold v6Text
  split
  · refine .embedded _ _ rfl ?_
    rw [String.toList_append]
    rfl
  · cases hrun : longestRun groups with
    | mk start length =>
      dsimp only
      split
      · next hlong =>
        refine .compressed start length hrun hlong ?_
        simp only [String.toList_append, toList_groupsText, List.append_assoc]
        rfl
      · exact .full (toList_groupsText groups)

/-- Eight groups are read back from their text, which does not start with four bytes. -/
theorem readV6_v6Text {groups : List UInt16} (eight : groups.length = 8) :
    readBytes (v6Text groups).toList = none ∧
      readV6 (v6Text groups).toList = some (.v6 groups eight) := by
  cases form_v6Text groups with
  | embedded high low hgroups htext =>
    subst hgroups
    rw [htext, readV6_embedded, pairGroup_halves, pairGroup_halves]
    exact ⟨readBytes_eq_none List.not_mem_nil, ofGroups?_of_length eight⟩
  | compressed start length hrun hlong htext =>
    rw [htext]
    exact ⟨readBytes_written _ (.colons _), readV6_compressed eight hrun hlong⟩
  | full htext =>
    have hbytes := readBytes_written groups .nil
    rw [List.append_nil] at hbytes
    rw [htext]
    exact ⟨hbytes, readV6_written eight⟩

/-- An address is read back from its text. -/
theorem ofText?_text (address : Address) : ofText? address.text = some address := by
  cases address with
  | v4 a b c d => rw [text, ofText?, readV4_dottedText]
  | v6 groups eight =>
    obtain ⟨hbytes, hread⟩ := readV6_v6Text eight
    rw [text, ofText?, readV4, hbytes]
    exact hread

end CardServer.Net.Address
