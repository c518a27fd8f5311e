import CardServer.Proofs.Json.Grammar
import CardServer.Proofs.Number.Rounding

/-! # Integers as numerals

A numeral without fraction and exponent stands for the integer that its digits write as long as 64 bits
hold it.  Beyond that it is rounded, and what it stands for then is still far from all small numbers.

* `absorb_cases`              either all digits are taken or their number is too great
* `value?_of_natural`         what a numeral without a sign stands for
* `value?_of_le`              it stands for that if it is not too great
* `value?_of_negative`        what a numeral with a minus sign stands for, if it is not too great
-/

namespace CardServer.Json.Numeral

open Grammar (Digits)

instance (text : List Char) : Decidable (Digits text) :=
  decidable_of_iff (!text.isEmpty && text.all Char.isDigit) (by simp [Digits])

theorem le_ofDigitChars (digits : List Char) (value : Nat) :
    value ≤ Nat.ofDigitChars 10 digits value := by
  induction digits generalizing value with
  | nil => exact Nat.le_refl _
  | cons c rest ih =>
    rw [Nat.ofDigitChars_cons]
    exact Nat.le_trans (by omega) (ih _)

/-- Either all digits are taken, or the number that they write is beyond the limit and the next one
    would have taken it there. -/
theorem absorb_cases (limit value : Nat) (digits : List Char) :
    absorb limit value digits = (Nat.ofDigitChars 10 digits value, []) ∨
      ∃ c ∈ digits, ∃ taken rest, absorb limit value digits = (taken, c :: rest) ∧
        limit < taken * 10 + digitValue c ∧
        taken * 10 + digitValue c ≤ Nat.ofDigitChars 10 digits value := by
  induction digits generalizing value with
  | nil => exact .inl rfl
  | cons c rest ih =>
    have hnext : 10 * value + (c.toNat - '0'.toNat) = value * 10 + digitValue c := by
      rw [Nat.mul_comm, digitValue]
    rw [Nat.ofDigitChars_cons, hnext]
    simp only [absorb]
    split
    · rcases ih (value * 10 + digitValue c) with hall | ⟨d, hd, taken, left, htaken, hlimit, hle⟩
      · exact .inl hall
      · exact .inr ⟨d, List.mem_cons_of_mem _ hd, taken, left, htaken, hlimit, hle⟩
    · next hgreat =>
      exact .inr ⟨c, List.mem_cons_self .., value, rest, rfl, Nat.lt_of_not_le hgreat,
        le_ofDigitChars _ _⟩

theorem digitValue_le {c : Char} (h : c.isDigit = true) : digitValue c ≤ 9 := by
  have hhigh : c.toNat ≤ 57 := by
    simp only [Char.isDigit, Bool.and_eq_true, decide_eq_true_eq] at h
    exact UInt32.le_iff_toNat_le.1 h.2
  have hzero : '0'.toNat = 48 := rfl
  simp only [digitValue, hzero]
  omega

/-- What a numeral without a sign stands for: the integer that its digits write, or a rounded number
    that is great. -/
theorem value?_of_natural {digits : List Char} {number : Number} (hdigits : Digits digits)
    (h : value? ⟨false, digits, none, none⟩ = some number) :
    number = .int (Nat.ofDigitChars 10 digits 0) ∨
      greatestSignificand < Nat.ofDigitChars 10 digits 0 ∧
        ∃ x : Binary64, number = .real x ∧ x.negative = false ∧ x.IsAtLeast 65536 := by
  rcases absorb_cases greatestSignificand 0 digits with hall | ⟨c, hc, taken, rest, htaken, hlimit, hle⟩
  · simp only [value?, hall, Bool.false_eq_true, if_false, Option.some.injEq] at h
    exact .inl h.symm
  · right
    refine ⟨Nat.lt_of_lt_of_le hlimit hle, ?_⟩
    simp only [value?, htaken, Option.getD_none, absorb, List.length_nil, List.length_cons,
      Nat.sub_zero, Int.natCast_zero, Int.sub_zero, Int.add_zero, Option.map_eq_some_iff] at h
    obtain ⟨x, hx, rfl⟩ := h
    have hdigit := digitValue_le (hdigits.2 c hc)
    have hgreat : 4 * 65536 ≤ taken := by
      simp only [greatestSignificand] at hlimit
      omega
    obtain ⟨hsign, hatLeast⟩ := Binary64.isAtLeast_of_ofScaled (by decide) hgreat hx
    exact ⟨x, rfl, hsign, hatLeast⟩

/-- A numeral without a sign stands for the integer that its digits write, if 64 bits hold it. -/
theorem value?_of_le {digits : List Char}
    (hle : Nat.ofDigitChars 10 digits 0 ≤ greatestSignificand) :
    value? ⟨false, digits, none, none⟩ = some (.int (Nat.ofDigitChars 10 digits 0)) := by
  rcases absorb_cases greatestSignificand 0 digits with hall | ⟨c, -, taken, rest, -, hlimit, hle'⟩
  · simp only [value?, hall, Bool.false_eq_true, if_false]
  · omega

/-- What a numeral with a minus sign stands for, unless it is zero or beyond 64 bits. -/
theorem value?_of_negative {digits : List Char} (hpos : 0 < Nat.ofDigitChars 10 digits 0)
    (hle : Nat.ofDigitChars 10 digits 0 ≤ greatestNegative) :
    value? ⟨true, digits, none, none⟩ = some (.int (-(Nat.ofDigitChars 10 digits 0 : Int))) := by
  rcases absorb_cases greatestSignificand 0 digits with hall | ⟨c, -, taken, rest, -, hlimit, hle'⟩
  · simp only [value?, hall, if_true, hpos, hle, and_self]
  · simp only [greatestSignificand, greatestNegative] at hlimit hle
    omega

end CardServer.Json.Numeral
