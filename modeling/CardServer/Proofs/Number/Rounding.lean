import CardServer.Number.Real

/-! # Rounding keeps great numbers great

Rounding to 53 significant bits loses less than half of a fraction that is at least one.  So a number
that is beyond all ports before it is rounded is beyond them afterwards, whichever of the two ways of
rounding a decimal is taken.

* `isAtLeast_of_ofFraction`   a rounded fraction is at least half of it
* `le_toNat_ofDecimal`        a decimal rounded once
* `isAtLeast_of_ofScaled`     a significand and a power of ten rounded one by one
-/

namespace CardServer

namespace Binary64

/-- The exponents of a shift to the left and of one to the right, one of which is zero. -/
theorem shiftFraction_eq (num den : Nat) (shift : Int) :
    shiftFraction num den shift =
      (num * Nat.pow 2 shift.toNat, den * Nat.pow 2 (-shift).toNat) := by
  unfold shiftFraction
  split
  · next h =>
    have hzero : (-shift).toNat = 0 := by omega
    rw [hzero, show Nat.pow 2 0 = 1 from rfl, Nat.mul_one]
  · next h =>
    have hzero : shift.toNat = 0 := by omega
    rw [hzero, show Nat.pow 2 0 = 1 from rfl, Nat.mul_one]

theorem pow_pos (n : Nat) : 0 < Nat.pow 2 n := Nat.two_pow_pos n

/-- One more in the exponent is twice the number. -/
theorem pow_succ_shift (exponent : Int) :
    Nat.pow 2 (exponent + 1).toNat * Nat.pow 2 (-exponent).toNat =
      2 * Nat.pow 2 exponent.toNat * Nat.pow 2 (-(exponent + 1)).toNat := by
  have hsucc : ∀ n, Nat.pow 2 (n + 1) = 2 * Nat.pow 2 n := fun n => by
    rw [Nat.mul_comm]
    rfl
  rcases Int.lt_or_le exponent 0 with h | h
  · obtain ⟨k, hk⟩ : ∃ k : Nat, (-exponent).toNat = k + 1 := ⟨(-exponent).toNat - 1, by omega⟩
    have hnext : (-(exponent + 1)).toNat = k := by omega
    have hzero : exponent.toNat = 0 := by omega
    have hnextZero : (exponent + 1).toNat = 0 := by omega
    rw [hk, hnext, hzero, hnextZero, hsucc]
    simp only [show Nat.pow 2 0 = 1 from rfl, Nat.one_mul, Nat.mul_one]
  · have hnext : (exponent + 1).toNat = exponent.toNat + 1 := by omega
    have hzero : (-exponent).toNat = 0 := by omega
    have hnextZero : (-(exponent + 1)).toNat = 0 := by omega
    rw [hnext, hzero, hnextZero, hsucc]

/-- The unit in the last place of a fraction that is at least one is not greater than the fraction. -/
theorem unit_le {num den : Nat} (hden : 0 < den) (h : den ≤ num) :
    let exponent := unitExponent num den
    den * Nat.pow 2 exponent.toNat ≤ num * Nat.pow 2 (-exponent).toNat := by
  intro exponent
  have hlow : Nat.pow 2 num.log2 ≤ num := Nat.log2_self_le (by omega)
  have hhigh : den < Nat.pow 2 (den.log2 + 1) := Nat.lt_log2_self
  have hexponent : exponent ≤ leastExponent ∨
      exponent ≤ (num.log2 : Int) - den.log2 - 52 := by
    simp only [exponent, unitExponent]
    split <;> omega
  rcases Int.lt_or_le 0 exponent with hpos | hneg
  · -- The fraction has more than 52 bits before the point.
    have hsum : den.log2 + 1 + exponent.toNat ≤ num.log2 := by
      simp only [leastExponent] at hexponent
      omega
    have hzero : (-exponent).toNat = 0 := by omega
    calc den * Nat.pow 2 exponent.toNat
        ≤ Nat.pow 2 (den.log2 + 1) * Nat.pow 2 exponent.toNat :=
          Nat.mul_le_mul_right _ (Nat.le_of_lt hhigh)
      _ = Nat.pow 2 (den.log2 + 1 + exponent.toNat) := (Nat.pow_add 2 _ _).symm
      _ ≤ Nat.pow 2 num.log2 := Nat.pow_le_pow_right (by decide) hsum
      _ ≤ num * Nat.pow 2 (-exponent).toNat := by
          rw [hzero]
          exact Nat.le_trans hlow (Nat.le_of_eq (Nat.mul_one num).symm)
  · have hzero : exponent.toNat = 0 := by omega
    rw [hzero]
    exact Nat.mul_le_mul h (pow_pos _)

/-- Whether the magnitude of a number is at least a natural number. -/
def IsAtLeast (bound : Nat) (x : Binary64) : Prop := bound * x.toFraction.2 ≤ x.toFraction.1

theorem toFraction_eq (x : Binary64) :
    x.toFraction = (x.mantissa * Nat.pow 2 x.exponent.toNat, Nat.pow 2 (-x.exponent).toNat) := by
  rw [toFraction, shiftFraction_eq, Nat.one_mul]

theorem toFraction_pos (x : Binary64) : 0 < x.toFraction.2 := by
  rw [toFraction_eq]
  exact pow_pos _

/-- A number with one more in the exponent and half the mantissa is the same. -/
theorem IsAtLeast.of_twice {bound mantissa : Nat} {negative : Bool} {exponent : Int}
    (h : IsAtLeast bound ⟨negative, 2 * mantissa, exponent⟩) :
    IsAtLeast bound ⟨negative, mantissa, exponent + 1⟩ := by
  simp only [IsAtLeast, toFraction_eq] at h ⊢
  have hshift := pow_succ_shift exponent
  have hpos := pow_pos exponent.toNat
  refine Nat.le_of_mul_le_mul_left (c := 2 * Nat.pow 2 exponent.toNat) ?_ (by omega)
  calc 2 * Nat.pow 2 exponent.toNat * (bound * Nat.pow 2 (-(exponent + 1)).toNat)
      = bound * (2 * Nat.pow 2 exponent.toNat * Nat.pow 2 (-(exponent + 1)).toNat) := by ac_rfl
    _ = bound * Nat.pow 2 (-exponent).toNat * Nat.pow 2 (exponent + 1).toNat := by
        rw [← hshift]
        ac_rfl
    _ ≤ 2 * mantissa * Nat.pow 2 exponent.toNat * Nat.pow 2 (exponent + 1).toNat :=
        Nat.mul_le_mul_right _ h
    _ = 2 * Nat.pow 2 exponent.toNat * (mantissa * Nat.pow 2 (exponent + 1).toNat) := by ac_rfl

/-- A rounded fraction is at least half of it, if the fraction is at least one. -/
theorem isAtLeast_of_ofFraction {negative : Bool} {num den bound : Nat} {x : Binary64}
    (hden : 0 < den) (hbound : 0 < bound) (hnum : 2 * bound * den ≤ num)
    (h : ofFraction negative num den = some x) :
    x.negative = negative ∧ IsAtLeast bound x := by
  have hle : den ≤ num := by
    refine Nat.le_trans ?_ hnum
    exact Nat.le_mul_of_pos_left den (by omega)
  have hunit := unit_le hden hle
  have hne : ¬ num = 0 := by omega
  simp only [ofFraction, if_neg hne, shiftFraction_eq, Int.neg_neg] at h
  generalize unitExponent num den = exponent at h hunit
  generalize hrounded : roundQuotient (num * Nat.pow 2 (-exponent).toNat)
    (den * Nat.pow 2 exponent.toNat) = rounded at h
  have herror := (roundQuotient_error (num * Nat.pow 2 (-exponent).toNat)
    (Nat.mul_pos hden (pow_pos exponent.toNat))).2
  rw [hrounded] at herror
  -- The error is at most half of what is rounded.
  have hhalf : num * Nat.pow 2 (-exponent).toNat ≤
      2 * (rounded * (den * Nat.pow 2 exponent.toNat)) := by
    omega
  have hatLeast : IsAtLeast bound ⟨negative, rounded, exponent⟩ := by
    simp only [IsAtLeast, toFraction_eq]
    refine Nat.le_of_mul_le_mul_left (c := 2 * den) ?_ (by omega)
    calc 2 * den * (bound * Nat.pow 2 (-exponent).toNat)
        = 2 * bound * den * Nat.pow 2 (-exponent).toNat := by ac_rfl
      _ ≤ num * Nat.pow 2 (-exponent).toNat := Nat.mul_le_mul_right _ hnum
      _ ≤ 2 * (rounded * (den * Nat.pow 2 exponent.toNat)) := hhalf
      _ = 2 * den * (rounded * Nat.pow 2 exponent.toNat) := by ac_rfl
  split at h
  · next hcarry =>
    simp only at h
    split at h
    · nomatch h
    · obtain rfl := Option.some.inj h
      exact ⟨rfl, .of_twice (hcarry ▸ hatLeast)⟩
  · simp only at h
    split at h
    · nomatch h
    · obtain rfl := Option.some.inj h
      exact ⟨rfl, hatLeast⟩

theorem IsAtLeast.mono {bound greater : Nat} {x : Binary64} (hle : bound ≤ greater)
    (h : IsAtLeast greater x) : IsAtLeast bound x :=
  Nat.le_trans (Nat.mul_le_mul_right _ hle) h

theorem IsAtLeast.le_roundHalfAway {bound : Nat} {x : Binary64} (h : IsAtLeast bound x) :
    bound ≤ x.roundHalfAway := by
  have hpos := toFraction_pos x
  simp only [IsAtLeast] at h
  simp only [roundHalfAway]
  rw [Nat.le_div_iff_mul_le (by omega)]
  calc bound * (2 * x.toFraction.2) = 2 * (bound * x.toFraction.2) := by ac_rfl
    _ ≤ 2 * x.toFraction.1 + x.toFraction.2 := by omega

/-- The rounded product of a number and a number that is at least one. -/
theorem isAtLeast_of_mul {x y product : Binary64} {bound : Nat} (hbound : 0 < bound)
    (hx : IsAtLeast (2 * bound) x) (hy : IsAtLeast 1 y) (h : x.mul? y = some product) :
    IsAtLeast bound product := by
  refine (isAtLeast_of_ofFraction (Nat.mul_pos (toFraction_pos x) (toFraction_pos y)) hbound ?_ h).2
  calc 2 * bound * (x.toFraction.2 * y.toFraction.2)
      = 2 * bound * x.toFraction.2 * (1 * y.toFraction.2) := by ac_rfl
    _ ≤ x.toFraction.1 * y.toFraction.1 := Nat.mul_le_mul hx hy

/-- A significand that is scaled up, both of its factors rounded, is at least a quarter of itself. -/
theorem isAtLeast_of_ofScaled {negative : Bool} {significand count bound : Nat} {x : Binary64}
    (hbound : 0 < bound) (hsignificand : 4 * bound ≤ significand)
    (h : ofScaled? negative significand (count + 1 : Nat) = some x) :
    x.negative = negative ∧ IsAtLeast bound x := by
  have hup : ¬ ((count + 1 : Nat) : Int) < 0 := by omega
  simp only [ofScaled?, if_neg hup, Int.toNat_natCast, bind, Option.bind_eq_some_iff, pure] at h
  obtain ⟨rounded, hrounded, h⟩ := h
  have hatLeast : IsAtLeast (2 * bound) rounded :=
    (isAtLeast_of_ofFraction Nat.one_pos (by omega) (by omega) hrounded).2
  split at h
  · obtain rfl := Option.some.inj h
    exact ⟨rfl, hatLeast.mono (by omega)⟩
  · split at h
    · nomatch h
    · simp only [Option.bind_eq_some_iff] at h
      obtain ⟨power, hpower, scaled, hscaled, h⟩ := h
      obtain rfl := Option.some.inj h
      have hten : 2 * 1 * 1 ≤ Nat.pow 10 (count + 1) := by
        have hone : 1 ≤ Nat.pow 10 count := Nat.pow_pos (by decide)
        have hsucc : Nat.pow 10 (count + 1) = Nat.pow 10 count * 10 := rfl
        omega
      have hpowerAtLeast : IsAtLeast 1 power :=
        (isAtLeast_of_ofFraction Nat.one_pos Nat.one_pos hten hpower).2
      have hproduct : IsAtLeast bound scaled :=
        isAtLeast_of_mul hbound hatLeast hpowerAtLeast hscaled
      -- The sign that is put in at the end does not change the magnitude.
      exact ⟨rfl, hproduct⟩

/-- A natural number that is rounded in one step is at least half of itself. -/
theorem isAtLeast_of_ofDecimal {negative : Bool} {n bound : Nat} {x : Binary64} (hbound : 0 < bound)
    (hn : 2 * bound ≤ n) (h : ofDecimal? negative n 0 = some x) :
    x.negative = negative ∧ IsAtLeast bound x := by
  have hne : ¬ (n = 0 ∨ (digitCount n : Int) + 0 < -330) := by omega
  simp only [ofDecimal?, if_neg hne, Int.toNat_zero, show Nat.pow 10 0 = 1 from rfl, Nat.mul_one] at h
  split at h
  · nomatch h
  · exact isAtLeast_of_ofFraction Nat.one_pos hbound (by omega) h

end Binary64

/-- What is at least a natural number as a number of the format is so when it is made natural again. -/
theorem Real64.le_toNat_of_isAtLeast {bound limit : Nat} {x : Binary64} (hsign : x.negative = false)
    (h : x.IsAtLeast bound) (hlimit : bound ≤ limit) :
    bound ≤ (Real64.finite x).toNat limit := by
  simp only [Real64.toNat, hsign, Bool.false_eq_true, if_false]
  exact Nat.le_min.2 ⟨hlimit, h.le_roundHalfAway⟩

/-- A natural number that becomes a number of the format, or an infinity, and is made natural again. -/
theorem Real64.le_toNat_ofDecimal {n bound limit : Nat} (hbound : 0 < bound) (hn : 2 * bound ≤ n)
    (hlimit : bound ≤ limit) : bound ≤ (Real64.ofDecimal false n 0).toNat limit := by
  unfold Real64.ofDecimal
  split
  · next x hx =>
    obtain ⟨hsign, hatLeast⟩ := Binary64.isAtLeast_of_ofDecimal hbound hn hx
    exact le_toNat_of_isAtLeast hsign hatLeast hlimit
  · exact hlimit

end CardServer
