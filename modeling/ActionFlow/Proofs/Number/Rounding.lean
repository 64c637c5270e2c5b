import ActionFlow.Number.Decimal
import Mathlib.Algebra.Order.Ring.Nat
import Mathlib.Tactic.Ring

/-!
# What rounding depends on

The nearest `Binary64` of a ratio depends on the ratio alone, and a magnitude is the nearest
one of itself. Hence decimal numbers of the same value read as the same number, the cases
that are settled without computing included, and the decimal that is written for a
magnitude reads back as it.
-/

namespace ActionFlow

/-- The number of units of one, with the exponent as a variable: the power is too large to be
computed on the way. -/
theorem unitsPerOne_eq {power : Nat} (h : power = 1074) : unitsPerOne = 2 ^ power := by
  unfold unitsPerOne
  rw [← h, Nat.pow_eq]

/-- There are units of one. -/
theorem unitsPerOne_pos : 0 < unitsPerOne := by
  obtain ⟨power, hpower⟩ : ∃ power, power = 1074 := ⟨_, rfl⟩
  rw [unitsPerOne_eq hpower]
  exact Nat.pow_pos Nat.zero_lt_two

/-- Rounding depends on the ratio alone. -/
theorem roundHalfEven_mul_left {k : Nat} (hk : 0 < k) (n d : Nat) :
    roundHalfEven (k * n) (k * d) = roundHalfEven n d := by
  have hlow : (2 * (k * (n % d)) < k * d) = (2 * (n % d) < d) := by
    rw [Nat.mul_left_comm]
    exact propext (Nat.mul_lt_mul_left hk)
  have hhigh : (k * d < 2 * (k * (n % d))) = (d < 2 * (n % d)) := by
    rw [Nat.mul_left_comm 2]
    exact propext (Nat.mul_lt_mul_left hk)
  unfold roundHalfEven
  dsimp only
  rw [Nat.mul_div_mul_left n d hk, Nat.mul_mod_mul_left]
  simp only [hlow, hhigh]

/-- A whole number is rounded to itself. -/
theorem roundHalfEven_mul_self {d : Nat} (hd : 0 < d) (n : Nat) : roundHalfEven (n * d) d = n := by
  unfold roundHalfEven
  dsimp only
  rw [Nat.mul_mod_left, Nat.mul_div_cancel n hd, if_pos hd]

/-- What is less than a half is rounded to zero. -/
theorem roundHalfEven_eq_zero {n d : Nat} (h : 2 * n < d) : roundHalfEven n d = 0 := by
  have hn : n < d := by omega
  unfold roundHalfEven
  dsimp only
  rw [Nat.mod_eq_of_lt hn, Nat.div_eq_of_lt hn, if_pos h]

/-- A ratio may be expanded before it is rounded. -/
theorem Binary64.roundedParts_mul_left {k : Nat} (hk : 0 < k) (n d : Nat) :
    roundedParts (k * n) (k * d) = roundedParts n d := by
  unfold roundedParts
  dsimp only
  rw [Nat.mul_assoc k d, Nat.mul_div_mul_left _ _ hk, roundHalfEven_mul_left hk]

/-- The scale of a magnitude is the one that leaves 53 bits of it. -/
theorem Magnitude.log2_units (m : Magnitude) : m.units.log2 - 52 = m.scale := by
  obtain ⟨significand, scale, hsmall, -, hform⟩ := m
  unfold units
  simp only [Nat.pow_eq] at hsmall hform ⊢
  by_cases hfull : 2 ^ 52 ≤ significand
  · have hlog : (significand * 2 ^ scale).log2 = 52 + scale := by
      have hne : significand * 2 ^ scale ≠ 0 :=
        Nat.mul_ne_zero (by omega) (Nat.pow_pos (by decide)).ne'
      rw [Nat.log2_eq_iff hne]
      constructor
      · rw [Nat.pow_add]
        exact Nat.mul_le_mul_right _ hfull
      · calc significand * 2 ^ scale < 2 ^ 53 * 2 ^ scale :=
              Nat.mul_lt_mul_of_pos_right hsmall (Nat.pow_pos (by decide))
          _ = 2 ^ (52 + scale + 1) := by rw [← Nat.pow_add]; congr 1; omega
    omega
  · obtain rfl : scale = 0 := hform.resolve_left hfull
    rw [Nat.pow_zero, Nat.mul_one]
    by_cases hzero : significand = 0
    · subst hzero
      decide
    · have hlog : significand.log2 < 53 := (Nat.log2_lt hzero).mpr hsmall
      omega

/-- A magnitude that is counted in units is rounded to its own parts. -/
theorem Magnitude.roundedParts_units (m : Magnitude) {d : Nat} (hd : 0 < d) :
    Binary64.roundedParts (m.units * d) d = (m.significand, m.scale) := by
  unfold Binary64.roundedParts
  dsimp only
  rw [Nat.mul_div_cancel _ hd, m.log2_units]
  have hsignificand : roundHalfEven (m.units * d) (d * Nat.pow 2 m.scale) = m.significand := by
    have hpow : 0 < Nat.pow 2 m.scale := Nat.pow_pos (by decide)
    unfold units
    rw [Nat.mul_assoc, Nat.mul_comm (Nat.pow 2 m.scale) d]
    exact roundHalfEven_mul_self (Nat.mul_pos hd hpow) _
  rw [hsignificand, if_neg (Nat.ne_of_lt m.canonical.1)]

namespace Binary64

/-- A ratio may be expanded. -/
theorem ofRatio_mul_left (negative : Bool) {k : Nat} (hk : 0 < k) (n d : Nat) :
    ofRatio negative (k * n) (k * d) = ofRatio negative n d := by
  unfold ofRatio
  rw [Nat.mul_assoc k n, roundedParts_mul_left hk]

/-- The nearest number depends on the ratio alone. -/
theorem ofRatio_congr (negative : Bool) {n d n' d' : Nat} (hd : 0 < d) (hd' : 0 < d')
    (h : n * d' = n' * d) : ofRatio negative n d = ofRatio negative n' d' := by
  calc ofRatio negative n d = ofRatio negative (d' * n) (d' * d) :=
        (ofRatio_mul_left negative hd' n d).symm
    _ = ofRatio negative (d * n') (d * d') := by
        rw [Nat.mul_comm d' n, h, Nat.mul_comm n' d, Nat.mul_comm d' d]
    _ = ofRatio negative n' d' := ofRatio_mul_left negative hd n' d'

/-- The sign has no part in the magnitude of the number with some parts. -/
theorem ofParts_eq_finite_iff (negative : Bool) (parts : Nat × Nat) (m : Magnitude) :
    ofParts negative parts = .finite negative m ↔ ofParts false parts = .finite false m := by
  unfold ofParts
  cases Magnitude.ofParts? parts.1 parts.2 with
  | none => simp only [reduceCtorEq]
  | some magnitude => simp only [finite.injEq, true_and]

/-- The number with some parts has the sign that it is given. -/
theorem sign_of_ofParts {negative sign : Bool} {parts : Nat × Nat} {m : Magnitude}
    (h : ofParts negative parts = .finite sign m) : negative = sign := by
  unfold ofParts at h
  split at h
  · exact (finite.inj h).1
  · cases h

/-- Parts that no magnitude has are beyond the last scale. -/
theorem ofParts_of_not_canonical (negative : Bool) {parts : Nat × Nat}
    (h : ¬ Magnitude.Canonical parts.1 parts.2) : ofParts negative parts = .infinite negative := by
  unfold ofParts Magnitude.ofParts?
  rw [dif_neg h]

/-- The parts of a magnitude make the number with that magnitude. -/
theorem ofParts_parts (negative : Bool) (m : Magnitude) :
    ofParts negative (m.significand, m.scale) = .finite negative m := by
  unfold ofParts Magnitude.ofParts?
  rw [dif_pos m.canonical]

/-- A magnitude is the nearest number of itself. -/
theorem ofRatio_units (negative : Bool) (m : Magnitude) :
    ofRatio negative m.units unitsPerOne = .finite negative m := by
  unfold ofRatio
  rw [m.roundedParts_units unitsPerOne_pos, ofParts_parts]

end Binary64

/-- A ratio of at least two to a power is given a scale that is at most 52 below it. -/
theorem Binary64.le_roundedParts_scale {n d k : Nat} (hd : 0 < d) (h : 2 ^ k * d ≤ n) :
    k - 52 ≤ (roundedParts n d).2 := by
  have hquotient : 2 ^ k ≤ n / d := (Nat.le_div_iff_mul_le hd).mpr h
  have hne : n / d ≠ 0 := by
    have hpos : 0 < 2 ^ k := Nat.pow_pos Nat.zero_lt_two
    omega
  have hlog : k ≤ (n / d).log2 := (Nat.le_log2 hne).mpr hquotient
  unfold roundedParts
  dsimp only
  split
  · dsimp only
    omega
  · dsimp only
    omega

/-- A ratio of at least 2^1024 rounds to infinity. -/
theorem Binary64.ofRatio_eq_infinite (negative : Bool) {n d k : Nat} (hd : 0 < d)
    (hk : 1024 ≤ k) (h : 2 ^ k * d ≤ n) : ofRatio negative n d = .infinite negative := by
  obtain ⟨power, hpower⟩ : ∃ power, power = 1074 := ⟨_, rfl⟩
  have hscaled : 2 ^ (k + power) * d ≤ n * unitsPerOne := by
    rw [unitsPerOne_eq hpower, Nat.pow_add, Nat.mul_right_comm]
    exact Nat.mul_le_mul_right _ h
  have hscale := le_roundedParts_scale hd hscaled
  refine ofParts_of_not_canonical negative ?_
  rintro ⟨-, hle, -⟩
  omega

/-- A ratio of less than half a unit rounds to zero. -/
theorem Binary64.ofRatio_eq_zero (negative : Bool) {n d : Nat} (h : 2 * (n * unitsPerOne) < d) :
    ofRatio negative n d = .zero negative := by
  have hparts : roundedParts (n * unitsPerOne) d = (0, 0) := by
    have hquotient : n * unitsPerOne / d = 0 := Nat.div_eq_of_lt (by omega)
    have hround : roundHalfEven (n * unitsPerOne) (d * Nat.pow 2 0) = 0 := by
      rw [Nat.pow_eq, Nat.pow_zero, Nat.mul_one]
      exact roundHalfEven_eq_zero h
    unfold roundedParts
    dsimp only
    rw [hquotient]
    have hscale : Nat.log2 0 - 52 = 0 := by decide
    rw [hscale, hround]
    exact if_neg (by decide)
  unfold ofRatio
  rw [hparts]
  exact ofParts_parts negative .zero

namespace Decimal

/-- Ten to a power is at least two to three times the power. -/
theorem two_pow_le_ten_pow (k : Nat) : 2 ^ (3 * k) ≤ 10 ^ k := by
  rw [Nat.pow_mul]
  exact Nat.pow_le_pow_left (by decide) k

/-- Twice the number of units of one is at most ten to a power from 400 on. -/
theorem two_mul_unitsPerOne_le {k : Nat} (hk : 400 ≤ k) : 2 * unitsPerOne ≤ 10 ^ k := by
  obtain ⟨power, hpower⟩ : ∃ power, power = 1074 := ⟨_, rfl⟩
  calc 2 * unitsPerOne = 2 ^ (power + 1) := by
        rw [unitsPerOne_eq hpower, Nat.pow_succ, Nat.mul_comm]
    _ ≤ 2 ^ (3 * k) := Nat.pow_le_pow_right (by decide) (by omega)
    _ ≤ 10 ^ k := two_pow_le_ten_pow k

/-- A number is below ten to the number of its digits. -/
theorem lt_ten_pow_decimalLength (n : Nat) : n < 10 ^ decimalLength n :=
  (Nat.length_toDigits_le_iff (by decide) Nat.length_toDigits_pos).mp (Nat.le_refl _)

/-- A decimal number reads as the nearest number of its ratio; the cases that are settled
without computing the powers make no difference. -/
theorem toBinary64_eq_ofRatio {d : Decimal} (hd : d.digits ≠ 0) :
    d.toBinary64 = .ofRatio d.negative (d.digits * 10 ^ d.exponent.toNat)
      (10 ^ (-d.exponent).toNat) := by
  obtain ⟨negative, digits, exponent⟩ := d
  dsimp only at hd ⊢
  unfold toBinary64
  dsimp only
  rw [if_neg hd]
  by_cases hsign : 0 ≤ exponent
  · have hone : (10 : Nat) ^ (-exponent).toNat = 1 := by
      rw [Int.toNat_of_nonpos (by omega), Nat.pow_zero]
    rw [if_pos hsign, hone]
    by_cases hlarge : 400 < exponent
    · have hpower : 2 ^ (3 * exponent.toNat) * 1 ≤ digits * 10 ^ exponent.toNat := by
        calc 2 ^ (3 * exponent.toNat) * 1 ≤ 10 ^ exponent.toNat := by
              rw [Nat.mul_one]
              exact two_pow_le_ten_pow _
          _ ≤ digits * 10 ^ exponent.toNat := Nat.le_mul_of_pos_left _ (Nat.pos_of_ne_zero hd)
      rw [if_pos hlarge, Binary64.ofRatio_eq_infinite negative Nat.one_pos (by omega) hpower]
    · rw [if_neg hlarge, Nat.pow_eq]
  · have hone : (10 : Nat) ^ exponent.toNat = 1 := by
      rw [Int.toNat_of_nonpos (by omega), Nat.pow_zero]
    rw [if_neg hsign, hone, Nat.mul_one]
    by_cases hsmall : decimalLength digits + 400 < (-exponent).toNat
    · have hpower : 2 * (digits * unitsPerOne) < 10 ^ (-exponent).toNat := by
        obtain ⟨k, hk⟩ : ∃ k, k = 400 := ⟨_, rfl⟩
        calc 2 * (digits * unitsPerOne) = digits * (2 * unitsPerOne) := Nat.mul_left_comm _ _ _
          _ ≤ digits * 10 ^ k := Nat.mul_le_mul_left _ (two_mul_unitsPerOne_le (by omega))
          _ < 10 ^ decimalLength digits * 10 ^ k :=
              Nat.mul_lt_mul_of_pos_right (lt_ten_pow_decimalLength digits)
                (Nat.pow_pos (by decide))
          _ = 10 ^ (decimalLength digits + k) := (Nat.pow_add _ _ _).symm
          _ ≤ 10 ^ (-exponent).toNat := Nat.pow_le_pow_right (by decide) (by omega)
      rw [if_pos hsmall, Binary64.ofRatio_eq_zero negative hpower]
    · rw [if_neg hsmall, Nat.pow_eq]

/-- Zeros at the end of the digits count as a power of ten. -/
theorem toBinary64_mul_pow (negative : Bool) (digits zeros : Nat) (exponent : Int) :
    toBinary64 ⟨negative, digits * 10 ^ zeros, exponent⟩ =
      toBinary64 ⟨negative, digits, exponent + zeros⟩ := by
  by_cases hd : digits = 0
  · subst hd
    rw [Nat.zero_mul]
    rfl
  · have hpow : (10 : Nat) ^ zeros ≠ 0 := (Nat.pow_pos (by decide)).ne'
    rw [toBinary64_eq_ofRatio (d := ⟨negative, digits * 10 ^ zeros, exponent⟩)
        (Nat.mul_ne_zero hd hpow),
      toBinary64_eq_ofRatio (d := ⟨negative, digits, exponent + zeros⟩) hd]
    refine Binary64.ofRatio_congr negative (Nat.pow_pos (by decide)) (Nat.pow_pos (by decide)) ?_
    dsimp only
    simp only [Nat.mul_assoc, ← Nat.pow_add]
    congr 2
    omega

/-- A decimal number has the sign of the number it reads as. -/
theorem negative_of_toBinary64 {d : Decimal} {sign : Bool} {m : Magnitude}
    (h : d.toBinary64 = .finite sign m) : d.negative = sign := by
  by_cases hd : d.digits = 0
  · unfold toBinary64 at h
    rw [if_pos hd] at h
    exact (Binary64.finite.inj h).1
  · rw [toBinary64_eq_ofRatio hd] at h
    exact Binary64.sign_of_ofParts h

/-- Only digits that stand for something read as a magnitude that is not zero. -/
theorem digits_ne_zero_of_toBinary64 {d : Decimal} {sign : Bool} {m : Magnitude}
    (h : d.toBinary64 = .finite sign m) (hm : m.significand ≠ 0) : d.digits ≠ 0 := by
  intro hd
  unfold toBinary64 at h
  rw [if_pos hd] at h
  obtain ⟨-, rfl⟩ := Binary64.finite.inj h
  exact hm rfl

/-- The sign of a decimal number has no part in the magnitude it reads as. -/
theorem toBinary64_eq_finite_iff (negative : Bool) {digits : Nat} (hd : digits ≠ 0)
    (exponent : Int) (m : Magnitude) :
    toBinary64 ⟨negative, digits, exponent⟩ = .finite negative m ↔
      toBinary64 ⟨false, digits, exponent⟩ = .finite false m := by
  rw [toBinary64_eq_ofRatio (d := ⟨negative, digits, exponent⟩) hd,
    toBinary64_eq_ofRatio (d := ⟨false, digits, exponent⟩) hd]
  exact Binary64.ofParts_eq_finite_iff negative _ m

end Decimal

namespace Magnitude

/-- The magnitude written out in full reads back. -/
theorem exactDecimal_toBinary64 {m : Magnitude} (hm : m.significand ≠ 0) :
    m.exactDecimal.toBinary64 = .finite false m := by
  obtain ⟨power, hpower⟩ : ∃ power, power = 1074 := ⟨_, rfl⟩
  rw [← Binary64.ofRatio_units false m]
  unfold exactDecimal units
  rw [← hpower]
  simp only [Nat.pow_eq]
  split
  · next hscale =>
    have hdigits : m.significand * 2 ^ (m.scale - power) ≠ 0 :=
      Nat.mul_ne_zero hm (Nat.pow_pos Nat.zero_lt_two).ne'
    have hsplit : 2 ^ m.scale = 2 ^ (m.scale - power) * 2 ^ power := by
      rw [← Nat.pow_add, Nat.sub_add_cancel hscale]
    rw [Decimal.toBinary64_eq_ofRatio hdigits]
    refine Binary64.ofRatio_congr false (Nat.pow_pos (by decide)) unitsPerOne_pos ?_
    simp only [Int.toNat_zero, Int.neg_zero, Nat.pow_zero, Nat.mul_one]
    rw [unitsPerOne_eq hpower, hsplit, Nat.mul_assoc]
  · next hscale =>
    have hdigits : m.significand * 5 ^ (power - m.scale) ≠ 0 :=
      Nat.mul_ne_zero hm (Nat.pow_pos (by decide)).ne'
    have hup : ((m.scale : Int) - 1074).toNat = 0 := by omega
    have hdown : (-((m.scale : Int) - 1074)).toNat = power - m.scale := by omega
    have hten : 10 ^ (power - m.scale) = 2 ^ (power - m.scale) * 5 ^ (power - m.scale) := by
      rw [← Nat.mul_pow]
    have hsplit : 2 ^ power = 2 ^ m.scale * 2 ^ (power - m.scale) := by
      rw [← Nat.pow_add, Nat.add_sub_cancel' (by omega)]
    rw [Decimal.toBinary64_eq_ofRatio hdigits]
    refine Binary64.ofRatio_congr false (Nat.pow_pos (by decide)) unitsPerOne_pos ?_
    dsimp only
    rw [hup, hdown, unitsPerOne_eq hpower, hten, hsplit, Nat.pow_zero, Nat.mul_one]
    ring

/-- A magnitude is written with digits that read back as it. -/
theorem shortestDecimal_toBinary64 {m : Magnitude} (hm : m.significand ≠ 0) :
    m.shortestDecimal.toBinary64 = .finite false m := by
  unfold shortestDecimal
  cases hfound : (List.range 17).findSome? fun i => m.nearestDecimal? (i + 1) with
  | none => exact exactDecimal_toBinary64 hm
  | some d =>
    obtain ⟨i, -, hi⟩ := List.exists_of_findSome?_eq_some hfound
    exact eq_of_beq (List.find?_some hi : m.readsBack d = true)

end Magnitude

end ActionFlow
