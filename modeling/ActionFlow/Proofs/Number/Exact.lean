import ActionFlow.Proofs.Number.Rounding
import ActionFlow.Value.Equality
import Mathlib

/-!
# The exact values of numbers

A number stands for a point of the rational line with both its ends: a whole number for
itself, a finite floating-point number for its significand times a power of two, and an
infinite one for an end. Numbers are compared as these points are, so nothing is rounded when
a whole number of any size meets a floating-point number.
-/

namespace ActionFlow

/-- The rational line with an end on either side. -/
abbrev ExactNumber : Type := WithBot (WithTop ℚ)

/-- A rational number as a point of the line. -/
def ExactNumber.ofRat (q : ℚ) : ExactNumber := ((q : WithTop ℚ) : WithBot (WithTop ℚ))

namespace ExactNumber

/-- Rational numbers lie on the line as they do among themselves. -/
@[simp]
theorem ofRat_lt_ofRat_iff {p q : ℚ} : ofRat p < ofRat q ↔ p < q := by simp [ofRat]

/-- Different rational numbers are different points. -/
@[simp]
theorem ofRat_inj {p q : ℚ} : ofRat p = ofRat q ↔ p = q := by simp [ofRat]

/-- The lower end lies below every rational number. -/
@[simp]
theorem bot_lt_ofRat (q : ℚ) : (⊥ : ExactNumber) < ofRat q := WithBot.bot_lt_coe _

/-- The upper end lies above every rational number. -/
@[simp]
theorem ofRat_lt_top (q : ℚ) : ofRat q < (⊤ : ExactNumber) :=
  WithBot.coe_lt_coe.mpr (WithTop.coe_lt_top q)

/-- A number of units of 2^-1074 as a point of the line. -/
def ofUnits (n : ℤ) : ExactNumber := ofRat (n / unitsPerOne)

/-- Numbers of units lie on the line as they do among themselves. -/
@[simp]
theorem ofUnits_lt_ofUnits_iff {m n : ℤ} : ofUnits m < ofUnits n ↔ m < n := by
  have hpos : (0 : ℚ) < unitsPerOne := Nat.cast_pos.mpr unitsPerOne_pos
  unfold ofUnits
  rw [ofRat_lt_ofRat_iff, div_lt_div_iff_of_pos_right hpos, Int.cast_lt]

/-- The units of a whole number make up the whole number. -/
theorem ofUnits_mul_unitsPerOne (n : ℤ) : ofUnits (n * unitsPerOne) = ofRat n := by
  have hne : (unitsPerOne : ℚ) ≠ 0 := Nat.cast_ne_zero.mpr unitsPerOne_pos.ne'
  unfold ofUnits
  rw [Int.cast_mul, Int.cast_natCast, mul_div_cancel_right₀ _ hne]

end ExactNumber

/-- The rational number that a magnitude is: its significand times the power of two that its
scale gives, counted from 2^-1074. -/
def Magnitude.toRat (m : Magnitude) : ℚ := m.significand * 2 ^ ((m.scale : ℤ) - 1074)

/-- The exact value of a floating-point number. -/
def Binary64.quantity? : Binary64 → Option ExactNumber
  | .nan _ => none
  | .infinite true => some ⊥
  | .infinite false => some ⊤
  | .finite true m => some (.ofRat (-m.toRat))
  | .finite false m => some (.ofRat m.toRat)

/-- The exact value of a number. Truth values are none, and `nan` has none. -/
def Value.quantity? : Value → Option ExactNumber
  | .int n => some (.ofRat n)
  | .float x => x.quantity?
  | _ => none

/-- A value has an exact value when it is a number other than `nan`. -/
theorem Value.isSome_quantity?_iff (v : Value) :
    v.quantity?.isSome = true ↔ v.isNumber = true ∧ v.isNaN = false := by
  cases v with
  | float x =>
    rcases x with source | negative | ⟨negative, m⟩
    · simp [quantity?, Binary64.quantity?, isNaN, Binary64.isNaN]
    · cases negative <;> simp [quantity?, Binary64.quantity?, isNumber, isNaN, Binary64.isNaN]
    · cases negative <;> simp [quantity?, Binary64.quantity?, isNumber, isNaN, Binary64.isNaN]
  | _ => simp [quantity?, isNumber, isNaN]

/-- The point of a place. -/
def Extent.point : Extent → ExactNumber
  | .below => ⊥
  | .at units => .ofUnits units
  | .above => ⊤

namespace Extent

/-- A place lies left of another when its point does. -/
theorem lt_iff_point_lt (a b : Extent) : a.lt b = true ↔ a.point < b.point := by
  have hlower (n : ℤ) : (⊥ : ExactNumber) < .ofUnits n := ExactNumber.bot_lt_ofRat _
  have hupper (n : ℤ) : .ofUnits n < (⊤ : ExactNumber) := ExactNumber.ofRat_lt_top _
  cases a with
  | below => cases b <;> simp [lt, point, hlower]
  | «at» m => cases b <;> simp [lt, point, hupper]
  | above => cases b <;> simp [lt, point]

/-- Different places have different points. -/
theorem point_inj {a b : Extent} : a.point = b.point ↔ a = b := by
  refine ⟨fun h => ?_, congrArg point⟩
  have hab := mt (lt_iff_point_lt a b).mp h.not_lt
  have hba := mt (lt_iff_point_lt b a).mp h.symm.not_lt
  cases a <;> cases b <;> simp [lt] at hab hba ⊢
  omega

/-- A place is left of another or the same when its point is. -/
theorem le_iff_point_le (a b : Extent) : a.le b = true ↔ a.point ≤ b.point := by
  rw [le, Bool.or_eq_true, lt_iff_point_lt, beq_iff_eq, le_iff_lt_or_eq, point_inj]

end Extent

/-- The units of a magnitude make up its rational number. -/
theorem Magnitude.ofUnits_units (m : Magnitude) (negative : Bool) :
    ExactNumber.ofUnits (if negative then -(m.units : ℤ) else m.units) =
      .ofRat (if negative then -m.toRat else m.toRat) := by
  obtain ⟨power, hpower⟩ : ∃ power : ℕ, power = 1074 := ⟨_, rfl⟩
  have hunits : (m.units : ℚ) = m.significand * 2 ^ m.scale := by
    unfold units
    rw [Nat.pow_eq]
    push_cast
    rfl
  have hexponent : (m.scale : ℤ) - 1074 = (m.scale : ℤ) - (power : ℤ) := by omega
  have hrat : (m.units : ℚ) / unitsPerOne = m.toRat := by
    unfold toRat
    rw [hexponent, unitsPerOne_eq hpower, hunits, zpow_sub₀ two_ne_zero, zpow_natCast, zpow_natCast,
      Nat.cast_pow, Nat.cast_ofNat, mul_div_assoc]
  unfold ExactNumber.ofUnits
  rw [← hrat]
  cases negative with
  | false => rfl
  | true =>
    rw [if_pos rfl, if_pos rfl, Int.cast_neg, Int.cast_natCast, neg_div]

/-- The exact value of a floating-point number is the point of its place. -/
theorem Binary64.quantity?_eq (x : Binary64) : x.quantity? = x.extent?.map Extent.point := by
  rcases x with source | negative | ⟨negative, m⟩
  · rfl
  · cases negative <;> rfl
  · have hunits := congrArg some (m.ofUnits_units negative).symm
    cases negative with
    | false => exact hunits
    | true => exact hunits

/-- The exact value of a number is the point of its place. -/
theorem Value.quantity?_eq_of_isNumber {v : Value} (h : v.isNumber = true) :
    v.quantity? = v.place?.map Extent.point := by
  cases v with
  | int n => exact congrArg some (ExactNumber.ofUnits_mul_unitsPerOne n).symm
  | float x => exact x.quantity?_eq
  | _ => cases h

/-- What has a place is compared by places. -/
theorem Value.agrees_eq_of_place? {v : Value} {a : Extent} (hv : v.place? = some a) (w : Value) :
    v.agrees w =
      match v.place?, w.place? with
      | some a, some b => a == b
      | _, _ => false := by
  cases v with
  | float x =>
    cases x with
    | nan source => cases hv
    | infinite negative => cases w <;> rfl
    | finite negative m => cases w <;> rfl
  | bool b => cases w <;> rfl
  | int n => cases w <;> rfl
  | _ => cases hv

/-- What has a place agrees with what has the same place. -/
theorem Value.agrees_iff_of_place? {v : Value} {a : Extent} (hv : v.place? = some a)
    (w : Value) : v.agrees w = true ↔ w.place? = some a := by
  rw [agrees_eq_of_place? hv, hv]
  cases w.place? with
  | none => simp
  | some b => simpa using eq_comm

end ActionFlow
