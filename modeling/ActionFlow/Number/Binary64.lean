/-!
# Binary floating-point numbers

A `Binary64` is a number of the 64-bit binary floating-point format, held as data:
a sign, a significand below 2^53 and a scale that counts from the smallest positive
number 2^-1074. Every finite number is therefore a whole multiple of 2^-1074, so
comparison, also against whole numbers of any size, is integer arithmetic and loses
nothing. Rounding is to the nearest number, a half going to the even significand.
No machine float takes part.
-/

namespace ActionFlow

/-- The pairs that stand for a magnitude: a full 53-bit significand at any scale, or
a shorter one at the lowest scale. The largest scale keeps the number below 2^1024. -/
def Magnitude.Canonical (significand scale : Nat) : Prop :=
  significand < Nat.pow 2 53 ∧ scale ≤ 2045 ∧ (Nat.pow 2 52 ≤ significand ∨ scale = 0)

instance (significand scale : Nat) : Decidable (Magnitude.Canonical significand scale) :=
  inferInstanceAs (Decidable (_ ∧ _ ∧ (_ ∨ _)))

/-- A finite nonnegative magnitude, `significand * 2^scale` units of 2^-1074, in the one
form that each magnitude has. -/
structure Magnitude where
  /-- The leading bits, 53 of them unless the scale is lowest. -/
  significand : Nat
  /-- The power of two, counted from 2^-1074. -/
  scale : Nat
  /-- No magnitude has two forms. -/
  canonical : Magnitude.Canonical significand scale
deriving DecidableEq

namespace Magnitude

/-- The magnitude as a whole number of units of 2^-1074. -/
def units (m : Magnitude) : Nat := m.significand * Nat.pow 2 m.scale

/-- The magnitude zero. -/
def zero : Magnitude := ⟨0, 0, by decide⟩

instance : Inhabited Magnitude := ⟨zero⟩

/-- The magnitude with these parts, when they are a canonical pair. -/
def ofParts? (significand scale : Nat) : Option Magnitude :=
  if h : Canonical significand scale then some ⟨significand, scale, h⟩ else none

end Magnitude

/-- Where a value that is no number was found. -/
inductive NaNSource where
  /-- It stood as a number. -/
  | number
  /-- A text spelled it. -/
  | text
deriving DecidableEq, Inhabited

/-- A number of the 64-bit binary format. Zero keeps its sign. -/
inductive Binary64 where
  /-- The value that is no number; it remembers where it was found. -/
  | nan (source : NaNSource)
  /-- Beyond every finite number, on the side that the sign gives. -/
  | infinite (negative : Bool)
  /-- A finite number as sign and magnitude. -/
  | finite (negative : Bool) (magnitude : Magnitude)
deriving DecidableEq, Inhabited

/-- A place on the number line that has both its ends. Finite places are counted in
units of 2^-1074, which every whole number and every finite `Binary64` has. -/
inductive Extent where
  /-- Below every finite place. -/
  | below
  /-- A finite place. -/
  | at (units : Int)
  /-- Above every finite place. -/
  | above
deriving DecidableEq

/-- The number of units of 2^-1074 in one. -/
def unitsPerOne : Nat := Nat.pow 2 1074

namespace Extent

/-- Strictly left on the line. -/
def lt : Extent → Extent → Bool
  | .below, .below => false
  | .below, _ => true
  | .at _, .below => false
  | .at a, .at b => a < b
  | .at _, .above => true
  | .above, _ => false

/-- Left on the line or the same place. -/
def le (a b : Extent) : Bool := lt a b || a == b

/-- The place of a whole number. -/
def ofInt (n : Int) : Extent := .at (n * unitsPerOne)

end Extent

/-- The quotient of two numbers rounded to the nearest whole number, a half going to
the even neighbour. -/
def roundHalfEven (numerator denominator : Nat) : Nat :=
  let quotient := numerator / denominator
  let twice := 2 * (numerator % denominator)
  if twice < denominator then quotient
  else if denominator < twice then quotient + 1
  else if quotient % 2 = 0 then quotient else quotient + 1

namespace Binary64

/-- Zero with a sign. -/
def zero (negative : Bool) : Binary64 := .finite negative .zero

/-- The number with a significand and a scale; beyond the last scale it is infinite. -/
def ofParts (negative : Bool) (parts : Nat × Nat) : Binary64 :=
  match Magnitude.ofParts? parts.1 parts.2 with
  | some magnitude => .finite negative magnitude
  | none => .infinite negative

/-- The significand and the scale nearest to a positive ratio that is counted in units of
2^-1074. The scale leaves 53 bits of the ratio; rounding up to 2^53 moves to the next
scale. -/
def roundedParts (units denominator : Nat) : Nat × Nat :=
  let scale := (units / denominator).log2 - 52
  let significand := roundHalfEven units (denominator * Nat.pow 2 scale)
  if significand = Nat.pow 2 53 then (Nat.pow 2 52, scale + 1) else (significand, scale)

/-- The number nearest to a positive ratio. -/
def ofRatio (negative : Bool) (numerator denominator : Nat) : Binary64 :=
  ofParts negative (roundedParts (numerator * unitsPerOne) denominator)

/-- The number nearest to a whole number. -/
def ofInt (n : Int) : Binary64 := ofRatio (n < 0) n.natAbs 1

/-- Two to a power, down to zero below the smallest positive number. -/
def twoToMinus (power : Nat) : Binary64 :=
  if power ≤ 1074 then ofRatio false 1 (Nat.pow 2 power) else zero false

/-- Whether the number is not a number. -/
def isNaN : Binary64 → Bool
  | .nan _ => true
  | _ => false

/-- Whether the number is finite. -/
def isFinite : Binary64 → Bool
  | .finite _ _ => true
  | _ => false

/-- The place of a number on the line; `nan` has none, and both zeros share one. -/
def extent? : Binary64 → Option Extent
  | .nan _ => none
  | .infinite true => some .below
  | .infinite false => some .above
  | .finite true m => some (.at (-(m.units : Int)))
  | .finite false m => some (.at m.units)

/-- The whole number that a number is, if it is one. -/
def toInt? (x : Binary64) : Option Int :=
  match x.extent? with
  | some (.at units) =>
    if units % unitsPerOne = 0 then some (units / unitsPerOne) else none
  | _ => none

/-- Whether the number is zero, of either sign. -/
def isZero : Binary64 → Bool
  | .finite _ m => m.significand == 0
  | _ => false

end Binary64

end ActionFlow
