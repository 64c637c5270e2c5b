import ActionFlow.Number.Binary64

/-!
# Decimal forms of numbers

Decimal text is read to the nearest `Binary64`, and a finite `Binary64` is written with
the fewest digits that read back as the same number, the nearest such digits if there
are several. The layout of the digits is positional from 10^-4 to below 10^16 and has an
exponent elsewhere. Reading is the test that the writer applies, so what is written
reads back by construction.
-/

namespace ActionFlow

/-- A decimal number, `digits * 10^exponent` with a sign. -/
structure Decimal where
  /-- Whether a minus sign stands in front. -/
  negative : Bool
  /-- All digits as one whole number. -/
  digits : Nat
  /-- The power of ten of the last digit. -/
  exponent : Int
deriving DecidableEq, Repr

/-- The number of decimal digits of a whole number; zero has one. -/
def decimalLength (n : Nat) : Nat := (Nat.toDigits 10 n).length

/-- The value of a run of ASCII decimal digits. -/
def decimalValue (digits : List Char) : Nat :=
  digits.foldl (fun value c => 10 * value + (c.toNat - '0'.toNat)) 0

namespace Decimal

/-- The nearest number of the binary format. Powers of ten beyond any finite number are
settled without being computed. -/
def toBinary64 (d : Decimal) : Binary64 :=
  if d.digits = 0 then .zero d.negative
  else if 0 ≤ d.exponent then
    if 400 < d.exponent then .infinite d.negative
    else .ofRatio d.negative (d.digits * Nat.pow 10 d.exponent.toNat) 1
  else
    let places := (-d.exponent).toNat
    if decimalLength d.digits + 400 < places then .zero d.negative
    else .ofRatio d.negative d.digits (Nat.pow 10 places)

/-- The decimal number with these runs of digits before and after the point, moved by a
power of ten. -/
def ofParts (negative : Bool) (whole fraction : List Char) (power : Int) : Decimal :=
  ⟨negative, decimalValue (whole ++ fraction), power - fraction.length⟩

end Decimal

namespace Magnitude

/-- The power of ten of the first digit of a positive magnitude. -/
def leadingPower (m : Magnitude) : Int :=
  (decimalLength (m.units * Nat.pow 10 400 / unitsPerOne) : Int) - 401

/-- The magnitude written out in full: a multiple of 2^-1074 has at most 1074 places. -/
def exactDecimal (m : Magnitude) : Decimal :=
  if 1074 ≤ m.scale then ⟨false, m.significand * Nat.pow 2 (m.scale - 1074), 0⟩
  else ⟨false, m.significand * Nat.pow 5 (1074 - m.scale), (m.scale : Int) - 1074⟩

/-- Whether a decimal number reads as this magnitude. -/
def readsBack (m : Magnitude) (d : Decimal) : Bool := d.toBinary64 == .finite false m

/-- The two decimal numbers with this many digits on either side of the magnitude, the
nearer one first. Of two equally near ones the one with even digits comes first. -/
def neighbours (m : Magnitude) (count : Nat) : List Decimal :=
  let exponent := m.leadingPower - count + 1
  let numerator := if 0 ≤ exponent then m.units else m.units * Nat.pow 10 (-exponent).toNat
  let denominator := if 0 ≤ exponent then unitsPerOne * Nat.pow 10 exponent.toNat else unitsPerOne
  let lower : Decimal := ⟨false, numerator / denominator, exponent⟩
  let upper : Decimal := ⟨false, numerator / denominator + 1, exponent⟩
  if roundHalfEven numerator denominator = lower.digits then [lower, upper] else [upper, lower]

/-- The first of the neighbours with this many digits that reads back. -/
def nearestDecimal? (m : Magnitude) (count : Nat) : Option Decimal :=
  (m.neighbours count).find? m.readsBack

/-- The shortest decimal number that reads back: the first count of digits, up to the 17
that always suffice, at which a neighbour does. -/
def shortestDecimal (m : Magnitude) : Decimal :=
  ((List.range 17).findSome? fun i => m.nearestDecimal? (i + 1)).getD m.exactDecimal

end Magnitude

/-- The words for numbers that have no digits. -/
structure NumberWords where
  /-- The text of the value that is no number. -/
  nan : String
  /-- The text of positive infinity; a minus sign in front makes the other. -/
  infinity : String

/-- Digits without the zeros at their end, with the power of ten that these held. -/
def trimZeros (digits : List Char) : List Char × Nat :=
  let kept := (digits.reverse.dropWhile (· == '0')).reverse
  (kept, digits.length - kept.length)

/-- Digits laid out around a decimal point. `point` counts the digits before it, and may
be negative or larger than the number of digits. Positional text always shows a digit on
both sides of the point; an exponent shows its sign and at least two digits. -/
def layoutDigits (digits : List Char) (point : Int) : List Char :=
  if -4 < point ∧ point ≤ 16 then
    if point ≤ 0 then
      '0' :: '.' :: (List.replicate (-point).toNat '0' ++ digits)
    else if digits.length ≤ point.toNat then
      digits ++ List.replicate (point.toNat - digits.length) '0' ++ ['.', '0']
    else
      digits.take point.toNat ++ '.' :: digits.drop point.toNat
  else
    let power := point - 1
    let powerDigits := Nat.toDigits 10 power.natAbs
    let padded := if powerDigits.length < 2 then '0' :: powerDigits else powerDigits
    let head := match digits with
      | [] => []
      | [d] => [d]
      | d :: rest => d :: '.' :: rest
    head ++ 'e' :: (if power < 0 then '-' else '+') :: padded

namespace Binary64

/-- The text of a finite magnitude. -/
def magnitudeText (m : Magnitude) : List Char :=
  if m.significand = 0 then ['0', '.', '0']
  else
    let d := m.shortestDecimal
    let (digits, zeros) := trimZeros (Nat.toDigits 10 d.digits)
    layoutDigits digits (digits.length + zeros + d.exponent)

/-- The text of a number. -/
def render (words : NumberWords) : Binary64 → String
  | .nan _ => words.nan
  | .infinite negative => if negative then "-" ++ words.infinity else words.infinity
  | .finite negative m =>
    String.ofList (if negative then '-' :: magnitudeText m else magnitudeText m)

end Binary64

end ActionFlow
