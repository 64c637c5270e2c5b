import ActionFlow.Number.Decimal
import ActionFlow.Text.Numeral
import Mathlib.Algebra.Order.Ring.Nat
import Mathlib.Data.List.Induction

/-!
# Digits and their values

Runs of decimal digits, what they stand for, and the digits that a number is written with: a
positive number does not begin with a zero, and its digits stand for it. Zeros that are
trimmed from the end come back as a power of ten.
-/

namespace ActionFlow

/-- Characters that are all decimal digits. -/
def AllDigits (digits : List Char) : Prop := ∀ c ∈ digits, Text.isAsciiDigit c = true

/-- A text that does not go on with a digit. -/
def NoDigitFirst (rest : List Char) : Prop := ∀ c ∈ rest.head?, Text.isAsciiDigit c = false

/-- The digits of a number in base ten are decimal digits. -/
theorem allDigits_toDigits (n : Nat) : AllDigits (Nat.toDigits 10 n) := by
  intro c hc
  have h := Nat.isDigit_of_mem_toDigits (by decide) (by decide) hc
  unfold Char.isDigit at h
  unfold Text.isAsciiDigit
  exact h

/-- Two runs of digits make one. -/
theorem AllDigits.append {digits others : List Char} (h : AllDigits digits)
    (ho : AllDigits others) : AllDigits (digits ++ others) :=
  fun c hc => (List.mem_append.mp hc).elim (h c) (ho c)

/-- A part of a run of digits is one. -/
theorem AllDigits.sublist {digits part : List Char} (h : AllDigits digits)
    (hpart : part.Sublist digits) : AllDigits part := fun c hc => h c (hpart.subset hc)

/-- Zeros are digits. -/
theorem allDigits_replicate (count : Nat) : AllDigits (List.replicate count '0') := by
  intro c hc
  rw [List.eq_of_mem_replicate hc]
  decide

/-- A digit after others counts once, and they count ten times as much. -/
theorem decimalValue_append (digits others : List Char) :
    decimalValue (digits ++ others) =
      decimalValue digits * 10 ^ others.length + decimalValue others := by
  have h := Nat.ofDigitChars_append (b := 10) (l := digits) (m := others) 0
  rw [Nat.ofDigitChars_eq_ofDigitChars_zero (l := others)] at h
  rw [Nat.mul_comm]
  exact h

/-- Zeros stand for nothing. -/
theorem decimalValue_replicate (count : Nat) : decimalValue (List.replicate count '0') = 0 := by
  have h : Nat.ofDigitChars 10 (List.replicate count '0') 0 = 10 ^ count * 0 :=
    Nat.ofDigitChars_replicate_zero
  rw [Nat.mul_zero] at h
  exact h

/-- Zeros in front of digits add nothing. -/
theorem decimalValue_replicate_append (count : Nat) (digits : List Char) :
    decimalValue (List.replicate count '0' ++ digits) = decimalValue digits := by
  rw [decimalValue_append, decimalValue_replicate, Nat.zero_mul, Nat.zero_add]

/-- Zeros behind digits are a power of ten. -/
theorem decimalValue_append_replicate (digits : List Char) (count : Nat) :
    decimalValue (digits ++ List.replicate count '0') = decimalValue digits * 10 ^ count := by
  rw [decimalValue_append, decimalValue_replicate, List.length_replicate, Nat.add_zero]

/-- The digits of a number stand for it. -/
theorem decimalValue_toDigits (n : Nat) : decimalValue (Nat.toDigits 10 n) = n :=
  Nat.ofDigitChars_toDigits (by decide) (by decide)

/-- A positive number does not begin with a zero. -/
theorem head?_toDigits_ne_zero {n : Nat} (hn : n ≠ 0) : (Nat.toDigits 10 n).head? ≠ some '0' := by
  induction n using Nat.strongRecOn with
  | _ n ih =>
    rw [Nat.toDigits_eq_if (by decide)]
    split
    · next hsmall =>
      have hdigit : ∀ d, d < 10 → d ≠ 0 → Nat.digitChar d ≠ '0' := by decide
      simpa using hdigit n hsmall hn
    · next hlarge =>
      have hhead := ih (n / 10) (by omega) (by omega)
      rw [List.head?_append]
      cases hfirst : (Nat.toDigits 10 (n / 10)).head? with
      | none => exact absurd (List.head?_eq_none_iff.mp hfirst) Nat.toDigits_ne_nil
      | some c => simpa [hfirst] using hhead

/-- The trimmed digits and the zeros that were trimmed make up the digits. -/
theorem trimZeros_append (digits : List Char) :
    (trimZeros digits).1 ++ List.replicate (trimZeros digits).2 '0' = digits := by
  unfold trimZeros
  dsimp only
  have hsplit := List.takeWhile_append_dropWhile (p := (· == '0')) (l := digits.reverse)
  have hzeros : (digits.reverse.takeWhile (· == '0')).reverse =
      List.replicate (digits.reverse.takeWhile (· == '0')).length '0' := by
    rw [List.eq_replicate_iff]
    refine ⟨List.length_reverse, fun c hc => ?_⟩
    exact eq_of_beq (List.all_eq_true.mp List.all_takeWhile c (List.mem_reverse.mp hc))
  have hlength : digits.length - (digits.reverse.dropWhile (· == '0')).reverse.length =
      (digits.reverse.takeWhile (· == '0')).length := by
    have h := congrArg List.length hsplit
    rw [List.length_append, List.length_reverse] at h
    rw [List.length_reverse]
    omega
  rw [hlength, ← hzeros, ← List.reverse_append, hsplit, List.reverse_reverse]

/-- The trimmed digits stand for the number without the power of ten that was trimmed. -/
theorem decimalValue_trimZeros (digits : List Char) :
    decimalValue (trimZeros digits).1 * 10 ^ (trimZeros digits).2 = decimalValue digits := by
  have h := congrArg decimalValue (trimZeros_append digits)
  rw [decimalValue_append_replicate] at h
  exact h

/-- The trimmed digits of a positive number are digits, of which there is one, and do not
begin with a zero. -/
theorem trimZeros_toDigits {n : Nat} (hn : n ≠ 0) :
    AllDigits (trimZeros (Nat.toDigits 10 n)).1 ∧ (trimZeros (Nat.toDigits 10 n)).1 ≠ [] ∧
      (trimZeros (Nat.toDigits 10 n)).1.head? ≠ some '0' := by
  have happend := trimZeros_append (Nat.toDigits 10 n)
  have hne : (trimZeros (Nat.toDigits 10 n)).1 ≠ [] := by
    intro hnil
    have h := decimalValue_trimZeros (Nat.toDigits 10 n)
    rw [hnil, decimalValue_toDigits] at h
    exact hn (h.symm.trans (Nat.zero_mul _))
  refine ⟨?_, hne, ?_⟩
  · intro c hc
    exact allDigits_toDigits n c (happend ▸ List.mem_append_left _ hc)
  · have hhead := head?_toDigits_ne_zero hn
    obtain ⟨c, rest, hcons⟩ := List.exists_cons_of_ne_nil hne
    rw [← happend, hcons] at hhead
    rw [hcons]
    exact hhead

end ActionFlow
