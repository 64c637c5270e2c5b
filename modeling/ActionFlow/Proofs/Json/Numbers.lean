import ActionFlow.Json.Writer
import ActionFlow.Json.Reader
import ActionFlow.Proofs.Number.Digits
import ActionFlow.Proofs.Number.Rounding

/-!
# Numbers in JSON

What is written for a number is read as the number. A numeral, that is digits with a fraction
and a power of ten, is read part by part; the text of a whole number and the layout of a
floating-point one are such numerals, and the decimal number of the layout is the one that
was laid out.
-/

namespace ActionFlow.Json

/-- A number as it is written, without its sign. -/
structure Numeral where
  /-- The digits before the point. -/
  whole : List Char
  /-- The digits after the point, which is left out when there are none. -/
  fraction : List Char
  /-- The sign and the digits of the power of ten. -/
  power : Option (Bool × List Char)

/-- The whole number that digits with a sign stand for. -/
def signedValue (negative : Bool) (digits : List Char) : Int :=
  if negative then -(decimalValue digits : Int) else decimalValue digits

/-- A text with a minus sign in front, or without. -/
def signed (negative : Bool) (cs : List Char) : List Char := if negative then '-' :: cs else cs

/-- What follows a text follows it with its sign as well. -/
theorem signed_append (negative : Bool) (cs rest : List Char) :
    signed negative cs ++ rest = signed negative (cs ++ rest) := by
  cases negative with
  | true => rfl
  | false => rfl

/-- A sign in front of a text that does not begin with one is split off. -/
theorem splitSign_signed {cs : List Char} (h : cs.head? ≠ some '-') (negative : Bool) :
    splitSign (signed negative cs) = (negative, cs) := by
  cases negative with
  | true => rfl
  | false =>
    unfold splitSign signed
    split
    · next hcons => exact absurd (congrArg List.head? hcons) h
    · rfl

/-- The digits of the size of a whole number stand for it with its sign. -/
theorem signedValue_of_natAbs {n : Int} {digits : List Char} (h : decimalValue digits = n.natAbs) :
    signedValue (n < 0) digits = n := by
  unfold signedValue
  rw [h]
  by_cases hneg : n < 0
  · rw [if_pos (decide_eq_true hneg)]
    omega
  · rw [if_neg (by simpa using hneg)]
    omega

/-- The text after a value: nothing, or the end or the next part of what holds the value. -/
def EndsValue (rest : List Char) : Prop := ∀ c ∈ rest.head?, c = ',' ∨ c = ']' ∨ c = '\x7d'

namespace Numeral

/-- The characters of a fraction. -/
def fractionChars (fraction : List Char) : List Char :=
  if fraction = [] then [] else '.' :: fraction

/-- The characters of a power of ten. -/
def powerChars : Option (Bool × List Char) → List Char
  | none => []
  | some (negative, digits) => 'e' :: (if negative then '-' else '+') :: digits

/-- The characters of a numeral. -/
def chars (n : Numeral) : List Char := n.whole ++ (fractionChars n.fraction ++ powerChars n.power)

/-- The power of ten of a numeral. -/
def exponent (n : Numeral) : Int :=
  (n.power.map fun (negative, digits) => signedValue negative digits).getD 0

/-- The decimal number of a numeral with a sign. -/
def decimal (n : Numeral) (negative : Bool) : Decimal :=
  .ofParts negative n.whole n.fraction n.exponent

/-- A numeral that the reader takes whole. -/
structure WellFormed (n : Numeral) : Prop where
  /-- There are digits before the point. -/
  nonempty : n.whole ≠ []
  /-- They are digits. -/
  whole : AllDigits n.whole
  /-- They are a lone zero or do not begin with one. -/
  leading : n.whole = ['0'] ∨ n.whole.head? ≠ some '0'
  /-- There are only digits after the point. -/
  fraction : AllDigits n.fraction
  /-- The power of ten is made of digits, of which there is one. -/
  power : ∀ negative digits, n.power = some (negative, digits) → AllDigits digits ∧ digits ≠ []

end Numeral

/-- Digits are taken up to what is no digit. -/
theorem spanDigits_append {digits rest : List Char} (h : AllDigits digits)
    (hr : NoDigitFirst rest) : spanDigits (digits ++ rest) = (digits, rest) := by
  have hnone : rest.takeWhile Text.isAsciiDigit = [] ∧ rest.dropWhile Text.isAsciiDigit = rest := by
    cases rest with
    | nil => exact ⟨rfl, rfl⟩
    | cons c tail =>
      have hc : ¬ Text.isAsciiDigit c = true := by simp [hr c rfl]
      exact ⟨List.takeWhile_cons_of_neg hc, List.dropWhile_cons_of_neg hc⟩
  unfold spanDigits
  rw [List.takeWhile_append_of_pos h, List.dropWhile_append_of_pos h, hnone.1, hnone.2,
    List.append_nil]

/-- Digits that are a lone zero, or do not begin with one, are read as a whole part. -/
theorem readWhole_append {digits rest : List Char} (hne : digits ≠ []) (h : AllDigits digits)
    (hleading : digits = ['0'] ∨ digits.head? ≠ some '0') (hr : NoDigitFirst rest) :
    readWhole (digits ++ rest) = some (digits, rest) := by
  have hspan := spanDigits_append h hr
  unfold readWhole
  split
  · next tail hcons =>
    rcases hleading with rfl | hhead
    · obtain rfl : rest = tail := (List.cons.inj hcons).2
      rfl
    · obtain ⟨c, others, rfl⟩ := List.exists_cons_of_ne_nil hne
      exact absurd (congrArg some (List.cons.inj hcons).1) hhead
  · rw [hspan]
    split
    · next hnil => exact absurd (congrArg Prod.fst hnil) hne
    · rfl

/-- Digits after a point are read as a fraction. -/
theorem readFraction_fractionChars {fraction rest : List Char} (h : AllDigits fraction)
    (hr : NoDigitFirst rest) (hpoint : rest.head? ≠ some '.') :
    readFraction (Numeral.fractionChars fraction ++ rest) =
      if fraction = [] then none else some (fraction, rest) := by
  unfold Numeral.fractionChars
  split
  · unfold readFraction
    split
    · next hcons => exact absurd (congrArg List.head? hcons) hpoint
    · rfl
  · next hne =>
    simp only [List.cons_append, readFraction, spanDigits_append h hr]
    split
    · next hnil => exact absurd (congrArg Prod.fst hnil) hne
    · rfl

/-- The letter of a power with its sign and digits is read as the power. -/
theorem readPower_powerChars {power : Option (Bool × List Char)} {rest : List Char}
    (h : ∀ negative digits, power = some (negative, digits) → AllDigits digits ∧ digits ≠ [])
    (hr : NoDigitFirst rest) (hletter : ∀ c ∈ rest.head?, c ≠ 'e' ∧ c ≠ 'E') :
    readPower (Numeral.powerChars power ++ rest) =
      power.map fun (negative, digits) => (signedValue negative digits, rest) := by
  cases power with
  | none =>
    unfold Numeral.powerChars readPower
    rw [List.nil_append]
    split
    · next letter tail =>
      obtain ⟨he, hE⟩ := hletter letter rfl
      rw [if_neg (by simp [he, hE])]
      rfl
    · rfl
  | some power =>
    obtain ⟨negative, digits⟩ := power
    obtain ⟨hdigits, hne⟩ := h negative digits rfl
    have hspan := spanDigits_append hdigits hr
    unfold Numeral.powerChars readPower
    dsimp only [List.cons_append]
    cases negative with
    | true =>
      simp only [if_true, beq_self_eq_true, Bool.true_or, hspan]
      rfl
    | false =>
      simp only [Bool.false_eq_true, if_false, beq_self_eq_true, Bool.true_or, if_true, hspan]
      rfl

/-- The value that a numeral is read as: a floating-point number when it has a fraction or a
power of ten. -/
def Numeral.value (n : Numeral) (negative : Bool) : Value :=
  if n.fraction = [] ∧ n.power = none then .int (signedValue negative n.whole)
  else .float (n.decimal negative).toBinary64

/-- What ends a value is no part of a number. -/
theorem EndsValue.ne {rest : List Char} (h : EndsValue rest) :
    NoDigitFirst rest ∧ rest.head? ≠ some '.' ∧ ∀ c ∈ rest.head?, c ≠ 'e' ∧ c ≠ 'E' := by
  have hall : ∀ c : Char, c = ',' ∨ c = ']' ∨ c = '\x7d' →
      Text.isAsciiDigit c = false ∧ c ≠ '.' ∧ c ≠ 'e' ∧ c ≠ 'E' := by
    rintro c (rfl | rfl | rfl) <;> decide
  refine ⟨fun c hc => (hall c (h c hc)).1, fun hpoint => ?_, fun c hc => (hall c (h c hc)).2.2⟩
  exact (hall '.' (h '.' hpoint)).2.1 rfl

/-- What follows a fraction, be it a power of ten or the end of the number, goes on with no
digit and no point. -/
theorem powerChars_append (power : Option (Bool × List Char)) {rest : List Char}
    (hdigit : NoDigitFirst rest) (hpoint : rest.head? ≠ some '.') :
    NoDigitFirst (Numeral.powerChars power ++ rest) ∧
      (Numeral.powerChars power ++ rest).head? ≠ some '.' := by
  cases power with
  | none => exact ⟨hdigit, hpoint⟩
  | some power =>
    refine ⟨fun c hc => ?_, fun hc => ?_⟩
    · obtain rfl : 'e' = c := Option.some.inj hc
      decide
    · cases hc

/-- A fraction begins with its point, which is no digit. -/
theorem fractionChars_append (fraction : List Char) {after : List Char} (h : NoDigitFirst after) :
    NoDigitFirst (Numeral.fractionChars fraction ++ after) := by
  unfold Numeral.fractionChars
  split
  · exact h
  · intro c hc
    obtain rfl : '.' = c := Option.some.inj hc
    decide

/-- The text after a fraction is the same whether there is one or not. -/
theorem getD_afterFraction (fraction after : List Char) :
    ((if fraction = [] then none else some (fraction, after)).map Prod.snd).getD
      (Numeral.fractionChars fraction ++ after) = after := by
  unfold Numeral.fractionChars
  by_cases hempty : fraction = []
  · rw [if_pos hempty, if_pos hempty]
    rfl
  · rw [if_neg hempty]
    rfl

/-- The characters of a numeral part by part, with what follows them. -/
theorem Numeral.chars_append (n : Numeral) (rest : List Char) :
    n.chars ++ rest = n.whole ++ (fractionChars n.fraction ++ (powerChars n.power ++ rest)) := by
  unfold Numeral.chars
  rw [List.append_assoc, List.append_assoc]

/-- A numeral begins with a digit and not with a sign. -/
theorem Numeral.WellFormed.head?_ne {n : Numeral} (hn : n.WellFormed) (rest : List Char) :
    (n.whole ++ rest).head? ≠ some '-' := by
  obtain ⟨c, others, hc⟩ := List.exists_cons_of_ne_nil hn.nonempty
  have hdigit := hn.whole c (hc ▸ List.mem_cons_self)
  rw [hc]
  intro hminus
  obtain rfl : c = '-' := Option.some.inj hminus
  exact absurd hdigit (by decide)

/-- A numeral is read as its value. -/
theorem readNumber_chars {n : Numeral} (hn : n.WellFormed) (negative : Bool) {rest : List Char}
    (hr : EndsValue rest)
    (hsize : n.fraction = [] → n.power = none → n.whole.length ≤ digitLimit) :
    readNumber (signed negative n.chars ++ rest) = .ok (n.value negative, rest) := by
  obtain ⟨hdigit, hpoint, hletter⟩ := hr.ne
  have hpower := readPower_powerChars hn.power hdigit hletter
  obtain ⟨hnextDigit, hnextPoint⟩ := powerChars_append n.power hdigit hpoint
  have hfraction := readFraction_fractionChars hn.fraction hnextDigit hnextPoint
  have hwhole := readWhole_append hn.nonempty hn.whole hn.leading
    (fractionChars_append n.fraction hnextDigit)
  rw [signed_append, n.chars_append]
  unfold readNumber
  simp only [splitSign_signed (hn.head?_ne _), hwhole, hfraction, getD_afterFraction, hpower]
  unfold Numeral.value Numeral.decimal Numeral.exponent
  by_cases hempty : n.fraction = []
  · cases hp : n.power with
    | none =>
      have hlimit : ¬ digitLimit < n.whole.length := Nat.not_lt.mpr (hsize hempty hp)
      simp only [hempty, if_true, Option.isNone_none, Option.map_none, Bool.and_self, hlimit,
        if_false, and_self, Numeral.powerChars, List.nil_append]
      rfl
    | some power =>
      simp only [hempty, if_true, Option.isNone_none, Option.map_some, Option.isNone_some,
        Bool.and_false, Bool.false_eq_true, if_false, reduceCtorEq, and_false, Option.getD_some,
        Option.map_none, Option.getD_none]
  · cases hp : n.power with
    | none =>
      simp only [hempty, if_false, Option.isNone_some, Bool.false_and, Bool.false_eq_true,
        false_and, Option.map_some, Option.getD_some, Option.map_none, Option.getD_none,
        Numeral.powerChars, List.nil_append]
    | some power =>
      simp only [hempty, if_false, Option.isNone_some, Bool.false_and, Bool.false_eq_true,
        false_and, Option.map_some, Option.getD_some]

/-- The digits of a whole number as a numeral. -/
def wholeNumeral (n : Nat) : Numeral := ⟨Nat.toDigits 10 n, [], none⟩

/-- The digits of a whole number are read whole. -/
theorem wholeNumeral_wellFormed (n : Nat) : (wholeNumeral n).WellFormed := by
  refine ⟨Nat.toDigits_ne_nil, allDigits_toDigits n, ?_, nofun, nofun⟩
  by_cases hn : n = 0
  · subst hn
    exact .inl (Nat.toDigits_zero 10)
  · exact .inr (head?_toDigits_ne_zero hn)

/-- A whole number is written with its sign and the digits of its size. -/
theorem toString_toList (n : Int) :
    (toString n).toList = signed (n < 0) (wholeNumeral n.natAbs).chars := by
  have hchars : ∀ size : Nat, (wholeNumeral size).chars = Nat.toDigits 10 size := by
    intro size
    simp only [wholeNumeral, Numeral.chars, Numeral.fractionChars, Numeral.powerChars, if_true,
      List.append_nil]
  rw [hchars]
  cases n with
  | ofNat size =>
    have hsign : ¬ (Int.ofNat size < 0) := by simp
    simp only [hsign, decide_false, signed]
    exact String.toList_ofList
  | negSucc size =>
    have hsign : Int.negSucc size < 0 := Int.negSucc_lt_zero size
    simp only [hsign, decide_true, signed, if_true]
    have happend : (toString (Int.negSucc size)).toList =
        "-".toList ++ (String.ofList (Nat.toDigits 10 (size + 1))).toList := String.toList_append
    exact happend.trans (congrArg ('-' :: ·) String.toList_ofList)

/-- A whole number is read back, when it does not have more digits than are taken. -/
theorem readNumber_int {n : Int} (hn : (Nat.toDigits 10 n.natAbs).length ≤ digitLimit)
    {rest : List Char} (hr : EndsValue rest) :
    readNumber ((toString n).toList ++ rest) = .ok (.int n, rest) := by
  have hvalue : (wholeNumeral n.natAbs).value (n < 0) = .int n := by
    have hsize := signedValue_of_natAbs (decimalValue_toDigits n.natAbs)
    simp only [wholeNumeral, Numeral.value, and_self, if_true, hsize]
  rw [toString_toList, ← hvalue]
  exact readNumber_chars (wholeNumeral_wellFormed _) _ hr fun _ _ => hn

/-- The numeral that digits around a decimal point are laid out as. -/
def layoutNumeral (digits : List Char) (point : Int) : Numeral :=
  if -4 < point ∧ point ≤ 16 then
    if point ≤ 0 then ⟨['0'], List.replicate (-point).toNat '0' ++ digits, none⟩
    else if digits.length ≤ point.toNat then
      ⟨digits ++ List.replicate (point.toNat - digits.length) '0', ['0'], none⟩
    else ⟨digits.take point.toNat, digits.drop point.toNat, none⟩
  else
    let power := Nat.toDigits 10 (point - 1).natAbs
    ⟨digits.take 1, digits.drop 1,
      some (point - 1 < 0, if power.length < 2 then '0' :: power else power)⟩

/-- Laid out digits are the characters of the numeral. -/
theorem layoutNumeral_chars {digits : List Char} (hne : digits ≠ []) (point : Int) :
    (layoutNumeral digits point).chars = layoutDigits digits point := by
  unfold layoutNumeral layoutDigits
  split
  · split
    · have hfraction : List.replicate (-point).toNat '0' ++ digits ≠ [] := by simp [hne]
      simp only [Numeral.chars, Numeral.fractionChars, hfraction, if_false, Numeral.powerChars,
        List.append_nil]
      rfl
    · split
      · simp [Numeral.chars, Numeral.fractionChars, Numeral.powerChars]
      · next hlong =>
        have hfraction : digits.drop point.toNat ≠ [] := by
          rw [Ne, List.drop_eq_nil_iff]
          omega
        simp only [Numeral.chars, Numeral.fractionChars, hfraction, if_false, Numeral.powerChars,
          List.append_nil]
  · obtain ⟨d, rest, rfl⟩ := List.exists_cons_of_ne_nil hne
    cases rest with
    | nil => simp [Numeral.chars, Numeral.fractionChars, Numeral.powerChars]
    | cons e others => simp [Numeral.chars, Numeral.fractionChars, Numeral.powerChars]

/-- The digits of the power of ten, filled up to two, stand for its size. -/
theorem paddedPower (size : Nat) :
    let digits := Nat.toDigits 10 size
    let padded := if digits.length < 2 then '0' :: digits else digits
    AllDigits padded ∧ padded ≠ [] ∧ decimalValue padded = size := by
  intro digits padded
  have hdigits : AllDigits digits := allDigits_toDigits size
  unfold padded
  split
  · refine ⟨(allDigits_replicate 1).append hdigits, List.cons_ne_nil _ _, ?_⟩
    exact (decimalValue_replicate_append 1 digits).trans (decimalValue_toDigits size)
  · exact ⟨hdigits, Nat.toDigits_ne_nil, decimalValue_toDigits size⟩

/-- Laid out digits are a numeral that is read whole, if they do not begin with a zero. -/
theorem layoutNumeral_wellFormed {digits : List Char} (hne : digits ≠ [])
    (hdigits : AllDigits digits) (hhead : digits.head? ≠ some '0') (point : Int) :
    (layoutNumeral digits point).WellFormed := by
  obtain ⟨d, others, rfl⟩ := List.exists_cons_of_ne_nil hne
  unfold layoutNumeral
  split
  · split
    · exact ⟨List.cons_ne_nil _ _, allDigits_replicate 1, .inl rfl,
        (allDigits_replicate _).append hdigits, nofun⟩
    · next hpositive =>
      split
      · exact ⟨List.cons_ne_nil _ _, hdigits.append (allDigits_replicate _), .inr hhead,
          allDigits_replicate 1, nofun⟩
      · obtain ⟨count, hcount⟩ : ∃ count, point.toNat = count + 1 :=
          Nat.exists_eq_add_of_lt (by omega : 0 < point.toNat) |>.imp fun k hk => by omega
        rw [hcount]
        exact ⟨List.cons_ne_nil _ _, hdigits.sublist (List.take_sublist _ _), .inr hhead,
          hdigits.sublist (List.drop_sublist _ _), nofun⟩
  · obtain ⟨hpadded, hpower, -⟩ := paddedPower (point - 1).natAbs
    refine ⟨List.cons_ne_nil _ _, hdigits.sublist (List.take_sublist _ _), .inr hhead,
      hdigits.sublist (List.drop_sublist _ _), fun negative power h => ?_⟩
    obtain ⟨-, rfl⟩ := Prod.mk.inj (Option.some.inj h)
    exact ⟨hpadded, hpower⟩

/-- The numeral of laid out digits is the decimal number that is laid out. -/
theorem layoutNumeral_toBinary64 {digits : List Char} (hne : digits ≠ []) (point : Int)
    (negative : Bool) :
    ((layoutNumeral digits point).decimal negative).toBinary64 =
      Decimal.toBinary64 ⟨negative, decimalValue digits, point - digits.length⟩ := by
  have hlength : 0 < digits.length := List.length_pos_iff.mpr hne
  unfold layoutNumeral Numeral.decimal Decimal.ofParts Numeral.exponent
  split
  · split
    · have hdigits : decimalValue (['0'] ++ (List.replicate (-point).toNat '0' ++ digits)) =
          decimalValue digits :=
        (decimalValue_replicate_append 1 _).trans (decimalValue_replicate_append _ digits)
      have hexponent : (0 : Int) - (List.replicate (-point).toNat '0' ++ digits).length =
          point - digits.length := by
        rw [List.length_append, List.length_replicate]
        omega
      dsimp only [Option.map_none, Option.getD_none]
      rw [hdigits, hexponent]
    · split
      · have hdigits : decimalValue
            (digits ++ List.replicate (point.toNat - digits.length) '0' ++ ['0']) =
            decimalValue digits * 10 ^ (point.toNat - digits.length + 1) := by
          rw [List.append_assoc, ← List.replicate_succ', decimalValue_append_replicate]
        have hexponent : (0 : Int) - (['0'] : List Char).length +
            (point.toNat - digits.length + 1 : Nat) = point - digits.length := by
          rw [List.length_singleton]
          omega
        dsimp only [Option.map_none, Option.getD_none]
        rw [hdigits, Decimal.toBinary64_mul_pow, hexponent]
      · have hexponent : (0 : Int) - (digits.drop point.toNat).length = point - digits.length := by
          rw [List.length_drop]
          omega
        dsimp only [Option.map_none, Option.getD_none]
        rw [List.take_append_drop, hexponent]
  · have hpower := signedValue_of_natAbs (paddedPower (point - 1).natAbs).2.2
    have hexponent : point - 1 - (digits.drop 1).length = point - digits.length := by
      rw [List.length_drop]
      omega
    dsimp only [Option.map_some, Option.getD_some]
    rw [List.take_append_drop, hpower, hexponent]

/-- Laid out digits have a fraction or a power of ten. -/
theorem layoutNumeral_isFloat {digits : List Char} (hne : digits ≠ []) (point : Int) :
    ¬ ((layoutNumeral digits point).fraction = [] ∧ (layoutNumeral digits point).power = none) := by
  unfold layoutNumeral
  split
  · split
    · simp [hne]
    · split
      · simp
      · next hlong =>
        rintro ⟨hfraction, -⟩
        have h := List.drop_eq_nil_iff.mp hfraction
        omega
  · simp

/-- The numeral of a magnitude. -/
def magnitudeNumeral (m : Magnitude) : Numeral :=
  if m.significand = 0 then ⟨['0'], ['0'], none⟩
  else
    let trimmed := trimZeros (Nat.toDigits 10 m.shortestDecimal.digits)
    layoutNumeral trimmed.1 (trimmed.1.length + trimmed.2 + m.shortestDecimal.exponent)

/-- The numeral of a magnitude is read whole, as a floating-point number, which is the
magnitude with the sign in front. -/
theorem magnitudeNumeral_spec (m : Magnitude) :
    (magnitudeNumeral m).chars = Binary64.magnitudeText m ∧ (magnitudeNumeral m).WellFormed ∧
      ∀ negative, (magnitudeNumeral m).value negative = .float (.finite negative m) := by
  unfold magnitudeNumeral Binary64.magnitudeText
  by_cases hm : m.significand = 0
  · rw [if_pos hm, if_pos hm]
    refine ⟨rfl, ⟨List.cons_ne_nil _ _, allDigits_replicate 1, .inl rfl, allDigits_replicate 1,
      nofun⟩, fun negative => ?_⟩
    have hzero : m = .zero := by
      obtain ⟨significand, scale, hcanonical⟩ := m
      obtain rfl : significand = 0 := hm
      obtain rfl : scale = 0 := hcanonical.2.2.resolve_left (by decide)
      rfl
    rw [hzero]
    rfl
  · rw [if_neg hm, if_neg hm]
    have hread := m.shortestDecimal_toBinary64 hm
    have hdigits := Decimal.digits_ne_zero_of_toBinary64 hread hm
    have hsign := Decimal.negative_of_toBinary64 hread
    obtain ⟨hall, hne, hhead⟩ := trimZeros_toDigits hdigits
    have hvalue := decimalValue_trimZeros (Nat.toDigits 10 m.shortestDecimal.digits)
    rw [decimalValue_toDigits] at hvalue
    dsimp only
    generalize m.shortestDecimal = d at hread hdigits hsign hall hne hhead hvalue ⊢
    generalize trimZeros (Nat.toDigits 10 d.digits) = trimmed at hall hne hhead hvalue ⊢
    obtain ⟨kept, zeros⟩ := trimmed
    obtain ⟨_, digits, exponent⟩ := d
    dsimp only at hdigits hsign hall hne hhead hvalue ⊢
    subst hsign
    refine ⟨layoutNumeral_chars hne _, layoutNumeral_wellFormed hne hall hhead _,
      fun negative => ?_⟩
    have hexponent : (kept.length : Int) + zeros + exponent - kept.length = exponent + zeros := by
      omega
    unfold Numeral.value
    rw [if_neg (layoutNumeral_isFloat hne _), layoutNumeral_toBinary64 hne, hexponent,
      ← Decimal.toBinary64_mul_pow, hvalue]
    exact congrArg Value.float
      ((Decimal.toBinary64_eq_finite_iff negative hdigits exponent m).mpr hread)

/-- A finite number is read back. -/
theorem readNumber_finite (negative : Bool) (m : Magnitude) {rest : List Char}
    (hr : EndsValue rest) :
    readNumber (signed negative (Binary64.magnitudeText m) ++ rest) =
      .ok (.float (.finite negative m), rest) := by
  obtain ⟨hchars, hwell, hvalue⟩ := magnitudeNumeral_spec m
  rw [← hchars, ← hvalue negative]
  refine readNumber_chars hwell negative hr fun hfraction hpower => ?_
  have hint := hvalue negative
  unfold Numeral.value at hint
  rw [if_pos ⟨hfraction, hpower⟩] at hint
  cases hint

end ActionFlow.Json
