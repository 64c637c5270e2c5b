import ActionFlow.Json.Writer
import ActionFlow.Json.Reader

/-!
# Strings in JSON

What is written for a text is read as the text. A character is written as itself, as a letter
after a backslash, as one UTF-16 unit or as two of them, and each of these is read as the
character; the two units of a pair are read together, and no single unit that is written
belongs to a pair.
-/

namespace ActionFlow.Text

/-- The last of padded hexadecimal digits stands for the remainder. -/
theorem hexPadded_succ {width : Nat} (hwidth : 0 < width) (code : Nat) :
    hexPadded (width + 1) code = hexPadded width (code / 16) ++ [Nat.digitChar (code % 16)] := by
  unfold hexPadded
  dsimp only
  by_cases hsmall : code < 16
  · have hzeros : List.replicate (width - 1) '0' ++ ['0'] = List.replicate width '0' := by
      rw [← List.replicate_succ', Nat.sub_add_cancel hwidth]
    rw [Nat.div_eq_of_lt hsmall, Nat.mod_eq_of_lt hsmall, Nat.toDigits_of_lt_base hsmall,
      Nat.toDigits_zero, List.length_singleton, List.length_singleton, hzeros,
      Nat.add_sub_cancel]
  · rw [Nat.toDigits_of_base_le (by decide) (Nat.not_lt.mp hsmall), List.length_append,
      List.length_singleton, Nat.add_sub_add_right, List.append_assoc]

/-- Four padded hexadecimal digits are the digits of the code. -/
theorem hexPadded_four {code : Nat} (h : code < 65536) :
    hexPadded 4 code = [Nat.digitChar (code / 4096), Nat.digitChar (code / 256 % 16),
      Nat.digitChar (code / 16 % 16), Nat.digitChar (code % 16)] := by
  have hfirst : code / 16 / 16 / 16 < 16 := by omega
  have hone : hexPadded 1 (code / 16 / 16 / 16) = [Nat.digitChar (code / 16 / 16 / 16)] := by
    unfold hexPadded
    rw [Nat.toDigits_of_lt_base hfirst]
    rfl
  rw [hexPadded_succ (by decide), hexPadded_succ (by decide), hexPadded_succ (by decide), hone,
    Nat.div_div_eq_div_mul, Nat.div_div_eq_div_mul, Nat.div_div_eq_div_mul]
  rfl

/-- A hexadecimal digit stands for its value. -/
theorem hexDigit?_digitChar {d : Nat} (h : d < 16) : hexDigit? (Nat.digitChar d) = some d := by
  have hall : ∀ d, d < 16 → hexDigit? (Nat.digitChar d) = some d := by decide
  exact hall d h

end ActionFlow.Text

namespace ActionFlow.Json

/-- The four digits of a unit stand for it. -/
theorem hexUnit?_digits {code : Nat} (h : code < 65536) :
    hexUnit? (Nat.digitChar (code / 4096)) (Nat.digitChar (code / 256 % 16))
      (Nat.digitChar (code / 16 % 16)) (Nat.digitChar (code % 16)) = some code := by
  unfold hexUnit?
  rw [Text.hexDigit?_digitChar (by omega), Text.hexDigit?_digitChar (by omega),
    Text.hexDigit?_digitChar (by omega), Text.hexDigit?_digitChar (by omega)]
  refine congrArg some ?_
  omega

section Steps

variable (opening done : List Char)

/-- The closing mark ends a string. -/
theorem readString_close (rest : List Char) :
    readString opening done ('"' :: rest) = .ok (done.reverse, rest) := by
  rw [readString.eq_def]
  rfl

/-- A character that is no mark, no backslash and no control character stands for itself. -/
theorem readString_plain {c : Char} (hmark : c ≠ '"') (hslash : c ≠ '\\')
    (hcontrol : ¬ c.toNat ≤ 0x1F) (rest : List Char) :
    readString opening done (c :: rest) = readString opening (c :: done) rest := by
  rw [readString.eq_def]
  simp [hslash, hcontrol]

/-- A letter after a backslash stands for its character. -/
theorem readString_letter {letter c : Char} (hu : letter ≠ 'u') (h : escaped? letter = some c)
    (rest : List Char) :
    readString opening done ('\\' :: letter :: rest) = readString opening (c :: done) rest := by
  rw [readString.eq_def]
  simp [hu, h]

/-- A unit that is no half of a pair stands for its character. -/
theorem readString_unit {a b c d : Char} {code : Nat} (h : hexUnit? a b c d = some code)
    (hsingle : isHighUnit code = false) {next : Char} (after : List Char) :
    readString opening done ('\\' :: 'u' :: a :: b :: c :: d :: next :: after) =
      readString opening (unitChar code :: done) (next :: after) := by
  rw [readString.eq_def]
  simp [h, hsingle]

/-- Two units that are a pair stand for one character. -/
theorem readString_pair {a b c d e f g h : Char} {high low : Nat}
    (hfirst : hexUnit? a b c d = some high) (hsecond : hexUnit? e f g h = some low)
    (hhigh : isHighUnit high = true) (hlow : isLowUnit low = true) {next : Char}
    (after : List Char) :
    readString opening done
        ('\\' :: 'u' :: a :: b :: c :: d :: '\\' :: 'u' :: e :: f :: g :: h :: next :: after) =
      readString opening
        (Char.ofNat (0x10000 + (high - 0xD800) * 0x400 + (low - 0xDC00)) :: done)
        (next :: after) := by
  rw [readString.eq_def]
  simp [hfirst, hsecond, hhigh, hlow]

/-- A unit as it is written is four digits after its mark. -/
theorem escapeUnit_append {code : Nat} (h : code < 65536) (rest : List Char) :
    escapeUnit code ++ rest =
      '\\' :: 'u' :: Nat.digitChar (code / 4096) :: Nat.digitChar (code / 256 % 16) ::
        Nat.digitChar (code / 16 % 16) :: Nat.digitChar (code % 16) :: rest := by
  unfold escapeUnit
  rw [Text.hexPadded_four h]
  rfl

/-- A character of one unit is read back from its unit: a character is no half of a pair, so
its unit stands for itself. -/
theorem readString_oneUnit {c : Char} (h : c.toNat < 65536) (next : Char) (after : List Char) :
    readString opening done (escapeUnit c.toNat ++ next :: after) =
      readString opening (c :: done) (next :: after) := by
  have hvalid : c.toNat < 0xD800 ∨ 0xDFFF < c.toNat ∧ c.toNat < 0x110000 := c.valid
  have hhigh : isHighUnit c.toNat = false := by
    rw [isHighUnit, Bool.and_eq_false_iff, decide_eq_false_iff_not, decide_eq_false_iff_not]
    omega
  have hlow : isLowUnit c.toNat = false := by
    rw [isLowUnit, Bool.and_eq_false_iff, decide_eq_false_iff_not, decide_eq_false_iff_not]
    omega
  rw [escapeUnit_append h, readString_unit _ _ (hexUnit?_digits h) hhigh]
  unfold unitChar
  rw [hhigh, hlow, Char.ofNat_toNat]
  rfl

/-- A character of two units is read back from the two: the first is the first half of a pair
and the second the second half, and together they give the code. -/
theorem readString_twoUnits {c : Char} (h : ¬ c.toNat < 65536) (next : Char)
    (after : List Char) :
    readString opening done (escapeUnit (0xD800 + (c.toNat - 0x10000) / 0x400) ++
        escapeUnit (0xDC00 + (c.toNat - 0x10000) % 0x400) ++ next :: after) =
      readString opening (c :: done) (next :: after) := by
  have hvalid : c.toNat < 0xD800 ∨ 0xDFFF < c.toNat ∧ c.toNat < 0x110000 := c.valid
  have hhigh : 0xD800 + (c.toNat - 0x10000) / 0x400 < 0xDC00 := by omega
  have hlow : 0xDC00 + (c.toNat - 0x10000) % 0x400 < 0xE000 := by omega
  have hhighUnit : isHighUnit (0xD800 + (c.toNat - 0x10000) / 0x400) = true := by
    rw [isHighUnit, Bool.and_eq_true, decide_eq_true_iff, decide_eq_true_iff]
    omega
  have hlowUnit : isLowUnit (0xDC00 + (c.toNat - 0x10000) % 0x400) = true := by
    rw [isLowUnit, Bool.and_eq_true, decide_eq_true_iff, decide_eq_true_iff]
    omega
  have hcode : 0x10000 + (0xD800 + (c.toNat - 0x10000) / 0x400 - 0xD800) * 0x400 +
      (0xDC00 + (c.toNat - 0x10000) % 0x400 - 0xDC00) = c.toNat := by omega
  rw [List.append_assoc, escapeUnit_append (by omega), escapeUnit_append (by omega),
    readString_pair _ _ (hexUnit?_digits (by omega)) (hexUnit?_digits (by omega)) hhighUnit
      hlowUnit, hcode, Char.ofNat_toNat]

/-- A written character is read as the character, when something follows it. -/
theorem readString_escapeChar (c next : Char) (after : List Char) :
    readString opening done (escapeChar c ++ next :: after) =
      readString opening (c :: done) (next :: after) := by
  have hchar : Char.ofNat c.toNat = c := Char.ofNat_toNat c
  unfold escapeChar
  split
  · next h =>
    obtain rfl : c = '"' := by simpa using h
    exact readString_letter _ _ (by decide) rfl _
  split
  · next h =>
    obtain rfl : c = '\\' := by simpa using h
    exact readString_letter _ _ (by decide) rfl _
  split
  · next h =>
    obtain rfl : c = '\n' := by simpa using h
    exact readString_letter _ _ (by decide) rfl _
  split
  · next h =>
    obtain rfl : c = '\r' := by simpa using h
    exact readString_letter _ _ (by decide) rfl _
  split
  · next h =>
    obtain rfl : c = '\t' := by simpa using h
    exact readString_letter _ _ (by decide) rfl _
  split
  · next h =>
    rw [h] at hchar
    rw [← hchar]
    exact readString_letter _ _ (by decide) rfl _
  split
  · next h =>
    rw [h] at hchar
    rw [← hchar]
    exact readString_letter _ _ (by decide) rfl _
  split
  · next hmark hslash _ _ _ _ _ h =>
    refine readString_plain _ _ (by simpa using hmark) (by simpa using hslash) ?_ _
    have hplain : 0x20 ≤ c.toNat ∧ c.toNat < 0x7F := by simpa using h
    omega
  split
  · next h => exact readString_oneUnit _ _ h _ _
  · next h => exact readString_twoUnits _ _ h _ _

end Steps

/-- The characters of a written text, with the closing mark, are read as the text. -/
theorem readString_flatMap (opening : List Char) (s done rest : List Char) :
    readString opening done (s.flatMap escapeChar ++ '"' :: rest) =
      .ok (done.reverse ++ s, rest) := by
  induction s generalizing done with
  | nil => rw [List.flatMap_nil, List.nil_append, readString_close, List.append_nil]
  | cons c s ih =>
    obtain ⟨next, after, hnext⟩ : ∃ next after,
        s.flatMap escapeChar ++ '"' :: rest = next :: after := List.exists_cons_of_ne_nil (by simp)
    rw [List.flatMap_cons, List.append_assoc, hnext, readString_escapeChar, ← hnext, ih,
      List.reverse_cons, List.append_assoc]
    rfl

end ActionFlow.Json
