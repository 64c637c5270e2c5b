import ActionFlow.Text.CharacterName.Run
import ActionFlow.Text.CodeRanges
import ActionFlow.Text.Numeral

/-!
# Names that follow a rule

Some characters are not named one by one. They are named by their codes in hexadecimal
digits, by their numbers in a series, or by the dots of a Braille cell.
-/

namespace ActionFlow.Text

/-- Characters that are named by their codes. -/
structure CodeSeries where
  /-- What all names begin with. -/
  opening : String
  /-- The boundaries of the ranges of codes. -/
  boundaries : List Nat

/-- Characters whose names in any case of letters tell their codes. -/
def codeSeries : List CodeSeries := [
  ⟨"CJK COMPATIBILITY IDEOGRAPH-",
    [0xF900, 0xFA6E, 0xFA70, 0xFADA, 0x2F800, 0x2FA1E]⟩,
  ⟨"KHITAN SMALL SCRIPT CHARACTER-", [0x18B00, 0x18CD6]⟩,
  ⟨"NUSHU CHARACTER-", [0x1B170, 0x1B2FC]⟩]

/-- The code that four or five hexadecimal digits in upper case write within ranges; no
fifth digit is a zero in front. -/
def writtenCode? (boundaries : List Nat) (digits : List Char) : Option Nat :=
  if (digits.length = 4 ∨ (digits.length = 5 ∧ digits.head? ≠ some '0')) ∧
      digits.all fun c => isHexDigit c && !c.isLower then
    let code := digits.foldl (fun code c => 16 * code + (hexDigit? c).getD 0) 0
    if inRanges boundaries code then some code else none
  else none

/-- The code of the character of a series that a name names. -/
def CodeSeries.codeOf? (series : CodeSeries) (name : List Char) : Option Nat :=
  (afterOpening? series.opening.toList name).bind (writtenCode? series.boundaries)

/-- Characters that follow one another and are numbered. -/
structure NumberSeries where
  /-- What all names begin with. -/
  opening : String
  /-- The code of the first character. -/
  first : Nat
  /-- The number of the first character. -/
  least : Nat
  /-- The number of the last character. -/
  most : Nat
  /-- The least number of digits. -/
  width : Nat

/-- The numbered characters. -/
def numberSeries : List NumberSeries := [
  ⟨"TANGUT COMPONENT-", 0x18800, 1, 768, 3⟩,
  ⟨"VARIATION SELECTOR-", 0xFE00, 1, 16, 1⟩,
  ⟨"VARIATION SELECTOR-", 0xE0100, 17, 256, 1⟩,
  ⟨"VS", 0xFE00, 1, 16, 1⟩,
  ⟨"VS", 0xE0100, 17, 256, 1⟩]

/-- A number in decimal digits, with zeros in front up to a width. -/
def paddedDigits (width number : Nat) : List Char :=
  let digits := Nat.toDigits 10 number
  List.replicate (width - digits.length) '0' ++ digits

/-- The code of the character of a series that a name names. -/
def NumberSeries.codeOf? (series : NumberSeries) (name : List Char) : Option Nat := do
  let digits ← afterOpening? series.opening.toList name
  let place ← (List.range (series.most + 1 - series.least)).find? fun place =>
    paddedDigits series.width (series.least + place) == digits
  pure (series.first + place)

/-- The code of a Braille pattern by its dots, of which each adds one bit and which go up. -/
def brailleCode? (name : List Char) : Option Nat :=
  if name = "BRAILLE PATTERN BLANK".toList then some 0x2800
  else do
    let dots ← afterOpening? "BRAILLE PATTERN DOTS-".toList name
    if dots ≠ [] ∧ dots.all (fun c => '1' ≤ c ∧ c ≤ '8') ∧ dots.Pairwise (· < ·) then
      pure (0x2800 + dots.foldl (fun bits c => bits + Nat.pow 2 (c.toNat - '1'.toNat)) 0)
    else none

/-- The code of a character whose name in upper case follows a rule. -/
def ruledCode? (name : List Char) : Option Nat :=
  ((codeSeries.findSome? (·.codeOf? name)).or (numberSeries.findSome? (·.codeOf? name))).or
    (brailleCode? name)

end ActionFlow.Text
