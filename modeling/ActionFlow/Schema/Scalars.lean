import ActionFlow.Schema.Checked
import ActionFlow.Flow.Document
import ActionFlow.Number.Decimal
import ActionFlow.Text.Blank
import ActionFlow.Text.Numeral
import ActionFlow.Text.Search

/-!
# Reading scalars leniently

A document may spell a truth value or a number in other ways than its own: as a text, as
a number of the other form, as a truth value. Texts are only ever texts. Where several
types are allowed, a value keeps the type it has.
-/

namespace ActionFlow.Schema

/-- A text. -/
def readText : Reader String
  | .text s => .accepted s
  | _ => .problem .notText

/-- One of some words. -/
def readWord {α : Type} (refuse : List String → Problem) (known : List (String × α)) : Reader α
  | .text s =>
    match known.lookup s with
    | some a => .accepted a
    | none => .problem (refuse (known.map Prod.fst))
  | _ => .problem (refuse (known.map Prod.fst))

/-- An ASCII text in lower case; other characters stay. -/
def lowerAscii (text : List Char) : List Char := text.map Char.toLower

/-- The truth value that a text spells. -/
def boolOfText? (text : List Char) : Option Bool :=
  let word := String.ofList (lowerAscii text)
  if ["1", "t", "true", "y", "yes", "on"].contains word then some true
  else if ["0", "f", "false", "n", "no", "off"].contains word then some false
  else none

/-- The truth value that zero or one stands for. -/
def boolOfInt (n : Int) : Checked Bool :=
  if n = 0 then .accepted false
  else if n = 1 then .accepted true
  else .problem .unreadableBool

/-- The first whole number above those of a signed 64-bit word. -/
def wordBound : Int := 9223372036854775808

/-- Whether a whole number, given exactly, lies strictly between the ends of a signed
64-bit word. -/
def fitsWord (n : Int) : Bool := -wordBound < n && n < wordBound

/-- A truth value, or a spelling of one. -/
def readBool : Reader Bool
  | .bool b => .accepted b
  | .text s =>
    match boolOfText? s.toList with
    | some b => .accepted b
    | none => .problem .unreadableBool
  | .int n => if n = -wordBound || fitsWord n then boolOfInt n else .problem .notBool
  | .float x =>
    match x.toInt? with
    | some n => if fitsWord n then boolOfInt n else .problem .notBool
    | none => .problem .notBool
  | _ => .problem .notBool

/-- The sign in front of a text and the text after it. -/
def splitSign : List Char → Bool × List Char
  | '-' :: rest => (true, rest)
  | '+' :: rest => (false, rest)
  | text => (false, text)

/-- A text without its single inner low lines, when it has any. -/
def dropLowLines? (text : List Char) : Option (List Char) :=
  if text.head? = some '_' ∨ text.getLast? = some '_' ∨ Text.occursIn ['_', '_'] text ∨
      !text.contains '_' then none
  else some (text.filter (· != '_'))

/-- What is found where a whole number is read off a text. -/
inductive Numeral where
  /-- The text is a whole number. -/
  | whole (n : Int)
  /-- The text begins with more digits than are read. -/
  | excessive
  /-- The text is no whole number, or more than one. -/
  | foreign
deriving DecidableEq, Repr

/-- The most digits that a whole number has. -/
def longestNumeral : Nat := 4300

/-- Reads a text as it stands: perhaps a minus sign, then a zero alone or digits with no
zero in front. The digits are counted before what follows them is looked at. -/
def numeralOf (text : List Char) : Numeral :=
  let (negative, unsigned) := match text with
    | '-' :: rest => (true, rest)
    | rest => (false, rest)
  let digits := unsigned.takeWhile Text.isAsciiDigit
  if unsigned = ['0'] then .whole 0
  else if digits = [] ∨ digits.head? = some '0' then .foreign
  else if longestNumeral < digits.length then .excessive
  else if digits.length = unsigned.length then
    let size : Int := decimalValue digits
    .whole (if negative then -size else size)
  else .foreign

/-- A text without the zeros in front of a number; low lines among the zeros go with
them. A zero stays in front of a point and at the end of the text. -/
def dropLeadingZeros? : List Char → Option (List Char)
  | [] => none
  | '0' :: rest =>
    let isFiller (c : Char) : Bool := c = '0' || c = '_'
    match rest.dropWhile isFiller with
    | [] => some [rest.getLast?.getD '0']
    | '.' :: fraction => some ((rest.takeWhile isFiller).getLast?.getD '0' :: '.' :: fraction)
    | c :: digits => if c = '-' || Text.isAsciiDigit c then some (c :: digits) else none
  | c :: digits => if c = '-' || Text.isAsciiDigit c then some (c :: digits) else none

/-- A text without a point and zeros at its end. -/
def dropZeroFraction (text : List Char) : List Char :=
  let fraction := (text.dropWhile (· != '.')).drop 1
  if fraction ≠ [] ∧ fraction.all (· == '0') then text.takeWhile (· != '.') else text

/-- The bare number in a text: no blanks around it, no plus sign, no zeros in front or
between the minus sign and the digits, no zeros after a point, no single low lines. -/
def bareNumeral? (text : List Char) : Option (List Char) :=
  let withoutZeros := match Text.trim Text.isBlank text with
    | '-' :: rest => (dropLeadingZeros? rest).map ('-' :: ·)
    | '+' :: '-' :: _ => none
    | '+' :: rest => dropLeadingZeros? rest
    | rest => dropLeadingZeros? rest
  withoutZeros.map fun digits =>
    let whole := dropZeroFraction digits
    (dropLowLines? whole).getD whole

/-- The whole number that a text spells, as it stands or once it is made bare. That there
are too many digits counts only for a text as it stands. -/
def readIntText (text : List Char) : Checked Int :=
  match numeralOf text with
  | .whole n => .accepted n
  | .excessive => .problem .tooLarge
  | .foreign =>
    match (bareNumeral? text).map numeralOf with
    | some (.whole n) => .accepted n
    | _ => .problem .unreadableInt

/-- A whole number, or a spelling of one. -/
def readInt : Reader Int
  | .int n => .accepted n
  | .bool b => .accepted (if b then 1 else 0)
  | .text s => readIntText s.toList
  | .float x =>
    if !x.isFinite then .problem .notFinite
    else
      match x.toInt? with
      | some n => if fitsWord n then .accepted n else .problem .tooLarge
      | none => .problem .fractional
  | _ => .problem .notInt

/-- The decimal number that an unsigned text spells: digits with at most one point among
or around them, then perhaps an exponent. -/
def decimalOfText? (negative : Bool) (text : List Char) : Option Decimal :=
  let whole := text.takeWhile Text.isAsciiDigit
  let afterWhole := text.dropWhile Text.isAsciiDigit
  let (fraction, afterFraction) := match afterWhole with
    | '.' :: rest => (rest.takeWhile Text.isAsciiDigit, rest.dropWhile Text.isAsciiDigit)
    | rest => ([], rest)
  if whole = [] ∧ fraction = [] then none
  else
    match afterFraction with
    | [] => some (.ofParts negative whole fraction 0)
    | letter :: rest =>
      let (powerNegative, digits) := splitSign rest
      if (letter = 'e' ∨ letter = 'E') ∧ digits ≠ [] ∧ digits.all Text.isAsciiDigit then
        let size : Int := decimalValue digits
        some (.ofParts negative whole fraction (if powerNegative then -size else size))
      else none

/-- The floating-point number that a text spells, in digits or in a word. -/
def floatOfText? (text : List Char) : Option Binary64 :=
  let (negative, unsigned) := splitSign text
  let word := String.ofList (lowerAscii unsigned)
  if word = "nan" then some (.nan .text)
  else if word = "inf" ∨ word = "infinity" then some (.infinite negative)
  else (decimalOfText? negative unsigned).map Decimal.toBinary64

/-- A floating-point number, or a spelling of one. A whole number is rounded to the
nearest one, and refused when none is near. -/
def readFloat : Reader Binary64
  | .float x => .accepted x
  | .bool b => .accepted (.ofInt (if b then 1 else 0))
  | .int n => if (Binary64.ofInt n).isFinite then .accepted (.ofInt n) else .problem .notNumber
  | .text s =>
    match (floatOfText? (Text.trim Text.isBlank s.toList)).or
        ((dropLowLines? s.toList).bind floatOfText?) with
    | some x => .accepted x
    | none => .problem .unreadableNumber
  | _ => .problem .notNumber

/-- A value of none of several types, with one issue for each type that was tried. -/
def noneOf {α : Type} (tried : List (String × Problem)) : Checked α :=
  .refused (tried.map fun (name, problem) => ⟨[.key name], problem⟩)

/-- A scalar of the type it has. -/
def readScalar : Reader Scalar
  | .bool b => .accepted (.bool b)
  | .int n => .accepted (.int n)
  | .float x => .accepted (.float x)
  | .text s => .accepted (.text s)
  | _ => noneOf [("bool", .notBool), ("int", .notInt), ("float", .notNumber), ("str", .notText)]

/-- The amount of a call, of the type it has; a truth value counts as a whole number. -/
def readCallAmount : Reader CallAmount
  | .bool b => .accepted (.int (if b then 1 else 0))
  | .int n => .accepted (.int n)
  | .float x => .accepted (.float x)
  | .text s => .accepted (.text s)
  | _ => noneOf [("int", .notInt), ("float", .notNumber), ("str", .notText)]

end ActionFlow.Schema
