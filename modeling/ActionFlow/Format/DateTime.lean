import ActionFlow.Format.Calendar
import ActionFlow.Number.Decimal
import ActionFlow.Text.Numeral

/-!
# Dates and times

A date is written with or without dashes, by month and day or by week and weekday. After
any one character a time may follow, with or without colons, down to fractions of a
second, and after that an offset from universal time below a day. The letter Z at the end
stands for the offset zero. A fraction has digits beyond microseconds that are passed
over; an ASCII character left over before an offset is passed over too.
-/

namespace ActionFlow.Format

/-- The number of a fixed count of digits at the front, and the text after them. -/
def readDigits (count : Nat) (text : List Char) : Option (Nat × List Char) :=
  let digits := text.take count
  if digits.length = count ∧ digits.all Text.isAsciiDigit then
    some (decimalValue digits, text.drop count)
  else none

/-- The place of the character between date and time. The form of the date is told by its
fifth and sixth characters, and a week date without dashes by the number of digits up to
the first other character. -/
def dateLength (text : List Char) : Nat :=
  if text.length = 7 then 7
  else if text[4]? = some '-' then
    if text[5]? = some 'W' then
      if text[8]? = some '-' then
        match text[10]? with
        | some c => if Text.isAsciiDigit c then 8 else 10
        | none => 10
      else 8
    else 10
  else if text[4]? = some 'W' then
    let stop := 7 + ((text.drop 7).takeWhile Text.isAsciiDigit).length
    if stop < 9 then stop
    else if stop % 2 = 0 then 7
    else 8
  else 8

/-- Whether a text of the length of a date is one. -/
def isDateText (text : List Char) : Bool :=
  match readDigits 4 text with
  | none => false
  | some (year, rest) =>
    let dashed := rest.head? == some '-'
    let rest := if dashed then rest.drop 1 else rest
    match rest with
    | 'W' :: rest =>
      match readDigits 2 rest with
      | none => false
      | some (week, []) => isWeekDate year week 1
      | some (week, rest) =>
        if dashed && rest.head? != some '-' then false
        else
          match readDigits 1 (if dashed then rest.drop 1 else rest) with
          | some (day, _) => isWeekDate year week day
          | none => false
    | _ =>
      match readDigits 2 rest with
      | none => false
      | some (month, rest) =>
        if dashed && rest.head? != some '-' then false
        else
          match readDigits 2 (if dashed then rest.drop 1 else rest) with
          | some (day, _) => isDate year month day
          | none => false

/-- A time of day or an offset as it was read. -/
structure Clock where
  /-- The hour. -/
  hour : Nat
  /-- The minute. -/
  minute : Nat
  /-- The second. -/
  second : Nat
  /-- The microsecond. -/
  microsecond : Nat
  /-- Whether the whole text was read. -/
  complete : Bool
deriving DecidableEq, Repr

/-- Whether a text is at its end; a null character ends it too. -/
def isAtEnd : List Char → Bool
  | [] => true
  | c :: _ => c.toNat == 0

/-- The microseconds of a fraction, of which six digits count, and whether only digits
stood there. -/
def readFraction (text : List Char) : Option (Nat × Bool) :=
  let counted := text.take 6
  if counted ≠ [] ∧ counted.all Text.isAsciiDigit then
    some (decimalValue counted * Nat.pow 10 (6 - counted.length),
      isAtEnd ((text.drop 6).dropWhile Text.isAsciiDigit))
  else none

/-- The parts of a time of day from one part on; `parts` holds those before, `left`
counts those that may follow, and `colons` tells what divides them once the first part
is read. After the last part a fraction follows, with or without its mark. -/
def readParts (left : Nat) (colons : Option Bool) (parts : List Nat) (text : List Char) :
    Option (List Nat × Nat × Bool) :=
  match left with
  | 0 => (readFraction text).map fun (fraction, complete) => (parts, fraction, complete)
  | left + 1 =>
    match readDigits 2 text with
    | none => none
    | some (part, []) => some (parts ++ [part], 0, true)
    | some (part, [c]) => if c.toNat < 128 then some (parts ++ [part], 0, c.toNat == 0) else none
    | some (part, c :: rest) =>
      let divided := colons.getD (c == ':')
      if divided && c == ':' then readParts left (some divided) (parts ++ [part]) rest
      else if c == '.' || c == ',' then
        (readFraction rest).map fun (fraction, complete) => (parts ++ [part], fraction, complete)
      else if divided then none
      else readParts left (some divided) (parts ++ [part]) (c :: rest)

/-- A time of day or an offset. -/
def readClock (text : List Char) : Option Clock :=
  (readParts 3 none [] text).map fun (parts, fraction, complete) =>
    ⟨parts[0]?.getD 0, parts[1]?.getD 0, parts[2]?.getD 0, fraction, complete⟩

/-- Whether a clock shows a time of day. -/
def Clock.isTimeOfDay (c : Clock) : Bool := c.hour < 24 && c.minute < 60 && c.second < 60

/-- Whether a clock read after a sign is an offset below a day. -/
def Clock.isOffset (c : Clock) : Bool := c.hour * 3600 + c.minute * 60 + c.second < 86400

/-- Whether a character begins an offset. -/
def beginsOffset (c : Char) : Bool := c == '+' || c == '-' || c == 'Z'

/-- Whether a text is a time of day, perhaps with an offset. -/
def isTimeText (text : List Char) : Bool :=
  match readClock (text.takeWhile (!beginsOffset ·)) with
  | none => false
  | some clock =>
    clock.isTimeOfDay &&
      match text.dropWhile (!beginsOffset ·) with
      | [] => clock.complete
      | 'Z' :: rest => isAtEnd rest
      | _ :: rest =>
        match readClock rest with
        | some offset => offset.complete && offset.isOffset
        | none => false

/-- Whether a text without a Z at its end is a date, perhaps with a time. -/
def isPlainDateTime (text : List Char) : Bool :=
  let length := dateLength text
  7 ≤ text.length && isDateText (text.take length) &&
    match text.drop length with
    | [] => true
    | _ :: time => isTimeText time

/-- Whether a text is a date, perhaps with a time. -/
def isDateTime (text : String) : Bool :=
  let chars := text.toList
  match chars.getLast? with
  | some 'Z' => isPlainDateTime (chars.dropLast ++ "+00:00".toList)
  | _ => isPlainDateTime chars

end ActionFlow.Format
