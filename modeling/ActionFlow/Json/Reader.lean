import ActionFlow.Value
import ActionFlow.Number.Decimal
import ActionFlow.Text.Numeral

/-!
# Reading JSON

JSON text is read to a `Value`. Besides standard JSON the words for infinity and for the
value that is no number are taken. A key that occurs again keeps its place and takes the
later value. Whatever is refused carries its cause and the number of characters before
it, from which line and column follow.
-/

namespace ActionFlow.Json

/-- Why a text is no JSON. -/
inductive Fault where
  /-- No value begins here. -/
  | expectingValue
  /-- An object member or the end of the object should stand here. -/
  | expectingName
  /-- A colon should follow the name. -/
  | expectingColon
  /-- A comma or the closing bracket should follow the value. -/
  | expectingComma
  /-- Something follows the value. -/
  | extraData
  /-- The string that begins here has no end. -/
  | unterminatedString
  /-- A control character stands inside a string. -/
  | controlCharacter
  /-- An unknown letter follows a backslash. -/
  | badEscape
  /-- Four hexadecimal digits should follow. -/
  | badUnicodeEscape
  /-- The text begins with a byte order mark. -/
  | byteOrderMark
  /-- A whole number has more digits than are taken. -/
  | tooManyDigits (count : Nat)
deriving DecidableEq, Repr

/-- The largest number of digits of a whole number in text. -/
def digitLimit : Nat := 4300

/-- The wording of a fault. -/
def Fault.message : Fault → String
  | .expectingValue => "Expecting value"
  | .expectingName => "Expecting property name enclosed in double quotes"
  | .expectingColon => "Expecting ':' delimiter"
  | .expectingComma => "Expecting ',' delimiter"
  | .extraData => "Extra data"
  | .unterminatedString => "Unterminated string starting at"
  | .controlCharacter => "Invalid control character at"
  | .badEscape => "Invalid \\escape"
  | .badUnicodeEscape => "Invalid \\uXXXX escape"
  | .byteOrderMark => "Unexpected UTF-8 BOM (decode using utf-8-sig)"
  | .tooManyDigits count =>
    "Exceeds the limit (4300 digits) for integer string conversion: value has " ++
      toString count ++
      " digits; use sys.set_int_max_str_digits() to increase the limit"

/-- A fault and where it was found. -/
structure ReadError where
  /-- The cause. -/
  fault : Fault
  /-- The number of characters before the fault. -/
  position : Nat
  /-- The line of the fault, from one. -/
  line : Nat
  /-- The column of the fault, from one. -/
  column : Nat
deriving DecidableEq, Repr

/-- The error at a position of a text. -/
def ReadError.locate (text : List Char) (fault : Fault) (position : Nat) : ReadError :=
  let before := text.take position
  { fault, position
    line := before.count '\n' + 1
    column := (before.reverse.takeWhile (· != '\n')).length + 1 }

/-- Whether the error is one of form; too long a number is one of size. -/
def ReadError.isSyntax (e : ReadError) : Bool :=
  match e.fault with
  | .tooManyDigits _ => false
  | _ => true

/-- The wording of an error. An error of form tells where it is. -/
def ReadError.message (e : ReadError) : String :=
  if e.isSyntax then
    e.fault.message ++ ": line " ++ toString e.line ++ " column " ++ toString e.column ++
      " (char " ++ toString e.position ++ ")"
  else e.fault.message

/-- A reader's outcome. A refusal holds the number of characters from the fault on. -/
abbrev Outcome (α : Type) : Type := Except (Fault × Nat) α

/-- Whether a character may stand between tokens. -/
def isSpacing (c : Char) : Bool := c == ' ' || c == '\t' || c == '\n' || c == '\r'

/-- The text from the next token on. -/
def skipSpacing (cs : List Char) : List Char := cs.dropWhile isSpacing

/-- The code of four hexadecimal digits. -/
def hexUnit? (a b c d : Char) : Option Nat := do
  let a ← Text.hexDigit? a
  let b ← Text.hexDigit? b
  let c ← Text.hexDigit? c
  let d ← Text.hexDigit? d
  pure (((a * 16 + b) * 16 + c) * 16 + d)

/-- Whether a UTF-16 unit is the first of a pair. -/
def isHighUnit (code : Nat) : Bool := 0xD800 ≤ code && code < 0xDC00

/-- Whether a UTF-16 unit is the second of a pair. -/
def isLowUnit (code : Nat) : Bool := 0xDC00 ≤ code && code < 0xE000

/-- The character of a UTF-16 unit; a unit that stands alone has none of its own. -/
def unitChar (code : Nat) : Char :=
  if isHighUnit code || isLowUnit code then Char.ofNat 0xFFFD else Char.ofNat code

/-- The character that a letter after a backslash stands for. -/
def escaped? : Char → Option Char
  | '"' => some '"'
  | '\\' => some '\\'
  | '/' => some '/'
  | 'b' => some (Char.ofNat 0x08)
  | 'f' => some (Char.ofNat 0x0C)
  | 'n' => some '\n'
  | 'r' => some '\r'
  | 't' => some '\t'
  | _ => none

/-- The characters of a string and the text after its closing mark. `opening` is the text
from the opening mark on, and `done` holds the characters so far, last first. An escape of
four hexadecimal digits is taken when something follows it, and two of them that form a
UTF-16 pair are one character. -/
def readString (opening done : List Char) : List Char → Outcome (List Char × List Char)
  | [] => .error (.unterminatedString, opening.length)
  | '"' :: rest => .ok (done.reverse, rest)
  | '\\' :: [] => .error (.unterminatedString, opening.length)
  | '\\' :: 'u' :: a :: b :: c :: d :: next :: after =>
    match hexUnit? a b c d with
    | none => .error (.badUnicodeEscape, after.length + 6)
    | some unit =>
      match isHighUnit unit, next, after with
      | true, '\\', 'u' :: e :: f :: g :: h :: following :: beyond =>
        match hexUnit? e f g h with
        | none => .error (.badUnicodeEscape, beyond.length + 6)
        | some low =>
          if isLowUnit low then
            let code := 0x10000 + (unit - 0xD800) * 0x400 + (low - 0xDC00)
            readString opening (Char.ofNat code :: done) (following :: beyond)
          else
            readString opening (unitChar unit :: done)
              ('\\' :: 'u' :: e :: f :: g :: h :: following :: beyond)
      | _, first, others => readString opening (unitChar unit :: done) (first :: others)
  | '\\' :: 'u' :: rest => .error (.badUnicodeEscape, rest.length + 1)
  | '\\' :: letter :: rest =>
    match escaped? letter with
    | none => .error (.badEscape, rest.length + 2)
    | some c => readString opening (c :: done) rest
  | c :: rest =>
    if c.toNat ≤ 0x1F then .error (.controlCharacter, rest.length + 1)
    else readString opening (c :: done) rest
termination_by cs => cs.length

/-- The digits at the front and the text after them. -/
def spanDigits (cs : List Char) : List Char × List Char :=
  (cs.takeWhile Text.isAsciiDigit, cs.dropWhile Text.isAsciiDigit)

/-- The whole part of a number: a lone zero, or digits that do not begin with one. -/
def readWhole : List Char → Option (List Char × List Char)
  | '0' :: rest => some (['0'], rest)
  | cs =>
    match spanDigits cs with
    | ([], _) => none
    | found => some found

/-- The digits after a decimal point, when there is one with digits after it. -/
def readFraction : List Char → Option (List Char × List Char)
  | '.' :: rest =>
    match spanDigits rest with
    | ([], _) => none
    | found => some found
  | _ => none

/-- The power of ten after an exponent letter, when digits follow. -/
def readPower : List Char → Option (Int × List Char)
  | letter :: rest =>
    if letter == 'e' || letter == 'E' then
      let (negative, digits) := match rest with
        | '-' :: digits => (true, digits)
        | '+' :: digits => (false, digits)
        | digits => (false, digits)
      match spanDigits digits with
      | ([], _) => none
      | (found, after) =>
        let size : Int := decimalValue found
        some (if negative then -size else size, after)
    else none
  | [] => none

/-- Whether a minus sign stands at the front, and the text after it. -/
def splitSign : List Char → Bool × List Char
  | '-' :: rest => (true, rest)
  | cs => (false, cs)

/-- A number at the front. Without fraction and exponent it is whole. -/
def readNumber (cs : List Char) : Outcome (Value × List Char) :=
  let (negative, unsigned) := splitSign cs
  match readWhole unsigned with
  | none => .error (.expectingValue, cs.length)
  | some (whole, rest) =>
    let fraction := readFraction rest
    let afterFraction := (fraction.map Prod.snd).getD rest
    let power := readPower afterFraction
    let after := (power.map Prod.snd).getD afterFraction
    if fraction.isNone && power.isNone then
      if digitLimit < whole.length then .error (.tooManyDigits whole.length, cs.length)
      else
        let size : Int := decimalValue whole
        .ok (.int (if negative then -size else size), after)
    else
      let decimal := Decimal.ofParts negative whole ((fraction.map Prod.fst).getD [])
        ((power.map Prod.fst).getD 0)
      .ok (.float decimal.toBinary64, after)

/-- A fixed word or a number at the front. -/
def readScalar (cs : List Char) : Outcome (Value × List Char) :=
  match cs with
  | 'n' :: 'u' :: 'l' :: 'l' :: rest => .ok (.null, rest)
  | 't' :: 'r' :: 'u' :: 'e' :: rest => .ok (.bool true, rest)
  | 'f' :: 'a' :: 'l' :: 's' :: 'e' :: rest => .ok (.bool false, rest)
  | 'N' :: 'a' :: 'N' :: rest => .ok (.float (.nan .number), rest)
  | 'I' :: 'n' :: 'f' :: 'i' :: 'n' :: 'i' :: 't' :: 'y' :: rest =>
    .ok (.float (.infinite false), rest)
  | '-' :: 'I' :: 'n' :: 'f' :: 'i' :: 'n' :: 'i' :: 't' :: 'y' :: rest =>
    .ok (.float (.infinite true), rest)
  | _ => readNumber cs

mutual

/-- A value at the front and the text after it. Each step takes one from the first
argument. A bracket takes two, so that it never runs out when it begins above twice the
length of the text. -/
def readValue : Nat → List Char → Outcome (Value × List Char)
  | 0, cs => .error (.expectingValue, cs.length)
  | steps + 1, cs =>
    match cs with
    | '"' :: rest => do
      let (chars, after) ← readString cs [] rest
      pure (.text (String.ofList chars), after)
    | '[' :: rest =>
      match skipSpacing rest with
      | ']' :: after => .ok (.list [], after)
      | first => readItems steps [] first
    | '\x7b' :: rest =>
      match skipSpacing rest with
      | '\x7d' :: after => .ok (.object [], after)
      | first => readMembers steps [] first
    | _ => readScalar cs

/-- The items of a list from one item on; `done` holds those before, last first. -/
def readItems : Nat → List Value → List Char → Outcome (Value × List Char)
  | 0, _, cs => .error (.expectingValue, cs.length)
  | steps + 1, done, cs => do
    let (item, rest) ← readValue steps cs
    match skipSpacing rest with
    | ']' :: after => pure (.list (item :: done).reverse, after)
    | ',' :: next => readItems steps (item :: done) (skipSpacing next)
    | other => .error (.expectingComma, other.length)

/-- The members of an object from one name on; `done` holds the fields before. -/
def readMembers : Nat → Fields → List Char → Outcome (Value × List Char)
  | 0, _, cs => .error (.expectingName, cs.length)
  | steps + 1, done, cs =>
    match cs with
    | '"' :: rest => do
      let (name, afterName) ← readString cs [] rest
      match skipSpacing afterName with
      | ':' :: afterColon =>
        let (value, afterValue) ← readValue steps (skipSpacing afterColon)
        let fields := Keyed.set (String.ofList name) value done
        match skipSpacing afterValue with
        | '\x7d' :: after => pure (.object fields, after)
        | ',' :: next => readMembers steps fields (skipSpacing next)
        | other => .error (.expectingComma, other.length)
      | other => .error (.expectingColon, other.length)
    | _ => .error (.expectingName, cs.length)

end

/-- A text that is one value with spacing around it. -/
def readDocument (cs : List Char) : Outcome Value := do
  let (value, rest) ← readValue (2 * cs.length + 2) (skipSpacing cs)
  match skipSpacing rest with
  | [] => pure value
  | extra => .error (.extraData, extra.length)

/-- The value of the characters of a JSON text. -/
def readChars (cs : List Char) : Except ReadError Value :=
  match readDocument cs with
  | .ok value => .ok value
  | .error (fault, remaining) => .error (.locate cs fault (cs.length - remaining))

/-- The value of a JSON text, which has no byte order mark. -/
def read (text : String) : Except ReadError Value :=
  match text.toList with
  | '\ufeff' :: rest => .error (.locate ('\ufeff' :: rest) .byteOrderMark 0)
  | cs => readChars cs

end ActionFlow.Json
