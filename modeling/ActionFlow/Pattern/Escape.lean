import ActionFlow.Pattern.Cursor
import ActionFlow.Number.Decimal
import ActionFlow.Text.CharacterName
import ActionFlow.Text.Letter
import ActionFlow.Text.Numeral

/-!
# Escapes in patterns

A backslash gives a character by its code, its name or a letter, a class of characters, a
place, or the text of an earlier group. Inside a character set only characters and
classes can be given, and all numbers are octal codes.
-/

namespace ActionFlow.Pattern

/-- What an escape stands for in a character set. -/
inductive Member where
  /-- The character of a code. -/
  | code (n : Nat)
  /-- A class of characters. -/
  | ofClass
deriving DecidableEq, Repr

/-- Whether a character is an octal digit. -/
def isOctalDigit (c : Char) : Bool := '0' ≤ c && c ≤ '7'

/-- The number that octal digits stand for. -/
def octalValue (digits : List Char) : Nat :=
  digits.foldl (fun value c => 8 * value + (c.toNat - 48)) 0

/-- The number that hexadecimal digits stand for. -/
def hexValue (digits : List Char) : Nat :=
  digits.foldl (fun value c => 16 * value + (Text.hexDigit? c).getD 0) 0

/-- The code of a letter that stands for a control character, or of a backslash. -/
def controlCode? : Char → Option Nat
  | 'a' => some 7
  | 'b' => some 8
  | 'f' => some 12
  | 'n' => some 10
  | 'r' => some 13
  | 't' => some 9
  | 'v' => some 11
  | '\\' => some 92
  | _ => none

/-- Whether a letter stands for a class of characters. -/
def isClassLetter (c : Char) : Bool := "dDsSwW".toList.contains c

/-- Whether a letter stands for a place in the text. -/
def isAnchorLetter (c : Char) : Bool := "AbBZ".toList.contains c

/-- Refuses an escape, named by its characters, at its own place. -/
def failEscape {α : Type} (fault : String → Fault) (text : List Char) : Reading α :=
  failBack (fault (String.ofList text)) text.length

/-- The code given by a fixed number of hexadecimal digits after a letter. -/
def readHexCode (letter : Char) (count : Nat) : Reading Nat := do
  let digits ← takeWhile Text.isHexDigit count
  let text := '\\' :: letter :: digits
  if digits.length = count then
    let code := hexValue digits
    if 0x110000 ≤ code then failEscape .badEscape text else return code
  else failEscape .incompleteEscape text

/-- The code of the character that a name in braces names. -/
def readNamedCode : Reading Nat := do
  if ← accept '\x7b' then
    let name ← readName '\x7d' "character name"
    match Text.characterNamed? (String.ofList name) with
    | some code => return code
    | none => failBack (.undefinedCharacter (String.ofList name)) (name.length + 4)
  else failBack .missingBrace 0

/-- The code given by an escape in either place: hexadecimal digits, a name, or the
character itself. -/
def readCommonCode (c : Char) : Reading Nat := do
  match c with
  | 'x' => readHexCode c 2
  | 'u' => readHexCode c 4
  | 'U' => readHexCode c 8
  | 'N' => readNamedCode
  | _ =>
    if Text.isAsciiLetter c || Text.isAsciiDigit c then failEscape .badEscape ['\\', c]
    else return c.toNat

/-- What an escape stands for in a character set. -/
def readSetEscape (c : Char) : Reading Member := do
  match controlCode? c with
  | some code => return .code code
  | none =>
    if isClassLetter c then return .ofClass
    else if isOctalDigit c then
      let more ← takeWhile isOctalDigit 2
      let code := octalValue (c :: more)
      if 0o377 < code then failEscape .octalTooLarge ('\\' :: c :: more)
      else return .code code
    else return .code (← readCommonCode c)

/-- The item that a reference to a group by number is; `text` is how it was written. -/
def referTo (group : Nat) (text : List Char) : Reading Item := do
  let p ← get
  match p.groups[group]? with
  | none => failBack (.invalidReference group) (text.length - 1)
  | some none => failBack .openReference text.length
  | some (some width) =>
    checkLookBehind group
    return .reference width

/-- The item that an escape by number is: an octal code of three digits, or a group. -/
def readNumberEscape (c : Char) : Reading Item := do
  let second ← takeWhile Text.isAsciiDigit 1
  let octal := match second with
    | [d] => isOctalDigit c && isOctalDigit d
    | _ => false
  let third ← if octal then takeWhile isOctalDigit 1 else pure []
  let digits := c :: (second ++ third)
  if third.isEmpty then referTo (decimalValue digits) ('\\' :: digits)
  else if 0o377 < octalValue digits then failEscape .octalTooLarge ('\\' :: digits)
  else return .character

/-- The item that an escape outside character sets is. -/
def readEscape (c : Char) : Reading Item := do
  if isAnchorLetter c then return .anchor
  else if isClassLetter c || (controlCode? c).isSome then return .character
  else if c = '0' then
    let _ ← takeWhile isOctalDigit 2
    return .character
  else if Text.isAsciiDigit c then readNumberEscape c
  else
    let _ ← readCommonCode c
    return .character

end ActionFlow.Pattern
