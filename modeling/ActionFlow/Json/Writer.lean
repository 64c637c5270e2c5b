import ActionFlow.Value
import ActionFlow.Number.Decimal
import ActionFlow.Text.Quoted

/-!
# Writing JSON

JSON text with a blank after each comma and colon, keys in order, and only ASCII
characters: others are escaped by their UTF-16 units. Numbers beyond the format have the
words that the reader also takes.
-/

namespace ActionFlow.Json

/-- The words for numbers that JSON has no digits for. -/
def numberWords : NumberWords := ⟨"NaN", "Infinity"⟩

/-- The escape of one UTF-16 unit. -/
def escapeUnit (code : Nat) : List Char := '\\' :: 'u' :: Text.hexPadded 4 code

/-- One character between quotation marks. -/
def escapeChar (c : Char) : List Char :=
  if c == '"' then ['\\', '"']
  else if c == '\\' then ['\\', '\\']
  else if c == '\n' then ['\\', 'n']
  else if c == '\r' then ['\\', 'r']
  else if c == '\t' then ['\\', 't']
  else if c.toNat = 0x0C then ['\\', 'f']
  else if c.toNat = 0x08 then ['\\', 'b']
  else if 0x20 ≤ c.toNat && c.toNat < 0x7F then [c]
  else if c.toNat < 0x10000 then escapeUnit c.toNat
  else
    let above := c.toNat - 0x10000
    escapeUnit (0xD800 + above / 0x400) ++ escapeUnit (0xDC00 + above % 0x400)

/-- A text as a JSON string. -/
def writeString (s : String) : List Char :=
  '"' :: (s.toList.flatMap escapeChar ++ ['"'])

/-- Pieces with a comma and a blank between them. -/
def joinPieces : List (List Char) → List Char
  | [] => []
  | [piece] => piece
  | piece :: rest => piece ++ ',' :: ' ' :: joinPieces rest

mutual

/-- The characters of a value. -/
def writeChars : Value → List Char
  | .null => ['n', 'u', 'l', 'l']
  | .bool true => ['t', 'r', 'u', 'e']
  | .bool false => ['f', 'a', 'l', 's', 'e']
  | .int n => (toString n).toList
  | .float x => (x.render numberWords).toList
  | .text s => writeString s
  | .list items => '[' :: (joinPieces (writeItems items) ++ [']'])
  | .object fields => '\x7b' :: (joinPieces (writeFields fields) ++ ['\x7d'])

/-- The items of a list, each on its own. -/
def writeItems : List Value → List (List Char)
  | [] => []
  | v :: rest => writeChars v :: writeItems rest

/-- The fields of an object, each on its own. -/
def writeFields : List (String × Value) → List (List Char)
  | [] => []
  | (key, v) :: rest => (writeString key ++ ':' :: ' ' :: writeChars v) :: writeFields rest

end

/-- The JSON text of a value. -/
def write (v : Value) : String := String.ofList (writeChars v)

end ActionFlow.Json
