/-!
# Encodings of stored texts

A text is stored as bytes, and what is read back need not be in the encoding that was
written. JSON begins with two ASCII characters, so the places of zero bytes at the front
tell how wide the units are and which byte of a unit comes first. A unit of a UTF-16 pair
that stands alone is kept as the replacement character.
-/

namespace ActionFlow.Text

/-- Which byte of a unit comes first. -/
inductive ByteOrder where
  /-- The heaviest byte comes first. -/
  | heaviestFirst
  /-- The lightest byte comes first. -/
  | lightestFirst
deriving DecidableEq, Repr

/-- An encoding of a text as bytes. -/
inductive Encoding where
  /-- Units of one byte. -/
  | utf8
  /-- Units of one byte after a byte order mark. -/
  | markedUtf8
  /-- Units of two bytes. -/
  | utf16 (order : ByteOrder)
  /-- Units of four bytes. -/
  | utf32 (order : ByteOrder)
deriving DecidableEq, Repr

/-- The encoding of a text that begins with ASCII characters, by its first bytes. -/
def Encoding.ofBytes (bytes : List Nat) : Encoding :=
  match bytes with
  | 0xEF :: 0xBB :: 0xBF :: _ => .markedUtf8
  | 0 :: 0 :: _ :: _ :: _ => .utf32 .heaviestFirst
  | 0 :: _ :: _ :: _ :: _ => .utf16 .heaviestFirst
  | _ :: 0 :: 0 :: 0 :: _ => .utf32 .lightestFirst
  | _ :: 0 :: _ :: _ :: _ => .utf16 .lightestFirst
  | [0, _] => .utf16 .heaviestFirst
  | [_, 0] => .utf16 .lightestFirst
  | _ => .utf8

/-- The name of an encoding. -/
def Encoding.name : Encoding → String
  | .utf8 => "utf-8"
  | .markedUtf8 => "utf-8-sig"
  | .utf16 .heaviestFirst => "utf-16-be"
  | .utf16 .lightestFirst => "utf-16-le"
  | .utf32 .heaviestFirst => "utf-32-be"
  | .utf32 .lightestFirst => "utf-32-le"

/-- The number that the bytes of a unit stand for. -/
def ByteOrder.unit (order : ByteOrder) (bytes : List Nat) : Nat :=
  let heaviestFirst := match order with
    | .heaviestFirst => bytes
    | .lightestFirst => bytes.reverse
  heaviestFirst.foldl (fun number byte => 256 * number + byte) 0

/-- What keeps bytes from being a text. -/
inductive DecodeCause where
  /-- The last unit lacks bytes. -/
  | truncated
  /-- A unit is above every code. -/
  | beyondCodes
deriving DecidableEq, Repr

/-- Bytes that are no text. -/
structure DecodeFault where
  /-- The encoding that was assumed. -/
  encoding : Encoding
  /-- The cause. -/
  cause : DecodeCause
  /-- The number of bytes before the fault. -/
  position : Nat
  /-- The bytes of the unit. -/
  bytes : List Nat
deriving DecidableEq, Repr

/-- A byte in two hexadecimal digits. -/
def byteDigits (byte : Nat) : String :=
  String.ofList [Nat.digitChar (byte / 16), Nat.digitChar (byte % 16)]

/-- The wording of a fault. -/
def DecodeFault.message (e : DecodeFault) : String :=
  let place := match e.bytes with
    | [byte] => "byte 0x" ++ byteDigits byte ++ " in position " ++ toString e.position
    | bytes => "bytes in position " ++ toString e.position ++ "-" ++
      toString (e.position + bytes.length - 1)
  let cause := match e.cause with
    | .truncated => "truncated data"
    | .beyondCodes => "code point not in range(0x110000)"
  "'" ++ e.encoding.name ++ "' codec can't decode " ++ place ++ ": " ++ cause

/-- The character of a code; a code of half a UTF-16 pair has none of its own. -/
def codeChar (code : Nat) : Char :=
  if 0xD800 ≤ code ∧ code < 0xE000 then '\ufffd' else Char.ofNat code

/-- The characters of UTF-16 units: two units that form a pair are one character. -/
def charsOfUnits : List Nat → List Char
  | high :: low :: rest =>
    if 0xD800 ≤ high ∧ high < 0xDC00 ∧ 0xDC00 ≤ low ∧ low < 0xE000 then
      Char.ofNat (0x10000 + (high - 0xD800) * 0x400 + (low - 0xDC00)) :: charsOfUnits rest
    else codeChar high :: charsOfUnits (low :: rest)
  | [unit] => [codeChar unit]
  | [] => []
termination_by units => units.length

/-- The units of two bytes each, after a number of bytes. -/
def pairUnits (order : ByteOrder) (position : Nat) : List Nat → Except DecodeFault (List Nat)
  | first :: second :: rest =>
    (pairUnits order (position + 2) rest).map (order.unit [first, second] :: ·)
  | [byte] => .error ⟨.utf16 order, .truncated, position, [byte]⟩
  | [] => .ok []

/-- The characters of four bytes each, after a number of bytes. -/
def quadChars (order : ByteOrder) (position : Nat) : List Nat → Except DecodeFault (List Char)
  | a :: b :: c :: d :: rest =>
    let code := order.unit [a, b, c, d]
    if code < 0x110000 then (quadChars order (position + 4) rest).map (codeChar code :: ·)
    else .error ⟨.utf32 order, .beyondCodes, position, [a, b, c, d]⟩
  | [] => .ok []
  | bytes => .error ⟨.utf32 order, .truncated, position, bytes⟩

/-- The characters of a text whose UTF-8 bytes are read back in the encoding that they
seem to be in. -/
def readBack (text : String) : Except DecodeFault (List Char) :=
  let bytes := text.toUTF8.data.toList.map UInt8.toNat
  match Encoding.ofBytes bytes with
  | .utf8 => .ok text.toList
  | .markedUtf8 => .ok (text.toList.drop 1)
  | .utf16 order => (pairUnits order 0 bytes).map charsOfUnits
  | .utf32 order => quadChars order 0 bytes

end ActionFlow.Text
