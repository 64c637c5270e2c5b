import ActionFlow.Text.CharacterName.Second
import ActionFlow.Text.CharacterName.Series
import ActionFlow.Writing.African
import ActionFlow.Writing.American
import ActionFlow.Writing.Ancient
import ActionFlow.Writing.EastAsian
import ActionFlow.Writing.European
import ActionFlow.Writing.Indic
import ActionFlow.Writing.Latin
import ActionFlow.Writing.Mathematical
import ActionFlow.Writing.Notation
import ActionFlow.Writing.Pictographs
import ActionFlow.Writing.Semitic
import ActionFlow.Writing.SoutheastAsian
import ActionFlow.Writing.Symbols

/-!
# Names of characters

The characters that names stand for: letters and signs that are named one by one, those
whose names follow a rule, and control characters and others by their second names. The
case of letters in such a name does not matter. Syllables of Hangul and unified ideographs
go by rules of their own and in upper case only.
-/

namespace ActionFlow.Text

/-- The names of the consonants that Hangul syllables begin with. -/
def leadNames : List String :=
  ["G", "GG", "N", "D", "DD", "R", "M", "B", "BB", "S", "SS", "", "J", "JJ", "C", "K", "T", "P",
    "H"]

/-- The names of the vowels of Hangul syllables. -/
def vowelNames : List String :=
  ["A", "AE", "YA", "YAE", "EO", "E", "YEO", "YE", "O", "WA", "WAE", "OE", "YO", "U", "WEO",
    "WE", "WI", "YU", "EU", "YI", "I"]

/-- The names of the consonants that Hangul syllables end with. -/
def tailNames : List String :=
  ["", "G", "GG", "GS", "N", "NJ", "NH", "D", "L", "LG", "LM", "LB", "LS", "LT", "LP", "LH", "M",
    "B", "BS", "S", "SS", "NG", "J", "C", "K", "T", "P", "H"]

/-- The code of a Hangul syllable: syllables follow one another by lead, vowel and tail. -/
def syllableCode? (syllable : String) : Option Nat :=
  (leadNames.flatMap fun lead => vowelNames.flatMap fun vowel =>
    tailNames.map fun tail => lead ++ vowel ++ tail).findIdx? (· == syllable) |>.map (0xAC00 + ·)

/-- The ranges of unified ideographs, each from its first code up to the code after it. -/
def ideographBoundaries : List Nat :=
  [0x3400, 0x4DC0, 0x4E00, 0xA000, 0x20000, 0x2A6E0, 0x2A700, 0x2B739, 0x2B740, 0x2B81E,
    0x2B820, 0x2CEA2, 0x2CEB0, 0x2EBE1, 0x30000, 0x3134B]

/-- The code of a unified ideograph, written in four digits or in five. -/
def ideographCode? (digits : List Char) : Option Nat :=
  match digits with
  | ['0', a, b, c, d] => writtenCode? ideographBoundaries [a, b, c, d]
  | digits => writtenCode? ideographBoundaries digits

/-- The names of the characters that are named one by one. -/
def nameTables : List (List NameRun) :=
  [latinNames, europeanNames, semiticNames, indicNames, rareIndicNames, southeastAsianNames,
    jamoNames, kanaNames, yiNames, rareEastAsianNames, africanNames, americanNames, earlyNames,
    cuneiformNames, hieroglyphNames, operatorNames, symbolNames, tileNames, pictographNames,
    notationNames, mathematicalNames]

/-- The code of the character that a name in upper case stands for. -/
def listedCode? (name : List Char) : Option Nat :=
  ((nameTables.findSome? fun runs => runs.findSome? (·.codeOf? name)).or
    ((secondNames.find? fun (_, names) => names.contains (String.ofList name)).map Prod.fst)).or
    (ruledCode? name)

/-- The code of the character that a name stands for. -/
def characterNamed? (name : String) : Option Nat :=
  match afterOpening? "HANGUL SYLLABLE ".toList name.toList with
  | some syllable => syllableCode? (String.ofList syllable)
  | none =>
    match afterOpening? "CJK UNIFIED IDEOGRAPH-".toList name.toList with
    | some digits => ideographCode? digits
    | none => listedCode? (name.toList.map Char.toUpper)

end ActionFlow.Text
