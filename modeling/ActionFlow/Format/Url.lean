import ActionFlow.Format.NetworkAddress
import ActionFlow.Text.Letter
import ActionFlow.Text.Quoted
import ActionFlow.Text.Search

/-!
# Web addresses

A web address is a scheme, `http` or `https`, and an authority after two slashes that is
not empty. Control characters and blanks in front and line breaks and tabulators anywhere
are ignored. Reading a text can also fail outright: when brackets in its authority do not
enclose the whole host or hold no numeric address, and when a character of the authority
stands for others among which is one that divides an address.
-/

namespace ActionFlow.Format

/-- Why a text could not be read as an address at all. -/
inductive UrlFault where
  /-- The brackets of the authority do not enclose its whole host. -/
  | misplacedBracket
  /-- The brackets begin a future form that is not well formed. -/
  | badFutureAddress
  /-- The brackets hold four octets. -/
  | octetsInBrackets
  /-- The brackets hold no numeric address. -/
  | notNumeric (host : String)
  /-- A character of the authority stands for one that divides addresses. -/
  | hiddenDivider (authority : String)
deriving DecidableEq, Repr

/-- The wording of a fault. -/
def UrlFault.message : UrlFault → String
  | .misplacedBracket => "Invalid IPv6 URL"
  | .badFutureAddress => "IPvFuture address is invalid"
  | .octetsInBrackets => "An IPv4 address cannot be in brackets"
  | .notNumeric host => Text.quote host ++ " does not appear to be an IPv4 or IPv6 address"
  | .hiddenDivider authority =>
    "netloc '" ++ authority ++ "' contains invalid characters under NFKC normalization"

/-- The part of a text before the first place of a character, and the part after it. -/
def cutAt (divider : Char) (text : List Char) : List Char × List Char :=
  (text.takeWhile (· != divider), (text.dropWhile (· != divider)).drop 1)

/-- The codes of the characters whose compatibility form holds a character that divides
addresses, such as the double question mark. -/
def dividerForms : List Nat :=
  [0x2047, 0x2048, 0x2049, 0x2100, 0x2101, 0x2105, 0x2106, 0x2A74, 0xFE13, 0xFE16, 0xFE55,
    0xFE56, 0xFE5F, 0xFE6B, 0xFF03, 0xFF0F, 0xFF1A, 0xFF1F, 0xFF20]

/-- The scheme and the authority of an address; either may be empty. -/
structure UrlParts where
  /-- The scheme in lower case. -/
  scheme : List Char
  /-- What stands between the two slashes and the path. -/
  authority : List Char
deriving DecidableEq, Repr

/-- Whether a character may stand in a scheme. -/
def isSchemeChar (c : Char) : Bool :=
  Text.isAsciiLetter c || Text.isAsciiDigit c || c == '+' || c == '-' || c == '.'

/-- The characters of an address that count. -/
def cleanUrl (text : List Char) : List Char :=
  (text.dropWhile fun c => c.toNat ≤ 0x20).filter fun c => c != '\t' && c != '\r' && c != '\n'

/-- The scheme of an address and the text after its colon. Without a well-formed scheme
the whole text remains. -/
def splitScheme (text : List Char) : List Char × List Char :=
  match text with
  | first :: _ =>
    let (scheme, rest) := cutAt ':' text
    if text.contains ':' && Text.isAsciiLetter first && scheme.all isSchemeChar then
      (scheme.map Char.toLower, rest)
    else ([], text)
  | [] => ([], [])

/-- The authority that begins a text after two slashes. -/
def authorityOf : List Char → List Char
  | '/' :: '/' :: rest => rest.takeWhile fun c => c != '/' && c != '?' && c != '#'
  | _ => []

/-- The scheme and authority of a text. -/
def urlParts (text : List Char) : UrlParts :=
  let (scheme, rest) := splitScheme (cleanUrl text)
  ⟨scheme, authorityOf rest⟩

/-- Whether what stands in brackets is the future form: the letter v, hexadecimal digits,
a dot and more. -/
def isFutureAddress (host : List Char) : Bool :=
  match host with
  | 'v' :: rest =>
    let digits := rest.takeWhile Text.isHexDigit
    match rest.dropWhile Text.isHexDigit with
    | '.' :: _ :: _ => !digits.isEmpty
    | _ => false
  | _ => false

/-- What is wrong with a host in brackets. -/
def hostFault? (host : List Char) : Option UrlFault :=
  if host.head? = some 'v' then
    if isFutureAddress host then none else some .badFutureAddress
  else if isFourOctets host then some .octetsInBrackets
  else if isEightGroups host then none
  else some (.notNumeric (String.ofList host))

/-- The text after the last place of a character, or the whole text without one. -/
def afterLast (divider : Char) (text : List Char) : List Char :=
  (text.reverse.takeWhile (· != divider)).reverse

/-- What is wrong with an authority that has both kinds of brackets. They enclose the
host: nothing stands before them but user information, and only a port after them. -/
def bracketedFault? (authority : List Char) : Option UrlFault :=
  let place := afterLast '@' authority
  if place.contains '[' then
    let (before, bracketed) := cutAt '[' place
    let (host, after) := cutAt ']' bracketed
    if !before.isEmpty || (!after.isEmpty && after.head? != some ':') then
      some .misplacedBracket
    else hostFault? host
  else hostFault? (cutAt ':' place).1

/-- What is wrong with an authority. -/
def authorityFault? (authority : List Char) : Option UrlFault :=
  let opens := authority.contains '['
  let closes := authority.contains ']'
  let bracketed := if opens && closes then bracketedFault? authority
    else if opens || closes then some .misplacedBracket
    else none
  bracketed.or
    (if authority.any fun c => dividerForms.contains c.toNat then
      some (.hiddenDivider (String.ofList authority))
    else none)

/-- Whether a text is a web address, or why it could not be read. -/
def readUrl (text : String) : Except UrlFault Bool :=
  let parts := urlParts text.toList
  match authorityFault? parts.authority with
  | some fault => .error fault
  | none =>
    .ok ((parts.scheme == "http".toList || parts.scheme == "https".toList) &&
      !parts.authority.isEmpty)

end ActionFlow.Format
