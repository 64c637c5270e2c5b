import ActionFlow.Format.Email
import ActionFlow.Text.Numeral

/-!
# Numeric network addresses

The two written forms of numeric addresses: four octets in decimal without leading zeros,
and eight groups of up to four hexadecimal digits. In the second form one run of groups
may be left out where two colons meet, the last two groups may be written as four octets,
and a zone may follow a percent sign.
-/

namespace ActionFlow.Format

/-- Whether a text is an octet, a number up to 255. -/
def isOctet (text : List Char) : Bool :=
  match text with
  | [a] => Text.isAsciiDigit a
  | [a, b] => a != '0' && Text.isAsciiDigit a && Text.isAsciiDigit b
  | [a, b, c] =>
    a != '0' && text.all Text.isAsciiDigit &&
      ((a.toNat - 48) * 10 + (b.toNat - 48)) * 10 + (c.toNat - 48) ≤ 255
  | _ => false

/-- Whether a text is four octets divided by dots. -/
def isFourOctets (text : List Char) : Bool :=
  let octets := splitAtChar '.' text
  octets.length == 4 && octets.all isOctet

/-- Whether a text is a group of hexadecimal digits. -/
def isGroup (text : List Char) : Bool :=
  !text.isEmpty && text.length ≤ 4 && text.all Text.isHexDigit

/-- The pieces of an address with four octets at its end counted as two groups; nothing
when what stands there with a dot is not four octets. -/
def unifyOctets (parts : List (List Char)) : Option (List (List Char)) :=
  match parts.getLast? with
  | some last =>
    if last.contains '.' then
      if isFourOctets last then some (parts.dropLast ++ [['0'], ['0']]) else none
    else some parts
  | none => some parts

/-- Whether the groups on one side of the place where a run is left out are well formed:
the outermost piece may be empty only next to that place. -/
def isSide (outer : List Char) (side : List (List Char)) : Bool :=
  if outer.isEmpty then side.length == 1 else side.all isGroup

/-- The number of groups on one side, an empty outermost piece not counted. -/
def sideCount (outer : List Char) (side : List (List Char)) : Nat :=
  if outer.isEmpty then side.length - 1 else side.length

/-- Whether pieces between colons form eight groups, one run of them perhaps left out. -/
def areGroups (parts : List (List Char)) : Bool :=
  let first := parts.headD []
  let last := parts.getLastD []
  let inner := (parts.drop 1).dropLast
  match inner.count [] with
  | 0 => parts.length == 8 && parts.all isGroup
  | 1 =>
    let before := first :: inner.takeWhile (· != [])
    let after := (inner.dropWhile (· != [])).drop 1 ++ [last]
    isSide first before && isSide last after &&
      sideCount first before + sideCount last after ≤ 7
  | _ => false

/-- Whether a text is eight groups divided by colons, in any of its forms. -/
def isEightGroups (text : List Char) : Bool :=
  let address := text.takeWhile (· != '%')
  let zone := text.dropWhile (· != '%')
  let zoneIsSound := match zone with
    | [] => true
    | _ :: name => !name.isEmpty && !name.contains '%'
  let parts := splitAtChar ':' address
  zoneIsSound && 3 ≤ parts.length &&
    match unifyOctets parts with
    | some groups => groups.length ≤ 9 && areGroups groups
    | none => false

end ActionFlow.Format
