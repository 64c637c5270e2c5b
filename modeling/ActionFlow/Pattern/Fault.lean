import ActionFlow.Text.Quoted

/-!
# Faults of regular expressions

What can be wrong with a regular expression, and the wording of each fault. Most faults
have a position; a pattern of several lines is told by line and column too. A few
patterns are refused for a reason that is no fault of form.
-/

namespace ActionFlow.Pattern

/-- What is wrong with the form of a pattern. -/
inductive Fault where
  /-- A quantifier has nothing before it that it could repeat. -/
  | nothingToRepeat
  /-- A quantifier follows another one. -/
  | multipleRepeat
  /-- The bounds of a repetition are in the wrong order. -/
  | boundsReversed
  /-- A character set has no end. -/
  | unterminatedSet
  /-- A range of characters is in the wrong order or has a class at an end. -/
  | badRange (first last : String)
  /-- A group has no end. -/
  | unterminatedGroup
  /-- A comment has no end. -/
  | unterminatedComment
  /-- A name has no end. -/
  | unterminatedName (closing : Char)
  /-- A name is empty. -/
  | missingName (what : String)
  /-- A group name is no identifier. -/
  | badGroupName (name : String)
  /-- A closing parenthesis closes nothing. -/
  | unbalancedParenthesis
  /-- The pattern ends within a group's opening. -/
  | unexpectedEnd
  /-- A group begins with something unknown. -/
  | unknownExtension (text : String)
  /-- A name names no group. -/
  | unknownGroup (name : String)
  /-- A name names two groups. -/
  | redefinition (name : String) (group earlier : Nat)
  /-- A number numbers no group. -/
  | invalidReference (group : Nat)
  /-- A reference stands inside the group it refers to. -/
  | openReference
  /-- A reference stands in the same look-behind as its group. -/
  | lookBehindReference
  /-- The group number is zero. -/
  | badGroupNumber
  /-- An escape is not known. -/
  | badEscape (text : String)
  /-- The pattern ends with a backslash. -/
  | escapeAtEnd
  /-- An escape has too few digits. -/
  | incompleteEscape (text : String)
  /-- An octal escape is too large. -/
  | octalTooLarge (text : String)
  /-- A name names no character. -/
  | undefinedCharacter (name : String)
  /-- A brace should follow. -/
  | missingBrace
  /-- A conditional group has three branches or more. -/
  | tooManyBranches
  /-- Flags for the whole pattern do not stand at its start. -/
  | flagsNotFirst
  /-- A letter for a flag should follow. -/
  | missingFlag
  /-- A colon should follow. -/
  | missingColon
  /-- A minus sign, a colon or a closing parenthesis should follow. -/
  | missingFlagEnd
  /-- A letter stands for no flag. -/
  | unknownFlag
  /-- Flags are used that must not be; the reason is given. -/
  | badFlags (reason : String)
  /-- A look-behind has no fixed width. -/
  | variableLookBehind
  /-- A repetition is used together with the template flag. -/
  | templateOperator (operator : String)
deriving DecidableEq, Repr

/-- The wording of a fault. -/
def Fault.message : Fault → String
  | .nothingToRepeat => "nothing to repeat"
  | .multipleRepeat => "multiple repeat"
  | .boundsReversed => "min repeat greater than max repeat"
  | .unterminatedSet => "unterminated character set"
  | .badRange first last => "bad character range " ++ first ++ "-" ++ last
  | .unterminatedGroup => "missing ), unterminated subpattern"
  | .unterminatedComment => "missing ), unterminated comment"
  | .unterminatedName closing => "missing " ++ closing.toString ++ ", unterminated name"
  | .missingName what => "missing " ++ what
  | .badGroupName name => "bad character in group name " ++ Text.quote name
  | .unbalancedParenthesis => "unbalanced parenthesis"
  | .unexpectedEnd => "unexpected end of pattern"
  | .unknownExtension text => "unknown extension " ++ text
  | .unknownGroup name => "unknown group name " ++ Text.quote name
  | .redefinition name group earlier =>
    "redefinition of group name " ++ Text.quote name ++ " as group " ++ toString group ++
      "; was group " ++ toString earlier
  | .invalidReference group => "invalid group reference " ++ toString group
  | .openReference => "cannot refer to an open group"
  | .lookBehindReference =>
    "cannot refer to group defined in the same lookbehind subpattern"
  | .badGroupNumber => "bad group number"
  | .badEscape text => "bad escape " ++ text
  | .escapeAtEnd => "bad escape (end of pattern)"
  | .incompleteEscape text => "incomplete escape " ++ text
  | .octalTooLarge text => "octal escape value " ++ text ++ " outside of range 0-0o377"
  | .undefinedCharacter name => "undefined character name " ++ Text.quote name
  | .missingBrace => "missing \x7b"
  | .tooManyBranches => "conditional backref with more than two branches"
  | .flagsNotFirst => "global flags not at the start of the expression"
  | .missingFlag => "missing flag"
  | .missingColon => "missing :"
  | .missingFlagEnd => "missing -, : or )"
  | .unknownFlag => "unknown flag"
  | .badFlags reason => "bad inline flags: " ++ reason
  | .variableLookBehind => "look-behind requires fixed-width pattern"
  | .templateOperator operator => "internal: unsupported template operator " ++ operator

/-- Why a pattern without a fault of form is refused. -/
inductive Limit where
  /-- A bound of a repetition is too large. -/
  | repetitionTooLarge
  /-- The pattern asks both for ASCII and for Unicode classes. -/
  | incompatibleFlags
  /-- A bound of a repetition has more digits than are taken. -/
  | tooManyDigits (count : Nat)
  /-- A look-behind is too wide. -/
  | lookBehindTooWide
deriving DecidableEq, Repr

/-- The wording of a limit. -/
def Limit.message : Limit → String
  | .repetitionTooLarge => "the repetition number is too large"
  | .incompatibleFlags => "ASCII and UNICODE flags are incompatible"
  | .tooManyDigits count =>
    "Exceeds the limit (4300 digits) for integer string conversion: value has " ++
      toString count ++ " digits; use sys.set_int_max_str_digits() to increase the limit"
  | .lookBehindTooWide => "invalid SRE code"

/-- Why a pattern is refused. -/
inductive Refusal where
  /-- A fault, with its position where it has one. -/
  | malformed (fault : Fault) (position : Option Nat)
  /-- A limit. -/
  | beyond (limit : Limit)
deriving DecidableEq, Repr

/-- The wording of a fault found at a position of a pattern. -/
def describe (pattern : List Char) (fault : Fault) : Option Nat → String
  | none => fault.message
  | some position =>
    let before := pattern.take position
    let line := before.count '\n' + 1
    let column := (before.reverse.takeWhile (· != '\n')).length + 1
    let place := fault.message ++ " at position " ++ toString position
    if pattern.contains '\n' then
      place ++ " (line " ++ toString line ++ ", column " ++ toString column ++ ")"
    else place

end ActionFlow.Pattern
