import ActionFlow.Pattern.Escape
import ActionFlow.Text.Blank
import ActionFlow.Text.Identifier

/-!
# Reading patterns

A regular expression is read from the left by descent: alternatives are made of
sequences, sequences of items, and groups hold alternatives again. A pattern is refused
at the first fault; when it is well formed, its flags must go together and its
look-behinds must have a fixed width.
-/

namespace ActionFlow.Pattern

/-- The bound from which a repetition is too large. -/
def repetitionLimit : Nat := 4294967295

/-- The bound from which a group number is too large. -/
def groupLimit : Nat := 1073741823

/-- A bound of a repetition, if digits give one. -/
def readBound (digits : List Char) : Reading (Option Nat) := do
  if digits.isEmpty then return none
  else if 4300 < digits.length then throw (.beyond (.tooManyDigits digits.length))
  else
    let bound := decimalValue digits
    if repetitionLimit ≤ bound then throw (.beyond .repetitionTooLarge)
    else return some bound

/-- The bounds between the braces of a quantifier. Without a closing brace after them
nothing is taken, and the opening brace stands for itself. -/
def readBounds : Reading (Option (Nat × Option Nat)) := do
  let before ← get
  let here ← place
  if (← peek) = some (.plain '\x7d') then return none
  else
    let least ← takeWhile Text.isAsciiDigit (← remaining)
    let most ← if ← accept ',' then takeWhile Text.isAsciiDigit (← remaining) else pure least
    if ← accept '\x7d' then
      let low := (← readBound least).getD 0
      match ← readBound most with
      | none => return some (low, none)
      | some high =>
        if high < low then failAt .boundsReversed here else return some (low, some high)
    else
      set before
      return none

/-- Reads how greedy a quantifier is. -/
def readGreed : Reading Greed := do
  if ← accept '?' then return .lazy
  else if ← accept '+' then return .possessive
  else return .greedy

/-- Repeats the last of the items before, which are held last first. `here` is the place
after the first character of the quantifier. -/
def repeatLast (least : Nat) (most : Option Nat) (here : Nat) (before : List Item) :
    Reading (List Item) := do
  match before with
  | [] => failAt .nothingToRepeat (here - 1)
  | .anchor :: _ => failAt .nothingToRepeat (here - 1)
  | .repetition _ _ _ _ :: _ => failAt .multipleRepeat (here - 1)
  | item :: earlier =>
    let greed ← readGreed
    return .repetition greed least most [item] :: earlier

/-- A member of a character set from its first token. -/
def readMember : Token → Reading Member
  | .escape c => readSetEscape c
  | .plain c => return .code c.toNat

/-- Reads a character set up to its closing bracket. `opening` is the place of the opening
one, and a bracket that comes first belongs to the set. -/
def readSet (opening : Nat) : Nat → Bool → Reading Unit
  | 0, _ => return
  | steps + 1, isFirst => do
    match ← take with
    | none => failAt .unterminatedSet opening
    | some first =>
      if first = .plain ']' && !isFirst then return
      else
        let low ← readMember first
        if ← accept '-' then
          match ← take with
          | none => failAt .unterminatedSet opening
          | some last =>
            if last = .plain ']' then return
            else
              let high ← readMember last
              let width := first.chars.length + 1 + last.chars.length
              let fault := Fault.badRange (String.ofList first.chars) (String.ofList last.chars)
              match low, high with
              | .code a, .code b =>
                if b < a then failBack fault width else readSet opening steps false
              | _, _ => failBack fault width
        else readSet opening steps false

/-- Whether a token is a letter of any script. -/
def Token.isLetter : Token → Bool
  | .plain c => Text.isLetter c
  | .escape _ => false

/-- The flag of a token. -/
def Token.flag? : Token → Option Flag
  | .plain c => Flag.ofChar? c
  | .escape _ => none

/-- Flags of a group: those that it turns on and off. Flags of the whole pattern are
none of a group. -/
inductive GroupFlags where
  /-- The flags are for the whole pattern. -/
  | whole
  /-- The flags are for the group. -/
  | scoped (on off : List Flag)

/-- Reads the flags after a minus sign, from a first token on. -/
def readFlagsOff : Nat → List Flag → Token → Reading (List Flag)
  | 0, off, _ => return off
  | steps + 1, off, token => do
    match token.flag? with
    | none => return off
    | some flag =>
      if flag.choosesClasses then
        failBack (.badFlags "cannot turn off flags 'a', 'u' and 'L'") 0
      else
        let off := off ++ [flag]
        match ← take with
        | none => failBack .missingColon 0
        | some next =>
          if next = .plain ':' then return off
          else if next.flag?.isNone then
            failBack (if next.isLetter then .unknownFlag else .missingColon) next.chars.length
          else readFlagsOff steps off next

/-- Reads the flags that are turned on, from a first token on, and the token after them. -/
def readFlagsOn : Nat → List Flag → Token → Reading (List Flag × Token)
  | 0, on, token => return (on, token)
  | steps + 1, on, token => do
    match token.flag? with
    | none => return (on, token)
    | some flag =>
      if flag = .localeClasses then
        failBack (.badFlags "cannot use 'L' flag with a str pattern") 0
      else
        let on := on ++ [flag]
        if flag.choosesClasses && on.any fun other => other.choosesClasses && other ≠ flag then
          failBack (.badFlags "flags 'a', 'u' and 'L' are incompatible") 0
        else
          match ← take with
          | none => failBack .missingFlagEnd 0
          | some next =>
            if next = .plain ')' || next = .plain '-' || next = .plain ':' then
              return (on, next)
            else if next.flag?.isNone then
              failBack (if next.isLetter then .unknownFlag else .missingFlagEnd)
                next.chars.length
            else readFlagsOn steps on next

/-- Reads the flags of a group from their first token on. -/
def readFlags (first : Token) : Reading GroupFlags := do
  let (on, stop) ← readFlagsOn (← remaining) [] first
  if stop = .plain ')' then
    modify fun p => { p with flags := p.flags ++ on }
    return .whole
  else if on.contains .template then
    failBack (.badFlags "cannot turn on global flag") 1
  else
    let off ←
      if stop = .plain '-' then
        match ← take with
        | none => failBack .missingFlag 0
        | some token =>
          if token.flag?.isNone then
            failBack (if token.isLetter then .unknownFlag else .missingFlag) token.chars.length
          else readFlagsOff (← remaining) [] token
      else pure []
    if off.contains .template then failBack (.badFlags "cannot turn off global flag") 1
    else if on.any off.contains then failBack (.badFlags "flag turned on and off") 1
    else return .scoped on off

/-- Refuses a name that is no identifier. -/
def checkGroupName (name : List Char) : Reading Unit := do
  if Text.isIdentifier name then return
  else failBack (.badGroupName (String.ofList name)) (name.length + 1)

/-- The number of a named group. -/
def groupNamed (name : List Char) : Reading Nat := do
  match (← get).names.lookup (String.ofList name) with
  | some group => return group
  | none => failBack (.unknownGroup (String.ofList name)) (name.length + 1)

/-- Opens a group, under a name if it has one, and gives its number. -/
def openGroup (name : Option (List Char)) : Reading Nat := do
  let p ← get
  let group := p.groups.length
  match name with
  | none =>
    set { p with groups := p.groups ++ [none] }
    return group
  | some chars =>
    let text := String.ofList chars
    match p.names.lookup text with
    | some earlier => failBack (.redefinition text group earlier) (chars.length + 1)
    | none =>
      set { p with groups := p.groups ++ [none], names := p.names ++ [(text, group)] }
      return group

/-- Closes a group, whose width is now known. -/
def closeGroup (group : Nat) (body : List Item) : Reading Unit :=
  modify fun p => { p with groups := p.groups.set group (some (sequenceWidth body)) }

/-- The group number that a text spells: decimal digits of any script with single low
lines between them, perhaps with a sign in front and blanks around. -/
def groupNumber? (text : List Char) : Option Nat :=
  let trimmed := Text.trim Text.isBlank text
  let (negative, unsigned) := match trimmed with
    | '-' :: rest => (true, rest)
    | '+' :: rest => (false, rest)
    | rest => (false, rest)
  let digits := unsigned.filter (· != '_')
  let grouped := unsigned.head? != some '_' && unsigned.getLast? != some '_' &&
    !(unsigned.zip (unsigned.drop 1)).contains ('_', '_')
  if digits ≠ [] ∧ digits.length ≤ 4300 ∧ grouped ∧
      digits.all fun c => (Text.decimalDigit? c).isSome then
    let number := digits.foldl (fun value c => 10 * value + (Text.decimalDigit? c).getD 0) 0
    if negative && number != 0 then none else some number
  else none

/-- The group that a condition names or numbers. A number may be one of a group that is
yet to come. -/
def readCondition : Reading Nat := do
  let name ← readName ')' "group name"
  if Text.isIdentifier name then groupNamed name
  else
    match groupNumber? name with
    | none => failBack (.badGroupName (String.ofList name)) (name.length + 1)
    | some 0 => failBack .badGroupNumber (name.length + 1)
    | some group =>
      if groupLimit ≤ group then failBack (.invalidReference group) (name.length + 1)
      else
        let p ← get
        if (p.conditions.lookup group).isNone then
          set { p with conditions := p.conditions ++ [(group, p.place - name.length - 1)] }
        return group

/-- Requires the closing parenthesis of a group that began at a place. -/
def closeParenthesis (opening : Nat) : Reading Unit := do
  if ← accept ')' then return
  else failAt .unterminatedGroup opening

/-- How a group begins, when something follows its opening parenthesis. -/
inductive Opening where
  /-- A group with a number and perhaps a name. -/
  | capturing (name : Option (List Char))
  /-- A group without a number, with flags turned on and off. -/
  | plain (on off : List Flag)
  /-- A look-around. -/
  | look (behind : Bool)
  /-- A group that depends on another one. -/
  | conditional (group : Nat)
  /-- Something complete that is an item of its own. -/
  | item (item : Item)
  /-- Something complete that is no item. -/
  | nothing
  /-- Flags of the whole pattern. -/
  | flags

/-- Reads how a group with a letter P begins: with a name or as a reference by name. -/
def readNamedOpening : Reading Opening := do
  if ← accept '<' then
    let name ← readName '>' "group name"
    checkGroupName name
    return .capturing (some name)
  else if ← accept '=' then
    let name ← readName ')' "group name"
    checkGroupName name
    let group ← groupNamed name
    let p ← get
    match p.groups[group]? with
    | some (some width) =>
      checkLookBehind group
      return .item (.reference width)
    | _ => failBack .openReference (name.length + 1)
  else
    match ← take with
    | none => failBack .unexpectedEnd 0
    | some token =>
      failBack (.unknownExtension ("?P" ++ String.ofList token.chars)) (token.chars.length + 2)

/-- Reads how a look-behind begins. -/
def readBehindOpening : Reading Opening := do
  match ← take with
  | none => failBack .unexpectedEnd 0
  | some token =>
    if token = .plain '=' || token = .plain '!' then return .look true
    else
      failBack (.unknownExtension ("?<" ++ String.ofList token.chars)) (token.chars.length + 2)

/-- Reads how a group begins. `opening` is the place of its parenthesis. -/
def readOpening (opening : Nat) : Reading Opening := do
  if ← accept '?' then
    match ← take with
    | none => failBack .unexpectedEnd 0
    | some (.plain 'P') => readNamedOpening
    | some (.plain ':') => return .plain [] []
    | some (.plain '#') =>
      skipComment opening (← remaining)
      return .nothing
    | some (.plain '=') => return .look false
    | some (.plain '!') => return .look false
    | some (.plain '<') => readBehindOpening
    | some (.plain '(') =>
      let group ← readCondition
      checkLookBehind group
      return .conditional group
    | some (.plain '>') => return .plain [] []
    | some token =>
      if token.flag?.isSome || token = .plain '-' then
        let flags ← if token = .plain '-' then readFlagsAfterMinus else readFlags token
        match flags with
        | .whole => return .flags
        | .scoped on off => return .plain on off
      else failBack (.unknownExtension ("?" ++ String.ofList token.chars)) (token.chars.length + 1)
  else return .capturing none
where
  /-- Reads flags that begin with a minus sign. -/
  readFlagsAfterMinus : Reading GroupFlags := do
    match ← take with
    | none => failBack .missingFlag 0
    | some token =>
      if token.flag?.isNone then
        failBack (if token.isLetter then .unknownFlag else .missingFlag) token.chars.length
      else
        let off ← readFlagsOff (← remaining) [] token
        if off.contains .template then failBack (.badFlags "cannot turn off global flag") 1
        else return .scoped [] off

/-- Whether a character is passed over in a verbose pattern. -/
def isVerboseBlank (c : Char) : Bool :=
  c == ' ' || (9 ≤ c.toNat && c.toNat ≤ 13)

/-- Whether the whole pattern is verbose, as its flags stand. -/
def isVerbose : Reading Bool := do return (← get).flags.contains .verbose

mutual

/-- Reads alternatives up to the end of the pattern or of the group. The first argument
bounds the depth of the descent and exceeds twice the length of the pattern. `outermost`
tells that these are the alternatives of the whole pattern. -/
def readAlternatives : Nat → Bool → Bool → Reading (List Item)
  | 0, _, _ => return []
  | depth + 1, outermost, verbose => do
    let first ← readSequence depth outermost verbose []
    let others ← readMoreAlternatives depth outermost verbose
    if others.isEmpty then return first
    else return [.branches (first :: others)]

/-- Reads the alternatives after the first. -/
def readMoreAlternatives : Nat → Bool → Bool → Reading (List (List Item))
  | 0, _, _ => return []
  | depth + 1, outermost, verbose => do
    if ← accept '|' then
      let verbose ← if outermost then isVerbose else pure verbose
      let next ← readSequence depth false verbose []
      let others ← readMoreAlternatives depth outermost verbose
      return next :: others
    else return []

/-- Reads a sequence of items; `before` holds those read, last first. `atStart` tells that
flags of the whole pattern may stand here as long as no item does. -/
def readSequence : Nat → Bool → Bool → List Item → Reading (List Item)
  | 0, _, _, before => return before.reverse
  | depth + 1, atStart, verbose, before => do
    match ← peek with
    | none => return before.reverse
    | some (.plain '|') => return before.reverse
    | some (.plain ')') => return before.reverse
    | some (.escape c) =>
      let _ ← take
      let item ← readEscape c
      readSequence depth atStart verbose (item :: before)
    | some (.plain c) =>
      let _ ← take
      if verbose && isVerboseBlank c then readSequence depth atStart verbose before
      else if verbose && c == '#' then
        skipLine (← remaining)
        readSequence depth atStart verbose before
      else
        match c with
        | '[' =>
          let opening := (← place) - 1
          let _ ← accept '^'
          readSet opening (← remaining) true
          readSequence depth atStart verbose (.character :: before)
        | '?' => readSequence depth atStart verbose (← repeatLast 0 (some 1) (← place) before)
        | '*' => readSequence depth atStart verbose (← repeatLast 0 none (← place) before)
        | '+' => readSequence depth atStart verbose (← repeatLast 1 none (← place) before)
        | '\x7b' =>
          let here ← place
          match ← readBounds with
          | some (least, most) =>
            readSequence depth atStart verbose (← repeatLast least most here before)
          | none => readSequence depth atStart verbose (.character :: before)
        | '^' => readSequence depth atStart verbose (.anchor :: before)
        | '$' => readSequence depth atStart verbose (.anchor :: before)
        | '(' =>
          let opening := (← place) - 1
          match ← readOpening opening with
          | .nothing => readSequence depth atStart verbose before
          | .item item => readSequence depth atStart verbose (item :: before)
          | .flags =>
            if atStart && before.isEmpty then
              readSequence depth atStart (← isVerbose) before
            else failAt .flagsNotFirst opening
          | other =>
            let item ← readGroup depth verbose opening other
            readSequence depth atStart verbose (item :: before)
        | _ => readSequence depth atStart verbose (.character :: before)

/-- Reads the rest of a group that holds alternatives. -/
def readGroup : Nat → Bool → Nat → Opening → Reading Item
  | 0, _, _, _ => return .anchor
  | depth + 1, verbose, opening, kind => do
    match kind with
    | .look behind =>
      let outer := (← get).lookBehindStart
      if behind && outer.isNone then
        modify fun p => { p with lookBehindStart := some p.groups.length }
      let body ← readAlternatives depth false verbose
      modify fun p => { p with lookBehindStart := outer }
      closeParenthesis opening
      return .look behind body
    | .conditional _ =>
      let matched ← readSequence depth false verbose []
      let unmatched ←
        if ← accept '|' then
          let branch ← readSequence depth false verbose []
          if (← peek) = some (.plain '|') then failBack .tooManyBranches 0
          else pure branch
        else pure []
      closeParenthesis opening
      return .conditional matched unmatched
    | .capturing name =>
      let group ← openGroup name
      let body ← readAlternatives depth false verbose
      closeParenthesis opening
      closeGroup group body
      return .group body
    | .plain on off =>
      let inner := (verbose || on.contains .verbose) && !off.contains .verbose
      let body ← readAlternatives depth false inner
      closeParenthesis opening
      return .group body
    | _ => return .anchor

end

/-- The items of a pattern and the progress at its end. -/
def readPattern (pattern : List Char) : Except Refusal (List Item × Progress) := do
  let start ← Progress.start pattern
  let (items, stop) ← (readAlternatives (4 * pattern.length + 4) true false).run start
  if stop.flags.contains .ascii && stop.flags.contains .unicode then
    throw (.beyond .incompatibleFlags)
  else if stop.next.isSome then
    throw (.malformed .unbalancedParenthesis (some stop.place))
  else
    match stop.conditions.find? fun (group, _) => stop.groups.length ≤ group with
    | some (group, position) => throw (.malformed (.invalidReference group) (some position))
    | none => return (items, stop)

/-- Why a pattern is refused, if it is. -/
def refusal? (pattern : List Char) : Option Refusal :=
  match readPattern pattern with
  | .error refusal => some refusal
  | .ok (items, stop) => refusalOf? (stop.flags.contains .template) items

end ActionFlow.Pattern
