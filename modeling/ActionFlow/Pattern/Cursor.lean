import ActionFlow.Pattern.Syntax

/-!
# Reading a pattern token by token

A pattern is read in tokens, each a character or a backslash with the character after it.
One token is read ahead, so a backslash at the very end is refused as soon as the token
before it is taken. Besides its place in the pattern a reader keeps the groups met so
far, with the widths of those that are closed.
-/

namespace ActionFlow.Pattern

/-- A token of a pattern. -/
inductive Token where
  /-- A character on its own. -/
  | plain (c : Char)
  /-- A backslash and a character. -/
  | escape (c : Char)
deriving DecidableEq, Repr

/-- The characters of a token. -/
def Token.chars : Token → List Char
  | .plain c => [c]
  | .escape c => ['\\', c]

/-- A letter that sets an option of the whole pattern or of a group. -/
inductive Flag where
  /-- Case is ignored. -/
  | ignoreCase
  /-- Classes follow the locale. -/
  | localeClasses
  /-- Anchors hold at line ends. -/
  | multiline
  /-- The dot takes line ends. -/
  | dotAll
  /-- Blanks and comments are passed over. -/
  | verbose
  /-- Classes are those of ASCII. -/
  | ascii
  /-- Repetitions are refused. -/
  | template
  /-- Classes are those of Unicode. -/
  | unicode
deriving DecidableEq, Repr

/-- The flag of a letter. -/
def Flag.ofChar? : Char → Option Flag
  | 'i' => some .ignoreCase
  | 'L' => some .localeClasses
  | 'm' => some .multiline
  | 's' => some .dotAll
  | 'x' => some .verbose
  | 'a' => some .ascii
  | 't' => some .template
  | 'u' => some .unicode
  | _ => none

/-- Whether a flag chooses the kind of classes. -/
def Flag.choosesClasses : Flag → Bool
  | .ascii => true
  | .localeClasses => true
  | .unicode => true
  | _ => false

/-- Where a reader stands and what it has met. -/
structure Progress where
  /-- The token read ahead; none at the end. -/
  next : Option Token
  /-- The characters after that token. -/
  rest : List Char
  /-- The number of characters up to and including that token. -/
  passed : Nat
  /-- The groups by number from zero, which is the whole; closed ones have a width. -/
  groups : List (Option Width)
  /-- The numbers of named groups. -/
  names : List (String × Nat)
  /-- The number of groups when the outermost open look-behind began. -/
  lookBehindStart : Option Nat
  /-- The groups that conditions refer to by number, with the places of the numbers. -/
  conditions : List (Nat × Nat)
  /-- The flags of the whole pattern. -/
  flags : List Flag

/-- A step of reading: it moves on or refuses the pattern. -/
abbrev Reading (α : Type) : Type := StateT Progress (Except Refusal) α

/-- The number of characters before the token read ahead. -/
def Progress.place (p : Progress) : Nat := p.passed - (p.next.map (·.chars.length)).getD 0

/-- Reads the next token ahead. -/
def Progress.advance (p : Progress) : Except Refusal Progress :=
  match p.rest with
  | [] => .ok { p with next := none }
  | ['\\'] => .error (.malformed .escapeAtEnd (some p.passed))
  | '\\' :: c :: rest =>
    .ok { p with next := some (.escape c), rest := rest, passed := p.passed + 2 }
  | c :: rest => .ok { p with next := some (.plain c), rest := rest, passed := p.passed + 1 }

/-- The start of reading a pattern. -/
def Progress.start (pattern : List Char) : Except Refusal Progress :=
  Progress.advance
    { next := none, rest := pattern, passed := 0, groups := [none], names := [],
      lookBehindStart := none, conditions := [], flags := [] }

/-- The token read ahead. -/
def peek : Reading (Option Token) := do return (← get).next

/-- Takes the token read ahead. -/
def take : Reading (Option Token) := do
  let p ← get
  set (← p.advance)
  return p.next

/-- Takes the token read ahead when it is a certain character, and tells whether. -/
def accept (c : Char) : Reading Bool := do
  if (← peek) = some (.plain c) then
    let _ ← take
    return true
  else return false

/-- The place of the token read ahead. -/
def place : Reading Nat := do return (← get).place

/-- Refuses the pattern for a fault at a place. -/
def failAt {α : Type} (fault : Fault) (position : Nat) : Reading α :=
  throw (.malformed fault (some position))

/-- Refuses the pattern for a fault some characters before the token read ahead. -/
def failBack {α : Type} (fault : Fault) (characters : Nat) : Reading α := do
  failAt fault ((← place) - characters)

/-- Takes characters of a class, up to a number of them. -/
def takeWhile (ofClass : Char → Bool) : Nat → Reading (List Char)
  | 0 => return []
  | count + 1 => do
    match ← peek with
    | some (.plain c) =>
      if ofClass c then
        let _ ← take
        return c :: (← takeWhile ofClass count)
      else return []
    | _ => return []

/-- The number of steps that any loop over the rest of the pattern takes at most. -/
def remaining : Reading Nat := do return (← get).rest.length + 2

/-- Takes the characters of a name up to its closing character. `soFar` holds those
taken, last first. -/
def takeName (closing : Char) (what : String) : Nat → List Char → Reading (List Char)
  | 0, soFar => return soFar.reverse
  | steps + 1, soFar => do
    match ← take with
    | none =>
      if soFar.isEmpty then failBack (.missingName what) 0
      else failBack (.unterminatedName closing) soFar.length
    | some token =>
      if token = .plain closing then
        if soFar.isEmpty then failBack (.missingName what) 1
        else return soFar.reverse
      else takeName closing what steps (token.chars.reverse ++ soFar)

/-- Takes a name up to its closing character. -/
def readName (closing : Char) (what : String) : Reading (List Char) := do
  takeName closing what (← remaining) []

/-- Passes over a comment in a group. -/
def skipComment (opening : Nat) : Nat → Reading Unit
  | 0 => return
  | steps + 1 => do
    match ← peek with
    | none => failAt .unterminatedComment opening
    | some token =>
      let _ ← take
      if token = .plain ')' then return
      else skipComment opening steps

/-- Passes over the rest of a line. -/
def skipLine : Nat → Reading Unit
  | 0 => return
  | steps + 1 => do
    match ← take with
    | none => return
    | some token => if token = .plain '\n' then return else skipLine steps

/-- Whether a group is closed. -/
def Progress.isClosed (p : Progress) (group : Nat) : Bool :=
  match p.groups[group]? with
  | some (some _) => true
  | _ => false

/-- Refuses a reference from inside a look-behind to a group that is open or belongs to
the same look-behind. -/
def checkLookBehind (group : Nat) : Reading Unit := do
  let p ← get
  match p.lookBehindStart with
  | none => return
  | some start =>
    if !p.isClosed group then failBack .openReference 0
    else if start ≤ group then failBack .lookBehindReference 0
    else return

end ActionFlow.Pattern
