import ActionFlow.Pattern.Fault

/-!
# The structure of regular expressions

What a well-formed pattern is made of, as far as its soundness depends on it: items that
match one character, anchors, repetitions, groups, look-arounds, back references and
branches. The width of a part is the range of lengths it can match; a look-behind needs a
part whose width is one length.
-/

namespace ActionFlow.Pattern

/-- The range of lengths that a part can match; without an upper end it is unbounded. -/
structure Width where
  /-- The smallest length. -/
  least : Nat
  /-- The largest length, if there is one. -/
  most : Option Nat
deriving DecidableEq, Repr

namespace Width

/-- The width of nothing. -/
def none : Width := ⟨0, some 0⟩

/-- The width of one character. -/
def one : Width := ⟨1, some 1⟩

/-- The width of two parts in sequence. -/
def add (a b : Width) : Width :=
  ⟨a.least + b.least, match a.most, b.most with
    | some m, some n => some (m + n)
    | _, _ => Option.none⟩

/-- The width of either of two parts. -/
def join (a b : Width) : Width :=
  ⟨min a.least b.least, match a.most, b.most with
    | some m, some n => some (max m n)
    | _, _ => Option.none⟩

/-- The width of a repetition. A part that matches only nothing has a bounded repetition
however often it is repeated. -/
def repeated (a : Width) (least : Nat) (most : Option Nat) : Width :=
  ⟨a.least * least, match a.most, most with
    | some 0, _ => some 0
    | some m, some n => some (m * n)
    | _, some 0 => some 0
    | _, _ => Option.none⟩

end Width

/-- How a repetition chooses the number of rounds. -/
inductive Greed where
  /-- As many as possible. -/
  | greedy
  /-- As few as possible. -/
  | lazy
  /-- As many as possible, never to be given back. -/
  | possessive
deriving DecidableEq, Repr

/-- An item of a pattern. -/
inductive Item where
  /-- One character out of some set. -/
  | character
  /-- A place in the text. -/
  | anchor
  /-- A repetition with its bounds. -/
  | repetition (greed : Greed) (least : Nat) (most : Option Nat) (body : List Item)
  /-- A group of any kind. -/
  | group (body : List Item)
  /-- A look-around. -/
  | look (behind : Bool) (body : List Item)
  /-- A back reference, with the width of its group. -/
  | reference (width : Width)
  /-- A group that depends on whether another one took part. -/
  | conditional (matched unmatched : List Item)
  /-- Alternatives. -/
  | branches (options : List (List Item))

mutual

/-- The width of an item. -/
def Item.width : Item → Width
  | .character => .one
  | .anchor => .none
  | .repetition _ least most body => (sequenceWidth body).repeated least most
  | .group body => sequenceWidth body
  | .look _ _ => .none
  | .reference width => width
  | .conditional matched unmatched => (sequenceWidth matched).join (sequenceWidth unmatched)
  | .branches options => branchesWidth options

/-- The width of items in sequence. -/
def sequenceWidth : List Item → Width
  | [] => .none
  | item :: rest => item.width.add (sequenceWidth rest)

/-- The width of alternatives. -/
def branchesWidth : List (List Item) → Width
  | [] => .none
  | [option] => sequenceWidth option
  | option :: rest => (sequenceWidth option).join (branchesWidth rest)

end

/-- The smallest length that is told apart from larger ones as the least of a part. -/
def leastCeiling : Nat := 4294967294

/-- The smallest length that is told apart from larger ones as the most of a part. -/
def mostCeiling : Nat := 4294967295

/-- The one length that a part matches, as far as lengths are told apart. -/
def Width.fixed? (width : Width) : Option Nat :=
  let least := min width.least leastCeiling
  let most := min (width.most.getD mostCeiling) mostCeiling
  if least = most then some least else Option.none

/-- The word for a repetition in messages. -/
def Greed.word : Greed → String
  | .greedy => "MAX_REPEAT"
  | .lazy => "MIN_REPEAT"
  | .possessive => "POSSESSIVE_REPEAT"

/-- What an item asks of the pattern it stands in. -/
inductive Demand where
  /-- A part is repeated. -/
  | repetition (greed : Greed)
  /-- A part of some width is looked for behind. -/
  | lookBehind (width : Width)

mutual

/-- What an item and those below it ask, in order. -/
def Item.demands : Item → List Demand
  | .character => []
  | .anchor => []
  | .repetition greed _ _ body => .repetition greed :: sequenceDemands body
  | .group body => sequenceDemands body
  | .look behind body =>
    (if behind then [.lookBehind (sequenceWidth body)] else []) ++ sequenceDemands body
  | .reference _ => []
  | .conditional matched unmatched => sequenceDemands matched ++ sequenceDemands unmatched
  | .branches options => branchesDemands options

/-- What the items of a sequence ask. -/
def sequenceDemands : List Item → List Demand
  | [] => []
  | item :: rest => item.demands ++ sequenceDemands rest

/-- What the items of alternatives ask. -/
def branchesDemands : List (List Item) → List Demand
  | [] => []
  | option :: rest => sequenceDemands option ++ branchesDemands rest

end

/-- What is wrong with a demand: a look-behind without fixed width or, under the template
flag, a repetition. -/
def Demand.fault? (template : Bool) : Demand → Option Fault
  | .repetition greed => if template then some (.templateOperator greed.word) else none
  | .lookBehind width => if width.fixed?.isNone then some .variableLookBehind else none

/-- The smallest width of a look-behind that is too wide. -/
def lookBehindLimit : Nat := 2147483648

/-- Whether a demand is for too wide a look-behind. -/
def Demand.isTooWide : Demand → Bool
  | .repetition _ => false
  | .lookBehind width => lookBehindLimit ≤ width.fixed?.getD 0

/-- Why items are refused, if they are: for the first fault or, without one, for a limit. -/
def refusalOf? (template : Bool) (items : List Item) : Option Refusal :=
  let demands := sequenceDemands items
  match demands.findSome? (·.fault? template) with
  | some fault => some (.malformed fault none)
  | none => if demands.any Demand.isTooWide then some (.beyond .lookBehindTooWide) else none

end ActionFlow.Pattern
