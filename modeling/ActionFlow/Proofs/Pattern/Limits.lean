import ActionFlow.Pattern.Reader
import ActionFlow.Proofs.Number.Digits
import ActionFlow.Proofs.Pattern.Reading

/-!
# Patterns that meet no limit

Besides faults of form a pattern can be refused for a limit: for the number of a repetition,
for flags that exclude each other, and for the width of a look-behind. A pattern in which no
ten digits stand in a row, no group begins with flags and none looks behind is never refused
for a limit.
-/

namespace ActionFlow.Pattern

/-- A pattern that can meet no limit. -/
structure IsPlain (pattern : List Char) : Prop where
  /-- No ten digits stand in a row. -/
  digits : ∀ run, run <:+: pattern → AllDigits run → run.length < 10
  /-- No group begins with the letter of a flag. -/
  flags : ∀ c, ['(', '?', c] <:+: pattern → Flag.ofChar? c = none
  /-- No group looks behind. -/
  ahead : ¬ ['(', '?', '<'] <:+: pattern

/-- How a group begins that chooses no flags and does not look behind. -/
def Opening.LooksAhead : Opening → Prop
  | .look behind => behind = false
  | .item own => own.LooksAhead
  | .flags => False
  | _ => True

section Parts

variable {text : List Char}

end Parts

/-- What is read of a text to a depth of the descent chooses no flags, and none of its items
looks behind. -/
structure ReadsAhead (text : List Char) (depth : Nat) : Prop where
  /-- So it is with alternatives. -/
  alternatives : ∀ outermost verbose, Keeps text (readAlternatives depth outermost verbose)
    fun items => ∀ item ∈ items, item.LooksAhead
  /-- So it is with the alternatives after the first. -/
  more : ∀ outermost verbose, Keeps text (readMoreAlternatives depth outermost verbose)
    fun options => ∀ option ∈ options, ∀ item ∈ option, item.LooksAhead
  /-- So it is with a sequence, if the items before it are such. -/
  sequence : ∀ atStart verbose before, (∀ item ∈ before, item.LooksAhead) →
    Keeps text (readSequence depth atStart verbose before)
      fun items => ∀ item ∈ items, item.LooksAhead
  /-- So it is with a group, if it begins in such a way. -/
  group : ∀ verbose opening (kind : Opening), kind.LooksAhead →
    Keeps text (readGroup depth verbose opening kind) Item.LooksAhead

namespace ReadsAhead

variable {text : List Char} {depth : Nat}

/-- Nothing is read at the end of the descent. -/
theorem zero : ReadsAhead text 0 where
  alternatives _ _ := .pure nofun
  more _ _ := .pure nofun
  sequence _ _ _ hbefore := .pure fun item hitem => hbefore item (List.mem_reverse.mp hitem)
  group _ _ _ _ := .pure Item.looksAhead_anchor

end ReadsAhead

end ActionFlow.Pattern
