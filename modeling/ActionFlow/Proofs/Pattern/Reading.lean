import ActionFlow.Pattern.Escape
import Mathlib.Data.List.Infix

/-!
# What reading a pattern keeps

A reader of patterns only moves on: what is ahead of it is always an end of the text. Readers
that choose no flags keep those of the whole pattern as they are, and refuse a text for faults
of form only. That is told here of readers in general and of those for tokens, names and
escapes.
-/

namespace ActionFlow.Pattern

variable {α β : Type} {p : Progress}

/-- A refusal for a fault of form. -/
def Refusal.IsFault : Refusal → Prop
  | .malformed _ _ => True
  | .beyond _ => False

/-- A reading from some progress on ends as it is told, or refuses for a fault of form. -/
def Ensures (x : Reading α) (p : Progress) (holds : α → Progress → Prop) : Prop :=
  match x p with
  | .ok (a, stop) => holds a stop
  | .error refusal => refusal.IsFault

section Ensures

variable {holds other : α → Progress → Prop}

/-- What holds at the end of a reading may be told with less. -/
theorem Ensures.mono {x : Reading α} (h : Ensures x p holds)
    (himp : ∀ a stop, holds a stop → other a stop) : Ensures x p other := by
  unfold Ensures at h ⊢
  split
  · next hx =>
    rw [hx] at h
    exact himp _ _ h
  · next hx =>
    rw [hx] at h
    exact h

/-- A reading after another one begins where that one ends. -/
theorem ensures_bind {x : Reading α} {f : α → Reading β} {holds : β → Progress → Prop} :
    Ensures (x >>= f) p holds ↔ Ensures x p fun a stop => Ensures (f a) stop holds := by
  unfold Ensures
  have hrun : (x >>= f) p = x p >>= fun (a, stop) => f a stop := rfl
  rw [hrun]
  cases x p <;> rfl

end Ensures

/-- The characters that are still to be read. -/
def Progress.ahead (p : Progress) : List Char := (p.next.map Token.chars).getD [] ++ p.rest

/-- A place within a text at which no flags are chosen: what is ahead is an end of the text. -/
structure Progress.Within (text : List Char) (p : Progress) : Prop where
  /-- What is ahead ends the text. -/
  ahead : p.ahead <:+ text
  /-- No flags are chosen for the whole pattern. -/
  flags : p.flags = []

/-- A reading that stays within a text, chooses no flags, refuses only for faults of form, and
comes to something of a kind. -/
def Keeps (text : List Char) (x : Reading α) (kind : α → Prop) : Prop :=
  ∀ p, p.Within text → Ensures x p fun a stop => stop.Within text ∧ kind a

section Keeps

variable {text : List Char} {kind : α → Prop}

/-- A reading of nothing stays where it is. -/
theorem Keeps.pure {a : α} (h : kind a) : Keeps text (pure a) kind := fun _ hp => ⟨hp, h⟩

/-- A reading after another one keeps what both keep. -/
theorem Keeps.bind {x : Reading α} {f : α → Reading β} {other : β → Prop}
    (hx : Keeps text x kind) (hf : ∀ a, kind a → Keeps text (f a) other) :
    Keeps text (x >>= f) other := fun p hp => by
  rw [ensures_bind]
  exact (hx p hp).mono fun a stop h => hf a h.2 stop h.1

/-- What a reading comes to may be told with less. -/
theorem Keeps.mono {x : Reading α} {other : α → Prop} (h : Keeps text x kind)
    (himp : ∀ a, kind a → other a) : Keeps text x other := fun p hp =>
  (h p hp).mono fun a _ ha => ⟨ha.1, himp a ha.2⟩

/-- What an item asks of its pattern is no look-behind. -/
def Item.LooksAhead (item : Item) : Prop := ∀ width, .lookBehind width ∉ item.demands

/-- An anchor asks for nothing. -/
theorem Item.looksAhead_anchor : Item.anchor.LooksAhead := fun _ => List.not_mem_nil

end Keeps

end ActionFlow.Pattern
