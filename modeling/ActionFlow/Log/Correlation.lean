import ActionFlow.Value

/-!
# Correlation ids

One id is bound at a time, and ties together the records and requests of one piece of
work. A scope brings an id of its own, which it binds only when none is bound yet; when
the scope ends, the id that was bound before is bound again if the scope had bound its
own.
-/

namespace ActionFlow.Log

/-- The id that is bound, and what is to be bound again as each open scope ends. -/
structure Correlation where
  /-- The id that is bound; an empty one counts as none. -/
  bound : Value
  /-- For each open scope, the innermost first, the id before it, if the scope bound one. -/
  scopes : List (Option Value)

namespace Correlation

/-- Nothing is bound, and no scope is open. -/
def unbound : Correlation := ⟨.text "", []⟩

/-- Binds an id, whatever is bound. -/
def bind (id : Value) (c : Correlation) : Correlation := { c with bound := id }

/-- Opens a scope that brings an id of its own. -/
def enter (id : Value) (c : Correlation) : Correlation :=
  if c.bound.isTruthy then { c with scopes := none :: c.scopes }
  else ⟨id, some c.bound :: c.scopes⟩

/-- Ends the innermost scope. -/
def leave (c : Correlation) : Correlation :=
  match c.scopes with
  | [] => c
  | none :: outer => { c with scopes := outer }
  | some before :: outer => ⟨before, outer⟩

/-- A scope leaves the bound id, and the scopes around it, as it found them. -/
theorem leave_enter (id : Value) (c : Correlation) : (c.enter id).leave = c := by
  cases c with
  | mk bound scopes =>
    unfold enter
    split
    · rfl
    · rfl

end Correlation

end ActionFlow.Log
