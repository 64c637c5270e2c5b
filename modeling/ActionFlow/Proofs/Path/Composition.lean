import ActionFlow.Proofs.Template.Lookups
import Mathlib.Data.List.DropRight

/-!
# Paths that are put together

Two texts with a dot between them make one path. Its steps are those of the first text and then
those of the second, since the dot ends a step and is no margin; only the margins at the two
outer ends are dropped. Hence the whole path leads to what the second one leads to from where the
first one has led, and where the first one faults, leads nowhere or ends at null, the whole path
does not get any further.
-/

namespace ActionFlow

section Margins

variable {drop : Char → Bool} {c : Char}

/-- What is dropped in front of a character that stays is dropped in front of it alone. -/
theorem Text.dropWhile_append_cons (hc : drop c = false) (front back : List Char) :
    (front ++ c :: back).dropWhile drop = front.dropWhile drop ++ c :: back := by
  induction front with
  | nil => exact List.dropWhile_cons_of_neg (by simp [hc])
  | cons d rest ih =>
    rw [List.cons_append, List.dropWhile_cons, List.dropWhile_cons]
    split
    · exact ih
    · rfl

/-- Around a character that stays, a text is trimmed at its two ends separately. -/
theorem Text.trim_append_cons (hc : drop c = false) (front back : List Char) :
    Text.trim drop (front ++ c :: back) =
      front.dropWhile drop ++ c :: back.rdropWhile drop := by
  have hback : (front.dropWhile drop ++ c :: back).reverse =
      back.reverse ++ c :: (front.dropWhile drop).reverse := by simp
  rw [trim, dropWhile_append_cons hc, hback, dropWhile_append_cons hc]
  simp [List.rdropWhile]

/-- A text that does not end in a margin is trimmed at its front only. -/
theorem Text.trim_of_getLast {text : List Char} (h : ∀ c ∈ text.getLast?, drop c = false) :
    Text.trim drop text = text.dropWhile drop := by
  refine List.rdropWhile_eq_self_iff.mpr fun hne => ?_
  have hsuffix : text.dropWhile drop <:+ text := List.dropWhile_suffix drop
  have hlast := List.getLast?_eq_some_getLast (hsuffix.ne_nil hne)
  rw [hsuffix.getLast hne, h _ hlast]
  exact Bool.false_ne_true

/-- A text that does not begin with a margin is trimmed at its end only. -/
theorem Text.trim_of_head {text : List Char} (h : ∀ c ∈ text.head?, drop c = false) :
    Text.trim drop text = text.rdropWhile drop := by
  have hfront : text.dropWhile drop = text := by
    cases text with
    | nil => rfl
    | cons c rest => exact List.dropWhile_cons_of_neg (by simp [h c rfl])
  rw [trim, hfront]
  rfl

end Margins

/-- The steps of two texts with a dot between them are those of the first and then those of the
second. -/
theorem splitAtDots_append_dot (front back : List Char) :
    splitAtDots (front ++ '.' :: back) = splitAtDots front ++ splitAtDots back := by
  induction front with
  | nil => rfl
  | cons c rest ih =>
    rw [List.cons_append, splitAtDots, splitAtDots, ih]
    split
    · rfl
    · cases hsteps : splitAtDots rest with
      | nil => exact absurd hsteps (splitAtDots_ne_nil rest)
      | cons first others => rfl

/-- The dot between two texts keeps the margins at their inner ends. -/
theorem pathSteps_append_dot (front back : List Char) :
    pathSteps (front ++ '.' :: back) =
      splitAtDots (front.dropWhile Text.isMargin) ++
        splitAtDots (back.rdropWhile Text.isMargin) := by
  rw [pathSteps, Text.trim_append_cons (by decide), splitAtDots_append_dot]

/-- What is looked up from where another lookup has led. From nowhere nothing is looked up, and
from null neither. -/
def lookOnward (found : Lookup) (next : Value → Lookup) : Lookup :=
  match found with
  | .error fault => .error fault
  | .ok none => .ok none
  | .ok (some .null) => .ok none
  | .ok (some v) => next v

/-- Nothing is below null. -/
theorem Value.follow_null {steps : List (List Char)} (h : steps ≠ []) :
    Value.null.follow steps = .ok none := by
  cases steps with
  | nil => exact absurd rfl h
  | cons part rest => rfl

/-- Steps are followed one part of them after the other. -/
theorem Value.follow_append (v : Value) (steps : List (List Char)) {further : List (List Char)}
    (h : further ≠ []) :
    v.follow (steps ++ further) = lookOnward (v.follow steps) fun u => u.follow further := by
  induction steps generalizing v with
  | nil =>
    cases v with
    | null => exact follow_null h
    | _ => rfl
  | cons part rest ih =>
    rw [List.cons_append, follow, follow]
    cases v.step part with
    | error fault => rfl
    | ok found =>
      cases found with
      | none => rfl
      | some next => exact ih next

/-- A path that is put together from two with a dot between them, with no margin beside the dot,
leads in any context to what the second path leads to from where the first one has led. Where the
first path faults, so does the whole, and where it leads nowhere or to null, the whole path leads
nowhere. -/
theorem resolvePath_composes {front back : List Char}
    (hfront : ∀ c ∈ front.getLast?, Text.isMargin c = false)
    (hback : ∀ c ∈ back.head?, Text.isMargin c = false) (context : Value) :
    resolvePath (front ++ '.' :: back) context =
      lookOnward (resolvePath front context) (resolvePath back) := by
  have hsteps : pathSteps (front ++ '.' :: back) = pathSteps front ++ pathSteps back := by
    rw [pathSteps_append_dot, pathSteps, pathSteps, Text.trim_of_getLast hfront,
      Text.trim_of_head hback]
  rw [resolvePath, hsteps]
  exact context.follow_append (pathSteps front) (splitAtDots_ne_nil _)

/-- A path into a list, with a margin in front, is put together with one whose first step has a
blank inside and which ends in a margin. -/
theorem resolvePath_composes_in_list :
    let context : Value := .object
      [("guests", .list [.null, .object [("first name", .list [.text "Ann", .text "Bea"])]])]
    let front := " guests.1".toList
    let back := "first name.0 ".toList
    (∀ c ∈ front.getLast?, Text.isMargin c = false) ∧
      (∀ c ∈ back.head?, Text.isMargin c = false) ∧
      resolvePath (front ++ '.' :: back) context =
        lookOnward (resolvePath front context) (resolvePath back) ∧
      resolvePath (front ++ '.' :: back) context = .ok (some (.text "Ann")) := by
  intro context front back
  have hfront : ∀ c ∈ front.getLast?, Text.isMargin c = false := by
    rintro c ⟨⟩
    rfl
  have hback : ∀ c ∈ back.head?, Text.isMargin c = false := by
    rintro c ⟨⟩
    rfl
  exact ⟨hfront, hback, resolvePath_composes hfront hback context, rfl⟩

/-- A blank beside the dot belongs to the step: without the one this is another path. -/
example :
    let context : Value := .object [("first ", .object [("name", .text "Ann")])]
    resolvePath "first .name".toList context = .ok (some (.text "Ann")) ∧
      resolvePath "first ".toList context = .ok none := by
  exact ⟨by cbv, by cbv⟩

end ActionFlow
