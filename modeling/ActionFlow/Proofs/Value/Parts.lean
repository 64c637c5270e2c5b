import ActionFlow.Schema.Checked
import ActionFlow.Template

/-!
# Parts of values

A place in a value is a list of keys and indexes, and what stands there is a part of the value.
What a path leads to in a context is a part of the context, and a text resolves to such a part or
to a text. Parts are smaller than the value that they are parts of, which gives an induction over
the parts of a value.
-/

namespace ActionFlow.Value

open Schema (Locator)

/-- What stands in a value at one step down: the value of a field, or an item. -/
def child? : Value → Locator → Option Value
  | .object fields, .key name => Keyed.get? fields name
  | .list items, .index position => items[position]?
  | _, _ => none

/-- What stands in a value at a place. -/
def part? (v : Value) : List Locator → Option Value
  | [] => some v
  | step :: rest => (v.child? step).bind fun u => u.part? rest

/-- At a place below a place stands the part of a part. -/
theorem part?_append (v : Value) (place below : List Locator) :
    v.part? (place ++ below) = (v.part? place).bind fun u => u.part? below := by
  induction place generalizing v with
  | nil => rfl
  | cons step rest ih =>
    simp only [List.cons_append, part?, Option.bind_assoc]
    exact congrArg _ (funext ih)

/-- At a place of one step stands what stands one step down. -/
theorem part?_singleton (v : Value) (step : Locator) : v.part? [step] = v.child? step :=
  Option.bind_fun_some (v.child? step)

/-- What stands one step down is smaller. -/
theorem sizeOf_child?_lt {v u : Value} {step : Locator} (h : v.child? step = some u) :
    sizeOf u < sizeOf v := by
  cases v with
  | object fields =>
    cases step with
    | key name =>
      obtain ⟨before, after, rfl, -⟩ := List.lookup_eq_some_iff.mp h
      have hmem : (name, u) ∈ before ++ (name, u) :: after :=
        List.mem_append_right before List.mem_cons_self
      have hlt := List.sizeOf_lt_of_mem hmem
      simp only [object.sizeOf_spec, Prod.mk.sizeOf_spec] at hlt ⊢
      omega
    | index position => cases h
  | list items =>
    cases step with
    | key name => cases h
    | index position =>
      have hlt := List.sizeOf_lt_of_mem (List.mem_of_getElem? h)
      simp only [list.sizeOf_spec]
      omega
  | _ => cases h

/-- What holds of a value when it holds one step down holds of all values. -/
@[elab_as_elim]
theorem inductionOnParts {motive : Value → Prop} (v : Value)
    (ofChildren : ∀ v, (∀ step u, v.child? step = some u → motive u) → motive v) : motive v :=
  ofChildren v fun _ u _ => inductionOnParts u ofChildren
termination_by sizeOf v
decreasing_by exact sizeOf_child?_lt ‹_›

/-- What a step of a path leads to stands one step down. -/
theorem exists_child?_of_step {v u : Value} {part : List Char} (h : v.step part = .ok (some u)) :
    ∃ step, v.child? step = some u := by
  cases v with
  | object fields => exact ⟨.key (String.ofList part), Except.ok.inj h⟩
  | list items =>
    unfold step at h
    dsimp only at h
    split at h
    · split at h
      · next index _ => exact ⟨.index index, Except.ok.inj h⟩
      · cases h
    · cases h
  | _ => cases h

/-- What a path leads to is a part. -/
theorem exists_part?_of_follow {v u : Value} {parts : List (List Char)}
    (h : v.follow parts = .ok (some u)) : ∃ place, v.part? place = some u := by
  induction parts generalizing v with
  | nil => exact ⟨[], Except.ok.inj h⟩
  | cons part rest ih =>
    unfold follow at h
    split at h
    · next next hnext =>
      obtain ⟨step, hstep⟩ := exists_child?_of_step hnext
      obtain ⟨below, hbelow⟩ := ih h
      refine ⟨step :: below, ?_⟩
      rw [part?, hstep]
      exact hbelow
    · cases h
    · cases h

/-- A text resolves to a text or to a part of the context. -/
theorem exists_part?_of_resolveText {context found : Value} {text : String}
    (h : resolveText context text = .ok found) :
    (∃ s, found = .text s) ∨ ∃ place, context.part? place = some found := by
  unfold resolveText at h
  split at h
  · split at h
    · next hpath =>
      cases h
      exact .inr (exists_part?_of_follow hpath)
    · cases h
      exact .inl ⟨text, rfl⟩
    · cases h
  · split at h
    · cases h
      exact .inl ⟨_, rfl⟩
    · cases h

end ActionFlow.Value
