import ActionFlow.Proofs.Condition.Equality
import ActionFlow.Proofs.Run.Selection
import ActionFlow.Proofs.Template.Walkers

/-!
# Conditions on paths that lead nowhere

A condition has two paths that may lead nowhere: its field, and the path of a value that is one
placeholder. The first fails the condition. The second leaves the value as it is written, and the
condition compares with that text: it passes or fails as the text compares with what the field
leads to. Such a condition can pass only when it asks for something different, or when the field
leads to a text or to a list that holds the placeholder.
-/

namespace ActionFlow

/-- A text occurs in another one when it is a run of its characters. -/
theorem Text.occursIn_iff (needle text : List Char) :
    occursIn needle text = true ↔ needle <:+: text := by
  induction text with
  | nil => simp [occursIn]
  | cons c rest ih =>
    rw [occursIn, Bool.or_eq_true, ih, List.infix_cons_iff, List.isPrefixOf_iff_prefix]

namespace Value

variable {texts : List Char → List Char → Prop} {numbers : ExactNumber → ExactNumber → Prop}

/-- Only a text is related to a text that comes second. -/
theorem related_text_right_iff {v : Value} {t : String} :
    v.Related texts numbers (.text t) ↔ ∃ s, v = .text s ∧ texts s.toList t.toList := by
  simp [Related, quantity?]

/-- Only a text is related to a text that comes first. -/
theorem related_text_left_iff {v : Value} {t : String} :
    (Value.text t).Related texts numbers v ↔ ∃ s, v = .text s ∧ texts t.toList s.toList := by
  simp [Related, quantity?]

/-- Only a text equals a text, and only the same one. -/
theorem matchesValue_text_iff_eq {v : Value} {t : String} :
    v.matchesValue (.text t) = true ↔ v = .text t := by
  cases v with
  | text s => rw [matchesValue_text_iff, String.toList_inj, Value.text.injEq]
  | float x => cases x <;> simp [matchesValue, isBool, equals, isNaN, agrees, place?]
  | _ => simp [matchesValue, isBool, equals, isNaN, agrees, place?]

end Value

/-- What an operator asks of a value when it compares it with a text. -/
def Operator.HoldsOfText (x : Value) (t : String) : Operator → Prop
  | .equal => x = .text t
  | .different => x ≠ .text t
  | .greater => ∃ s, x = .text s ∧ t.toList < s.toList
  | .less => ∃ s, x = .text s ∧ s.toList < t.toList
  | .greaterOrEqual => ∃ s, x = .text s ∧ t.toList ≤ s.toList
  | .lessOrEqual => ∃ s, x = .text s ∧ s.toList ≤ t.toList
  | .contains => (∃ s, x = .text s ∧ t.toList <:+: s.toList) ∨
      ∃ items, x = .list items ∧ .text t ∈ items

/-- A value holds a text when it is a text in which that one occurs, or a list that has it. -/
theorem Value.holds_text_iff {x : Value} {t : String} :
    x.holds (.text t) = true ↔ Operator.contains.HoldsOfText x t := by
  unfold Operator.HoldsOfText
  cases x with
  | text s => simp [holds, Text.occursIn_iff]
  | list items => simp [list_holds_iff, matchesValue_text_iff_eq]
  | _ => simp [holds]

/-- An operator passes a value and a text when the value is what it asks for. -/
theorem Operator.compare_text_iff (op : Operator) (x : Value) (t : String) :
    op.compare x (.text t) = true ↔ op.HoldsOfText x t := by
  cases op with
  | equal => exact Value.matchesValue_text_iff_eq
  | different =>
    have hequal : x.matchesValue (.text t) = true ↔ x = .text t := Value.matchesValue_text_iff_eq
    have hcompare : Operator.different.compare x (.text t) = !x.matchesValue (.text t) := rfl
    rw [hcompare, Bool.not_eq_true', ← Bool.not_eq_true, hequal]
    exact Iff.rfl
  | greater => exact (Value.isBefore_iff _ _).trans Value.related_text_left_iff
  | less => exact (Value.isBefore_iff _ _).trans Value.related_text_right_iff
  | greaterOrEqual => exact (Value.isBeforeOrAt_iff _ _).trans Value.related_text_left_iff
  | lessOrEqual => exact (Value.isBeforeOrAt_iff _ _).trans Value.related_text_right_iff
  | contains => exact Value.holds_text_iff

/-- Of a value that is neither a text nor a list, only a difference from a text holds. -/
theorem Operator.HoldsOfText.exists_text_or_list {op : Operator} {x : Value} {t : String}
    (h : op.HoldsOfText x t) (hop : op ≠ .different) :
    (∃ s, x = .text s) ∨ ∃ items, x = .list items ∧ .text t ∈ items := by
  cases op with
  | different => exact absurd rfl hop
  | equal => exact .inl ⟨t, h⟩
  | contains =>
    rcases h with ⟨s, hs, -⟩ | hlist
    · exact .inl ⟨s, hs⟩
    · exact .inr hlist
  | _ =>
    obtain ⟨s, hs, -⟩ := h
    exact .inl ⟨s, hs⟩

namespace Condition

variable {context : Value}

/-- A condition whose field leads nowhere fails. -/
theorem evaluate_of_field_none {c : Condition}
    (h : resolvePath c.field.toList context = .ok none) : c.evaluate context = .ok false := by
  unfold evaluate
  rw [h]

/-- A value that is one placeholder whose path leads nowhere is compared as it is written. -/
theorem evaluate_of_value_none {field text : String} {op : Operator} {x : Value}
    {lead path trail : List Char} (hsole : IsSole text.toList lead path trail)
    (hnone : resolvePath path context = .ok none)
    (hx : resolvePath field.toList context = .ok (some x)) :
    Condition.evaluate ⟨field, op, .text text⟩ context = .ok (op.compare x (.text text)) := by
  have hresolve : (Scalar.text text).toValue.resolve context = .ok (.text text) := by
    have hself := hsole.resolveText_eq context
    rw [hnone] at hself
    exact hself
  exact evaluate_eq_ok hx hresolve

/-- The field of a condition that holds leads somewhere. -/
theorem exists_of_evaluate_eq_true {c : Condition} (h : c.evaluate context = .ok true) :
    ∃ x, resolvePath c.field.toList context = .ok (some x) := by
  cases hfield : resolvePath c.field.toList context with
  | error fault => simp [evaluate, hfield] at h
  | ok found =>
    cases found with
    | none =>
      rw [evaluate_of_field_none hfield] at h
      cases h
    | some x => exact ⟨x, rfl⟩

end Condition

/-- In every context: a condition whose field leads nowhere fails, whatever it asks for. When the
field leads to a value, and the value of the condition is one placeholder between margins whose
path leads nowhere, the condition comes to what its operator says of that value and the
placeholder as it is written. So it fails unless it asks for something different, or the field
leads to a text or to a list that has the placeholder. Hence in all conditions of an edge that is
taken the field leads somewhere, and a placeholder that leads nowhere compares so as it is
written. -/
theorem Condition.unresolved_compares_as_written (context : Value) :
    (∀ c : Condition, resolvePath c.field.toList context = .ok none →
      c.evaluate context = .ok false) ∧
    (∀ (field text : String) (lead path trail : List Char) (x : Value),
      IsSole text.toList lead path trail → resolvePath path context = .ok none →
      resolvePath field.toList context = .ok (some x) → ∀ op : Operator,
        ∃ passes, Condition.evaluate ⟨field, op, .text text⟩ context = .ok passes ∧
          (passes = true ↔ op.HoldsOfText x text) ∧
          (op ≠ .different → (∀ s, x ≠ .text s) →
            (∀ items, x = .list items → .text text ∉ items) → passes = false)) ∧
    ∀ edges e, firstOpenEdge context edges = .ok (some e) → e ∈ edges ∧
      ∀ c ∈ e.conditions, ∃ x, resolvePath c.field.toList context = .ok (some x) ∧
        ∀ text lead path trail, c.value = .text text → IsSole text.toList lead path trail →
          resolvePath path context = .ok none → c.operator.HoldsOfText x text := by
  refine ⟨fun c => evaluate_of_field_none, ?_, ?_⟩
  · intro field text lead path trail x hsole hnone hx op
    have hpasses := op.compare_text_iff x text
    refine ⟨_, evaluate_of_value_none hsole hnone hx, hpasses, fun hop htext hlist => ?_⟩
    rw [← Bool.not_eq_true, hpasses]
    intro hholds
    rcases hholds.exists_text_or_list hop with ⟨s, hs⟩ | ⟨items, hitems, hmem⟩
    · exact htext s hs
    · exact hlist items hitems hmem
  · intro edges e htaken
    obtain ⟨before, later, hsplit, -, hopen⟩ := firstOpenEdge_eq_some_iff.mp htaken
    refine ⟨hsplit ▸ List.mem_append_right _ List.mem_cons_self, fun c hc => ?_⟩
    have hholds := evaluateAll_eq_true_iff.mp hopen c hc
    obtain ⟨x, hx⟩ := exists_of_evaluate_eq_true hholds
    refine ⟨x, hx, fun text lead path trail hvalue hsole hnone => ?_⟩
    obtain ⟨field, op, value⟩ := c
    obtain rfl : value = .text text := hvalue
    have hcompare : Condition.evaluate ⟨field, op, .text text⟩ context =
        .ok (op.compare x (.text text)) := evaluate_of_value_none hsole hnone hx
    exact (op.compare_text_iff x text).mp (Except.ok.inj (hcompare.symm.trans hholds))

/-- A number is not less than a limit that leads nowhere, and a condition on a discount that is not
there fails. The number differs from the limit as it is written, and the edge that asks for that
is taken. -/
theorem Condition.limit_compares_as_written :
    let text := "\x7b\x7blimit\x7d\x7d"
    let context : Value := .object [("price", .int 5)]
    let e : Edge := ⟨"other", [⟨"price", .different, .text text⟩]⟩
    Condition.evaluate ⟨"discount", .different, .int 0⟩ context = .ok false ∧
      Condition.evaluate ⟨"price", .less, .text text⟩ context = .ok false ∧
      firstOpenEdge context [⟨"cheap", [⟨"price", .less, .text text⟩]⟩, e] = .ok (some e) ∧
      Operator.different.HoldsOfText (.int 5) text := by
  intro text context e
  obtain ⟨hfields, hvalues, hedges⟩ := Condition.unresolved_compares_as_written context
  obtain ⟨lead, trail, hsole⟩ : ∃ lead trail, IsSole text.toList lead "limit".toList trail :=
    exists_isSole (by decide +kernel)
  have hnone : resolvePath "limit".toList context = .ok none := rfl
  have hprice : resolvePath "price".toList context = .ok (some (.int 5)) := rfl
  obtain ⟨passes, hless, -, hfails⟩ := hvalues "price" text _ _ _ _ hsole hnone hprice .less
  obtain rfl : passes = false := hfails (by simp) (by simp) (by simp)
  have hdifferent : evaluateAll context e.conditions = .ok true := by decide +kernel
  have htaken : firstOpenEdge context [⟨"cheap", [⟨"price", .less, .text text⟩]⟩, e] =
      .ok (some e) := by
    refine firstOpenEdge_eq_some_iff.mpr ⟨[_], [], rfl, ?_, hdifferent⟩
    simp [evaluateAll, hless]
  obtain ⟨-, hconditions⟩ := hedges _ e htaken
  obtain ⟨x, hx, hholds⟩ := hconditions _ List.mem_cons_self
  obtain rfl := Option.some.inj (Except.ok.inj (hprice.symm.trans hx))
  exact ⟨hfields ⟨"discount", .different, .int 0⟩ rfl, hless, htaken,
    hholds text _ _ _ rfl hsole hnone⟩

/-- A number differs from a placeholder that leads nowhere, and a text lies before one: both
conditions hold, although there is nothing to compare with, and an edge is taken for that. -/
theorem Condition.different_from_missing_passes :
    let text := "\x7b\x7bmissing\x7d\x7d"
    let context : Value := .object [("x", .int 1), ("name", .text "a")]
    let e : Edge := ⟨"done", [⟨"x", .different, .text text⟩]⟩
    resolvePath "missing".toList context = .ok none ∧
      Condition.evaluate ⟨"x", .different, .text text⟩ context = .ok true ∧
      Condition.evaluate ⟨"name", .less, .text text⟩ context = .ok true ∧
      firstOpenEdge context [e] = .ok (some e) := by
  intro text context e
  have hdifferent : Condition.evaluate ⟨"x", .different, .text text⟩ context = .ok true := by
    decide +kernel
  have hless : Condition.evaluate ⟨"name", .less, .text text⟩ context = .ok true := by
    decide +kernel
  have hopen : evaluateAll context e.conditions = .ok true :=
    evaluateAll_eq_true_iff.mpr (by simpa [e] using hdifferent)
  exact ⟨rfl, hdifferent, hless, firstOpenEdge_eq_some_iff.mpr ⟨[], [], rfl, by simp, hopen⟩⟩

end ActionFlow
