import ActionFlow.Flow.Condition
import ActionFlow.Proofs.Number.Exact
import Mathlib

/-!
# The order of the comparison operators

Two texts, or two numbers other than `nan`, are points of one line, and the operators compare
them as these points lie: texts by their characters from the left, numbers by their exact
values. So exactly one of less, equal and greater holds, and the other two orderings are their
negations. All other pairs have no order, and a field that leads nowhere fails every
comparison.
-/

namespace ActionFlow

namespace Value

/-- A test of the places of two numbers, as a relation between their exact values. -/
theorem compare_places_iff {test : Extent → Extent → Bool} {rel : ExactNumber → ExactNumber → Prop}
    (h : ∀ a b, test a b = true ↔ rel a.point b.point) (v w : Value) :
    (v.isNumber && w.isNumber &&
      match v.place?, w.place? with
      | some a, some b => test a b
      | _, _ => false) = true ↔ ∃ a b, v.quantity? = some a ∧ w.quantity? = some b ∧ rel a b := by
  have hnone {u : Value} (hu : u.isNumber = false) : u.quantity? = none := by
    have hsome := mt u.isSome_quantity?_iff.mp (by simp [hu])
    simpa using hsome
  cases hv : v.isNumber with
  | false => simp [hnone hv]
  | true =>
    cases hw : w.isNumber with
    | false => simp [hnone hw]
    | true =>
      rw [quantity?_eq_of_isNumber hv, quantity?_eq_of_isNumber hw]
      cases v.place? with
      | none => simp
      | some a =>
        cases w.place? with
        | none => simp
        | some b => simp [h a b]

/-- Two values have an order when both are texts or both are numbers other than `nan`. -/
def HaveOrder (x y : Value) : Prop :=
  (∃ s t, x = .text s ∧ y = .text t) ∨
    (x.isNumber = true ∧ x.isNaN = false) ∧ (y.isNumber = true ∧ y.isNaN = false)

/-- Having an order does not depend on which value comes first. -/
theorem HaveOrder.symm {x y : Value} (h : x.HaveOrder y) : y.HaveOrder x := by
  rcases h with ⟨s, t, hx, hy⟩ | ⟨hx, hy⟩
  · exact .inl ⟨t, s, hy, hx⟩
  · exact .inr ⟨hy, hx⟩

/-- Two values are texts whose characters are related, or numbers whose exact values are. -/
def Related (texts : List Char → List Char → Prop) (numbers : ExactNumber → ExactNumber → Prop)
    (v w : Value) : Prop :=
  (∃ s t, v = .text s ∧ w = .text t ∧ texts s.toList t.toList) ∨
    ∃ a b, v.quantity? = some a ∧ w.quantity? = some b ∧ numbers a b

section Related

variable {texts : List Char → List Char → Prop} {numbers : ExactNumber → ExactNumber → Prop}

/-- Numbers are related as their exact values are. -/
theorem related_iff_of_quantity {v w : Value} {a b : ExactNumber} (hv : v.quantity? = some a)
    (hw : w.quantity? = some b) : v.Related texts numbers w ↔ numbers a b := by
  have htext : ¬ ∃ s t, v = .text s ∧ w = .text t ∧ texts s.toList t.toList := by
    rintro ⟨s, t, rfl, -⟩
    cases hv
  unfold Related
  rw [or_iff_right htext, hv, hw]
  simp

/-- Texts are related as their characters are. -/
theorem related_text_iff (s t : String) :
    (Value.text s).Related texts numbers (.text t) ↔ texts s.toList t.toList := by
  simp [Related, quantity?]

/-- Related values are both texts or both numbers other than `nan`. -/
theorem Related.haveOrder {v w : Value} (h : v.Related texts numbers w) : v.HaveOrder w := by
  rcases h with ⟨s, t, hv, hw, -⟩ | ⟨a, b, hv, hw, -⟩
  · exact .inl ⟨s, t, hv, hw⟩
  · exact .inr ⟨v.isSome_quantity?_iff.mp (by rw [hv]; rfl), w.isSome_quantity?_iff.mp (by rw [hw]; rfl)⟩

/-- A relation that is transitive on texts and on numbers is transitive. -/
theorem Related.trans (htexts : ∀ s t u, texts s t → texts t u → texts s u)
    (hnumbers : ∀ a b c, numbers a b → numbers b c → numbers a c) {u v w : Value}
    (huv : u.Related texts numbers v) (hvw : v.Related texts numbers w) :
    u.Related texts numbers w := by
  rcases huv with ⟨s, t, hu, rfl, hst⟩ | ⟨a, b, hu, hv, hab⟩
  · rcases hvw with ⟨t', r, hv, hw, htr⟩ | ⟨b, c, hv, hw, hbc⟩
    · obtain rfl := Value.text.inj hv
      exact .inl ⟨s, r, hu, hw, htexts _ _ _ hst htr⟩
    · cases hv
  · rcases hvw with ⟨t, r, rfl, hw, htr⟩ | ⟨b', c, hv', hw, hbc⟩
    · cases hv
    · obtain rfl := Option.some.inj (hv.symm.trans hv')
      exact .inr ⟨a, c, hu, hw, hnumbers _ _ _ hab hbc⟩

end Related

/-- A value lies before another when their characters or their exact values do. -/
theorem isBefore_iff (v w : Value) : v.isBefore w = true ↔ v.Related (· < ·) (· < ·) w := by
  unfold Related
  rw [← compare_places_iff Extent.lt_iff_point_lt v w]
  unfold isBefore
  split
  · next s t =>
    rw [decide_eq_true_iff, String.lt_iff_toList_lt]
    simp [isNumber]
  · next hneither =>
    refine ⟨Or.inr, fun h => h.resolve_left ?_⟩
    rintro ⟨s, t, rfl, rfl, -⟩
    exact hneither s t rfl rfl

/-- A value lies before another or at the same place when their characters or their exact values
do. -/
theorem isBeforeOrAt_iff (v w : Value) :
    v.isBeforeOrAt w = true ↔ v.Related (· ≤ ·) (· ≤ ·) w := by
  unfold Related
  rw [← compare_places_iff Extent.le_iff_point_le v w]
  unfold isBeforeOrAt
  split
  · next s t =>
    have hle : s.toList ≤ t.toList ↔ s < t ∨ s = t := by
      rw [le_iff_lt_or_eq, String.lt_iff_toList_lt, String.toList_inj]
    simp [isNumber, hle]
  · next hneither =>
    refine ⟨Or.inr, fun h => h.resolve_left ?_⟩
    rintro ⟨s, t, rfl, rfl, -⟩
    exact hneither s t rfl rfl

/-- Numbers are equal when their exact values are. -/
theorem matchesValue_iff_of_quantity {v w : Value} {a b : ExactNumber} (hv : v.quantity? = some a)
    (hw : w.quantity? = some b) : v.matchesValue w = true ↔ a = b := by
  obtain ⟨hvn, hvnan⟩ := v.isSome_quantity?_iff.mp (by rw [hv]; rfl)
  obtain ⟨hwn, -⟩ := w.isSome_quantity?_iff.mp (by rw [hw]; rfl)
  have hvb : v.isBool = false := by cases v <;> first | rfl | cases hvn
  have hwb : w.isBool = false := by cases w <;> first | rfl | cases hwn
  rw [quantity?_eq_of_isNumber hvn] at hv
  rw [quantity?_eq_of_isNumber hwn] at hw
  obtain ⟨p, hp, rfl⟩ := Option.map_eq_some_iff.mp hv
  obtain ⟨q, hq, rfl⟩ := Option.map_eq_some_iff.mp hw
  calc v.matchesValue w = true
      ↔ v.agrees w = true := by simp [matchesValue, equals, hvb, hwb, hvnan]
    _ ↔ q = p := by rw [agrees_iff_of_place? hp, hq, Option.some.injEq]
    _ ↔ p.point = q.point := by rw [Extent.point_inj, eq_comm]

/-- Texts are equal when their characters are. -/
theorem matchesValue_text_iff (s t : String) :
    (Value.text s).matchesValue (.text t) = true ↔ s.toList = t.toList := by
  rw [String.toList_inj]
  simp [matchesValue, isBool, equals, isNaN, agrees]

end Value

namespace Operator

/-- The operators compare two values as two points of a line lie. -/
structure ComparesAs {α : Type} [LinearOrder α] (x y : Value) (a b : α) : Prop where
  /-- Equal values are the same point. -/
  equal : Operator.equal.compare x y = true ↔ a = b
  /-- A lesser value is a point further left. -/
  less : Operator.less.compare x y = true ↔ a < b
  /-- A greater value is a point further right. -/
  greater : Operator.greater.compare x y = true ↔ b < a
  /-- Less or equal is no further right. -/
  lessOrEqual : Operator.lessOrEqual.compare x y = true ↔ a ≤ b
  /-- Greater or equal is no further left. -/
  greaterOrEqual : Operator.greaterOrEqual.compare x y = true ↔ b ≤ a

/-- Numbers are compared as their exact values lie. -/
theorem comparesAs_of_quantity {x y : Value} {a b : ExactNumber} (hx : x.quantity? = some a)
    (hy : y.quantity? = some b) : ComparesAs x y a b where
  equal := Value.matchesValue_iff_of_quantity hx hy
  less := (x.isBefore_iff y).trans (Value.related_iff_of_quantity hx hy)
  greater := (y.isBefore_iff x).trans (Value.related_iff_of_quantity hy hx)
  lessOrEqual := (x.isBeforeOrAt_iff y).trans (Value.related_iff_of_quantity hx hy)
  greaterOrEqual := (y.isBeforeOrAt_iff x).trans (Value.related_iff_of_quantity hy hx)

/-- Texts are compared as their characters lie, from the left. -/
theorem comparesAs_text (s t : String) : ComparesAs (.text s) (.text t) s.toList t.toList where
  equal := Value.matchesValue_text_iff s t
  less := (Value.isBefore_iff _ _).trans (Value.related_text_iff s t)
  greater := (Value.isBefore_iff _ _).trans (Value.related_text_iff t s)
  lessOrEqual := (Value.isBeforeOrAt_iff _ _).trans (Value.related_text_iff s t)
  greaterOrEqual := (Value.isBeforeOrAt_iff _ _).trans (Value.related_text_iff t s)

/-- The orderings that operators ask for. -/
def orderings : List Operator := [.greater, .less, .greaterOrEqual, .lessOrEqual]

/-- What the operators say of two values is coherent. -/
structure Coherent (x y : Value) (holds : Operator → Bool) : Prop where
  /-- Different is what is not equal. -/
  different : holds .different = !holds .equal
  /-- Of values that have an order, one lies before the other, or they are equal. -/
  one : x.HaveOrder y → ∃! op, op ∈ [Operator.less, .equal, .greater] ∧ holds op = true
  /-- Of values that have an order, one is greater or equal when it is not less. -/
  greaterOrEqual : x.HaveOrder y → holds .greaterOrEqual = !holds .less
  /-- Of values that have an order, one is less or equal when it is not greater. -/
  lessOrEqual : x.HaveOrder y → holds .lessOrEqual = !holds .greater
  /-- Numbers are compared by their exact values. -/
  quantities : ∀ a b, x.quantity? = some a → y.quantity? = some b → (holds .less = true ↔ a < b)
  /-- Texts are compared by their characters, from the left. -/
  letters : ∀ s t, x = .text s → y = .text t → (holds .less = true ↔ s.toList < t.toList)
  /-- Values without an order fail every ordering. -/
  unordered : ¬ x.HaveOrder y → ∀ op ∈ orderings, holds op = false

/-- Of two values that are compared as points of a line, exactly one is less, equal or greater. -/
theorem ComparesAs.existsUnique {α : Type} [LinearOrder α] {x y : Value} {a b : α}
    (h : ComparesAs x y a b) :
    ∃! op, op ∈ [Operator.less, .equal, .greater] ∧ op.compare x y = true := by
  have hcases : ∀ op, op ∈ [Operator.less, .equal, .greater] ∧ op.compare x y = true →
      (op = .less ∧ a < b) ∨ (op = .equal ∧ a = b) ∨ (op = .greater ∧ b < a) := by
    rintro op ⟨hop, hholds⟩
    simp only [List.mem_cons, List.not_mem_nil, or_false] at hop
    rcases hop with rfl | rfl | rfl
    · exact .inl ⟨rfl, h.less.mp hholds⟩
    · exact .inr (.inl ⟨rfl, h.equal.mp hholds⟩)
    · exact .inr (.inr ⟨rfl, h.greater.mp hholds⟩)
  rcases lt_trichotomy a b with hab | hab | hab
  · refine ⟨.less, ⟨by simp, h.less.mpr hab⟩, fun op hop => ?_⟩
    rcases hcases op hop with ⟨hop, -⟩ | ⟨-, hother⟩ | ⟨-, hother⟩
    · exact hop
    · exact absurd hother hab.ne
    · exact absurd hother hab.asymm
  · refine ⟨.equal, ⟨by simp, h.equal.mpr hab⟩, fun op hop => ?_⟩
    rcases hcases op hop with ⟨-, hother⟩ | ⟨hop, -⟩ | ⟨-, hother⟩
    · exact absurd hab hother.ne
    · exact hop
    · exact absurd hab hother.ne'
  · refine ⟨.greater, ⟨by simp, h.greater.mpr hab⟩, fun op hop => ?_⟩
    rcases hcases op hop with ⟨-, hother⟩ | ⟨-, hother⟩ | ⟨hop, -⟩
    · exact absurd hother hab.asymm
    · exact absurd hother hab.ne'
    · exact hop

/-- Of two values that are compared as points of a line, one is greater or equal when it is not
less. -/
theorem ComparesAs.greaterOrEqual_eq {α : Type} [LinearOrder α] {x y : Value} {a b : α}
    (h : ComparesAs x y a b) :
    Operator.greaterOrEqual.compare x y = !Operator.less.compare x y := by
  rw [Bool.eq_iff_iff, h.greaterOrEqual, Bool.not_eq_true', ← Bool.not_eq_true, h.less, not_lt]

/-- Of two values that are compared as points of a line, one is less or equal when it is not
greater. -/
theorem ComparesAs.lessOrEqual_eq {α : Type} [LinearOrder α] {x y : Value} {a b : α}
    (h : ComparesAs x y a b) :
    Operator.lessOrEqual.compare x y = !Operator.greater.compare x y := by
  rw [Bool.eq_iff_iff, h.lessOrEqual, Bool.not_eq_true', ← Bool.not_eq_true, h.greater, not_lt]

/-- Values that have an order are compared as points of some line. -/
theorem exists_comparesAs {x y : Value} (h : x.HaveOrder y) :
    ∃ (α : Type) (_ : LinearOrder α) (a b : α), ComparesAs x y a b := by
  rcases h with ⟨s, t, rfl, rfl⟩ | ⟨hx, hy⟩
  · exact ⟨List Char, inferInstance, _, _, comparesAs_text s t⟩
  · obtain ⟨a, ha⟩ := Option.isSome_iff_exists.mp (x.isSome_quantity?_iff.mpr hx)
    obtain ⟨b, hb⟩ := Option.isSome_iff_exists.mp (y.isSome_quantity?_iff.mpr hy)
    exact ⟨ExactNumber, inferInstance, a, b, comparesAs_of_quantity ha hb⟩

/-- Values that pass an ordering have an order. -/
theorem haveOrder_of_compare {x y : Value} {op : Operator} (hop : op ∈ orderings)
    (h : op.compare x y = true) : x.HaveOrder y := by
  simp only [orderings, List.mem_cons, List.not_mem_nil, or_false] at hop
  rcases hop with rfl | rfl | rfl | rfl
  · exact ((y.isBefore_iff x).mp h).haveOrder.symm
  · exact ((x.isBefore_iff y).mp h).haveOrder
  · exact ((y.isBeforeOrAt_iff x).mp h).haveOrder.symm
  · exact ((x.isBeforeOrAt_iff y).mp h).haveOrder

/-- What the operators say of two values is coherent. -/
theorem coherent_compare (x y : Value) : Coherent x y fun op => op.compare x y where
  different := rfl
  one h := by
    obtain ⟨α, _, a, b, hab⟩ := exists_comparesAs h
    exact hab.existsUnique
  greaterOrEqual h := by
    obtain ⟨α, _, a, b, hab⟩ := exists_comparesAs h
    exact hab.greaterOrEqual_eq
  lessOrEqual h := by
    obtain ⟨α, _, a, b, hab⟩ := exists_comparesAs h
    exact hab.lessOrEqual_eq
  quantities a b hx hy := (comparesAs_of_quantity hx hy).less
  letters s t hx hy := by
    subst hx hy
    exact (comparesAs_text s t).less
  unordered h op hop := by
    rw [← Bool.not_eq_true]
    exact fun hholds => h (haveOrder_of_compare hop hholds)

/-- What is less than something less is less, whatever forms the numbers have. -/
theorem less_trans {x y z : Value} (hxy : Operator.less.compare x y = true)
    (hyz : Operator.less.compare y z = true) : Operator.less.compare x z = true := by
  refine (x.isBefore_iff z).mpr (((x.isBefore_iff y).mp hxy).trans ?_ ?_ ((y.isBefore_iff z).mp hyz))
  · exact fun _ _ _ => lt_trans
  · exact fun _ _ _ => lt_trans

end Operator

/-- What a condition comes to when its field is found and its value resolves. -/
theorem Condition.evaluate_eq_ok {c : Condition} {context x y : Value}
    (hx : resolvePath c.field.toList context = .ok (some x))
    (hy : c.value.toValue.resolve context = .ok y) :
    c.evaluate context = .ok (c.operator.compare x y) := by
  unfold evaluate
  rw [hx]
  dsimp only
  rw [hy]

/-- In every context and for every field and value, all comparisons fail when the field leads
nowhere. When it leads to a value and the other value resolves, what the seven operators say of
the two is coherent: different is what is not equal, and of two texts or two numbers other than
`nan` exactly one of less, equal and greater holds, of which the other two orderings are the
negations. Numbers are compared by their exact values and texts by their characters; all other
values fail every ordering. Less is transitive across all forms of numbers, and nothing is
rounded: 2^53 + 1 is greater than the floating-point number 2^53. -/
theorem Condition.comparisons_cohere (context : Value) (field : String) (value : Scalar) :
    (resolvePath field.toList context = .ok none →
      ∀ op, Condition.evaluate ⟨field, op, value⟩ context = .ok false) ∧
    (∀ x y, resolvePath field.toList context = .ok (some x) →
      value.toValue.resolve context = .ok y →
      ∃ holds : Operator → Bool, Operator.Coherent x y holds ∧
        ∀ op, Condition.evaluate ⟨field, op, value⟩ context = .ok (holds op)) ∧
    (∀ x y z, Operator.less.compare x y = true → Operator.less.compare y z = true →
      Operator.less.compare x z = true) ∧
    Operator.greater.compare (.int (2 ^ 53 + 1)) (.float (.ofInt (2 ^ 53))) = true := by
  refine ⟨fun hnone op => ?_, fun x y hx hy => ?_, fun x y z => Operator.less_trans, ?_⟩
  · unfold Condition.evaluate
    rw [hnone]
  · exact ⟨fun op => op.compare x y, Operator.coherent_compare x y,
      fun op => Condition.evaluate_eq_ok hx hy⟩
  · decide +kernel

end ActionFlow
