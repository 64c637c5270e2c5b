import ActionFlow.Proofs.Condition.Order
import ActionFlow.Proofs.Value.Likeness
import Mathlib

/-!
# The equality of the comparison operators

Equality of data is likeness, with two exceptions for values on their own: a truth value equals
only truth values, and `nan` equals nothing. So it is an equivalence on all data but `nan`, and
the operators that look for equal values cannot tell equal values apart. The first exception ends
with the values on their own: inside lists and objects a truth value may stand where an equal
value has the number zero or one. This is the only way in which equal values differ in their
truth values, and in which equal lists differ in what they hold.
-/

namespace ActionFlow

open Schema (Locator)

namespace Value

/-! ### An equivalence -/

section Equivalence

variable {x y z : Value}

/-- What is not `nan` equals itself. -/
theorem matchesValue_refl (hx : x.KeysDiffer) (h : x.isNaN = false) :
    x.matchesValue x = true := (matchesValue_iff hx hx).mpr ⟨rfl, h, .refl x⟩

/-- Equality does not depend on which value comes first. -/
theorem matchesValue_symm (hx : x.KeysDiffer) (hy : y.KeysDiffer)
    (h : x.matchesValue y = true) : y.matchesValue x = true := by
  obtain ⟨hbool, hnan, halike⟩ := (matchesValue_iff hx hy).mp h
  exact (matchesValue_iff hy hx).mpr ⟨hbool.symm, halike.isNaN_eq ▸ hnan, halike.symm⟩

/-- What equals a value that equals a third equals the third. -/
theorem matchesValue_trans (hx : x.KeysDiffer) (hy : y.KeysDiffer) (hz : z.KeysDiffer)
    (hxy : x.matchesValue y = true) (hyz : y.matchesValue z = true) :
    x.matchesValue z = true := by
  obtain ⟨hbool, hnan, halike⟩ := (matchesValue_iff hx hy).mp hxy
  obtain ⟨hbool', -, halike'⟩ := (matchesValue_iff hy hz).mp hyz
  exact (matchesValue_iff hx hz).mpr ⟨hbool.trans hbool', hnan, halike.trans halike'⟩

/-- Equal values equal the same values. -/
theorem matchesValue_congr_right (hx : x.KeysDiffer) (hy : y.KeysDiffer) (hz : z.KeysDiffer)
    (h : y.matchesValue z = true) : x.matchesValue y = x.matchesValue z := by
  rw [Bool.eq_iff_iff]
  exact ⟨fun hxy => matchesValue_trans hx hy hz hxy h,
    fun hxz => matchesValue_trans hx hz hy hxz (matchesValue_symm hy hz h)⟩

end Equivalence

/-! ### What lists hold -/

/-- In an item of a list keys differ as they do in the list. -/
theorem KeysDiffer.of_mem {items : List Value} {item : Value}
    (h : (Value.list items).KeysDiffer) (hitem : item ∈ items) : item.KeysDiffer := by
  obtain ⟨position, hposition⟩ := List.mem_iff_getElem?.mp hitem
  have hchild : (Value.list items).child? (.index position) = some item := hposition
  exact h.of_child? hchild

/-- A list holds an item when it has an equal one. -/
theorem list_holds_iff {items : List Value} {item : Value} :
    (Value.list items).holds item = true ↔ ∃ v ∈ items, v.matchesValue item = true :=
  List.any_eq_true

/-- Values that are alike are the same text when one of them is a text. -/
theorem Alike.eq_text_iff {v w : Value} (h : v.Alike w) (s : String) :
    v = .text s ↔ w = .text s := by
  rw [← face_eq_text_iff, ← face_eq_text_iff, h.face_eq]

/-- Of values that are alike, both are lists or none is. -/
theorem Alike.exists_list_iff {v w : Value} (h : v.Alike w) :
    (∃ items, v = .list items) ↔ ∃ items, w = .list items := by
  rw [← face_eq_list_iff, ← face_eq_list_iff, h.face_eq]

/-- Equal values are held by the same lists and texts. -/
theorem holds_congr_right {container y z : Value} (hc : container.KeysDiffer)
    (hy : y.KeysDiffer) (hz : z.KeysDiffer) (h : y.matchesValue z = true) :
    container.holds y = container.holds z := by
  cases container with
  | list items =>
    rw [Bool.eq_iff_iff, list_holds_iff, list_holds_iff]
    refine exists_congr fun v => and_congr_right fun hv => ?_
    rw [matchesValue_congr_right (hc.of_mem hv) hy hz h]
  | text s =>
    have htext := ((matchesValue_iff hy hz).mp h).2.2.eq_text_iff
    by_cases hpart : ∃ part, y = .text part
    · obtain ⟨part, hpart⟩ := hpart
      rw [hpart, (htext part).mp hpart]
    · have hfalse {v : Value} (hv : ∀ part, v ≠ .text part) : (Value.text s).holds v = false := by
        cases v with
        | text part => exact absurd rfl (hv part)
        | _ => rfl
      rw [hfalse fun part hy => hpart ⟨part, hy⟩,
        hfalse fun part hz => hpart ⟨part, (htext part).mpr hz⟩]
  | _ => rfl

/-! ### Truth values inside equal values -/

/-- The number that stands for a truth value. -/
def truthQuantity (b : Bool) : ExactNumber := .ofRat (if b then 1 else 0)

/-- Where one value has a truth value, the other has the same one, or below the top the number
that stands for it. -/
def AnswersTruths (w v : Value) : Prop :=
  ∀ place b, v.part? place = some (.bool b) →
    w.part? place = some (.bool b) ∨
      place ≠ [] ∧ ∃ u, w.part? place = some u ∧ u.quantity? = some (truthQuantity b)

/-- Some truth value of one value stands where the other has a number. -/
def MeetsNumber (v w : Value) : Prop :=
  ∃ place b u, v.part? place = some (.bool b) ∧ w.part? place = some u ∧ u.isNumber = true

/-- Different truth values have different numbers. -/
theorem truthQuantity_inj {a b : Bool} : truthQuantity a = truthQuantity b ↔ a = b := by
  cases a <;> cases b <;> simp [truthQuantity]

/-- Of two values that are alike, each answers the truth values of the other. -/
theorem Alike.answersTruths {v w : Value} (h : v.Alike w) (hbool : v.isBool = w.isBool) :
    w.AnswersTruths v := by
  intro place b hb
  obtain ⟨u, hu, halike⟩ := h.exists_part? hb
  rcases exists_bool_or_quantity?_of_face halike.face_eq.symm with ⟨c, rfl, hc⟩ | hquantity
  · obtain rfl := truthQuantity_inj.mp hc
    exact .inl hu
  · refine .inr ⟨?_, u, hu, hquantity⟩
    rintro rfl
    obtain rfl := Option.some.inj hb
    obtain rfl := Option.some.inj hu
    cases w with
    | bool c => cases hquantity
    | _ => cases hbool

/-- A value that answers truth values returns the same ones when none of them meets a number. -/
theorem AnswersTruths.same {v w : Value} (h : w.AnswersTruths v) (hmeets : ¬ v.MeetsNumber w)
    {place : List Locator} {b : Bool} (hb : v.part? place = some (.bool b)) :
    w.part? place = some (.bool b) := by
  refine (h place b hb).resolve_right ?_
  rintro ⟨-, u, hu, hquantity⟩
  have hnumber := (u.isSome_quantity?_iff.mp (by rw [hquantity]; rfl)).1
  exact hmeets ⟨place, b, u, hb, hu, hnumber⟩

/-- Values of which each answers the truth values of the other have the same ones exactly when no
truth value of one meets a number of the other. -/
theorem same_truths_iff {v w : Value} (hvw : w.AnswersTruths v) (hwv : v.AnswersTruths w) :
    (∀ place b, v.part? place = some (.bool b) ↔ w.part? place = some (.bool b)) ↔
      ¬ v.MeetsNumber w ∧ ¬ w.MeetsNumber v := by
  constructor
  · intro h
    constructor
    · rintro ⟨place, b, u, hb, hu, hnumber⟩
      obtain rfl := Option.some.inj (((h place b).mp hb).symm.trans hu)
      cases hnumber
    · rintro ⟨place, b, u, hb, hu, hnumber⟩
      obtain rfl := Option.some.inj (((h place b).mpr hb).symm.trans hu)
      cases hnumber
  · rintro ⟨hv, hw⟩ place b
    exact ⟨hvw.same hv, hwv.same hw⟩

/-- Where something alike an item stands in both values one step down, both or neither of the two
are truth values. -/
def SameKinds (item v w : Value) : Prop :=
  ∀ step a b, v.child? step = some a → w.child? step = some b → a.Alike item → b.Alike item →
    a.isBool = b.isBool

/-- What one list holds, a list that is alike it holds too. -/
theorem holds_of_alike {xs ys : List Value} {item : Value} (hxs : (Value.list xs).KeysDiffer)
    (hys : (Value.list ys).KeysDiffer) (hitem : item.KeysDiffer)
    (h : (Value.list xs).Alike (.list ys)) (hkinds : SameKinds item (.list xs) (.list ys))
    (hholds : (Value.list xs).holds item = true) : (Value.list ys).holds item = true := by
  obtain ⟨a, ha, hequal⟩ := list_holds_iff.mp hholds
  obtain ⟨hkind, hnan, halike⟩ := (matchesValue_iff (hxs.of_mem ha) hitem).mp hequal
  obtain ⟨position, hposition⟩ := List.mem_iff_getElem?.mp ha
  have hpart : (Value.list xs).part? [.index position] = some a :=
    (part?_singleton _ _).trans hposition
  obtain ⟨b, hb, hab⟩ := h.exists_part? hpart
  rw [part?_singleton] at hb
  have hmem : b ∈ ys := List.mem_of_getElem? hb
  have hb_item := hab.symm.trans halike
  have hsame := hkinds (.index position) a b hposition hb halike hb_item
  refine list_holds_iff.mpr ⟨b, hmem, (matchesValue_iff (hys.of_mem hmem) hitem).mpr ?_⟩
  exact ⟨hsame.symm.trans hkind, hab.isNaN_eq ▸ hnan, hb_item⟩

/-- Values that are alike hold the same, when what they have of an item is of the same kind. -/
theorem holds_congr_left {x y item : Value} (hx : x.KeysDiffer) (hy : y.KeysDiffer)
    (hitem : item.KeysDiffer) (h : x.Alike y) (hkinds : SameKinds item x y) :
    x.holds item = y.holds item := by
  cases x with
  | list xs =>
    obtain ⟨ys, rfl⟩ := h.exists_list_iff.mp ⟨xs, rfl⟩
    have hback : SameKinds item (.list ys) (.list xs) := fun step b a hb ha hbi hai =>
      (hkinds step a b ha hb hai hbi).symm
    rw [Bool.eq_iff_iff]
    exact ⟨holds_of_alike hx hy hitem h hkinds, holds_of_alike hy hx hitem h.symm hback⟩
  | text s => rw [(h.eq_text_iff s).mp rfl]
  | _ =>
    cases y with
    | list ys =>
      obtain ⟨xs, hxs⟩ := h.exists_list_iff.mpr ⟨ys, rfl⟩
      cases hxs
    | text t => cases (h.eq_text_iff t).mpr rfl
    | _ => rfl

/-- A value is a truth value when it is one of the two. -/
theorem isBool_eq_true_iff {v : Value} : v.isBool = true ↔ ∃ b, v = .bool b := by
  cases v <;> simp [isBool]

/-- What is neither a truth value nor a number is not alike one. -/
theorem Alike.isBool_eq_false {v item : Value} (h : v.Alike item) (hbool : item.isBool = false)
    (hnumber : item.isNumber = false) : v.isBool = false := by
  rw [← Bool.not_eq_true, isBool_eq_true_iff]
  rintro ⟨b, rfl⟩
  rcases exists_bool_or_quantity?_of_face h.face_eq.symm with ⟨c, rfl, -⟩ | hquantity
  · cases hbool
  · have htrue := (item.isSome_quantity?_iff.mp (by rw [hquantity]; rfl)).1
    rw [hnumber] at htrue
    cases htrue

/-- Values with the same truth values at all places have items of the same kinds. -/
theorem sameKinds_of_same_truths {v w : Value}
    (h : ∀ place b, v.part? place = some (.bool b) ↔ w.part? place = some (.bool b))
    (item : Value) : SameKinds item v w := by
  intro step a b ha hb _ _
  rw [Bool.eq_iff_iff, isBool_eq_true_iff, isBool_eq_true_iff]
  refine exists_congr fun c => ?_
  have hc := h [step] c
  rw [part?_singleton, part?_singleton, ha, hb] at hc
  simpa using hc

end Value

namespace Operator

/-- The operators that look for equal values. -/
def equalities : List Operator := [.equal, .different, .contains]

/-- The operators that look for equal values do not tell equal values apart. -/
theorem compare_congr_right {op : Operator} (hop : op ∈ equalities) {x y z : Value}
    (hx : x.KeysDiffer) (hy : y.KeysDiffer) (hz : z.KeysDiffer)
    (h : y.matchesValue z = true) : op.compare x y = op.compare x z := by
  have hequal := Value.matchesValue_congr_right hx hy hz h
  simp only [equalities, List.mem_cons, List.not_mem_nil, or_false] at hop
  rcases hop with rfl | rfl | rfl
  · exact hequal
  · exact congrArg not hequal
  · exact Value.holds_congr_right hx hy hz h

/-- Conditions that look for values that resolve to equal ones come to the same. -/
theorem evaluate_congr_right {op : Operator} (hop : op ∈ equalities) {context y z : Value}
    (hcontext : context.KeysDiffer) {left right : Scalar}
    (hy : left.toValue.resolve context = .ok y) (hz : right.toValue.resolve context = .ok z)
    (h : y.matchesValue z = true) (field : String) :
    Condition.evaluate ⟨field, op, left⟩ context =
      Condition.evaluate ⟨field, op, right⟩ context := by
  have hykeys := hcontext.of_resolve (.toValue left) hy
  have hzkeys := hcontext.of_resolve (.toValue right) hz
  cases hfield : resolvePath field.toList context with
  | error fault => simp [Condition.evaluate, hfield]
  | ok found =>
    cases found with
    | none => simp [Condition.evaluate, hfield]
    | some x =>
      have hsame := compare_congr_right hop (hcontext.of_resolvePath hfield) hykeys hzkeys h
      have hleft := Condition.evaluate_eq_ok (c := ⟨field, op, left⟩) hfield hy
      have hright := Condition.evaluate_eq_ok (c := ⟨field, op, right⟩) hfield hz
      exact hleft.trans ((congrArg Except.ok hsame).trans hright.symm)

/-- For all data in which no object has a key twice: where one of two equal values has a truth
value, the other has the same one, or, below the top, the number that stands for it. So equal
values have the same truth values at all places exactly when no truth value of one stands where
the other has a number. Then they also hold the same items, and without this they still hold the
same items that are neither truth values nor numbers. -/
theorem equal_keeps_truth_values_iff {x y : Value} (hx : x.KeysDiffer) (hy : y.KeysDiffer)
    (h : Operator.equal.compare x y = true) :
    (y.AnswersTruths x ∧ x.AnswersTruths y) ∧
    ((∀ place b, x.part? place = some (.bool b) ↔ y.part? place = some (.bool b)) ↔
      ¬ x.MeetsNumber y ∧ ¬ y.MeetsNumber x) ∧
    ∀ item : Value, item.KeysDiffer →
      (¬ x.MeetsNumber y ∧ ¬ y.MeetsNumber x) ∨ (item.isBool = false ∧ item.isNumber = false) →
      Operator.contains.compare x item = Operator.contains.compare y item := by
  obtain ⟨hbool, -, halike⟩ := (Value.matchesValue_iff hx hy).mp h
  have hanswers := halike.answersTruths hbool
  have hback := halike.symm.answersTruths hbool.symm
  have hsame := Value.same_truths_iff hanswers hback
  refine ⟨⟨hanswers, hback⟩, hsame, fun item hitem hcases => ?_⟩
  refine Value.holds_congr_left hx hy hitem halike ?_
  rcases hcases with hmeets | ⟨hitembool, hnumber⟩
  · exact Value.sameKinds_of_same_truths (hsame.mpr hmeets) item
  · intro step a b _ _ ha hb
    rw [ha.isBool_eq_false hitembool hnumber, hb.isBool_eq_false hitembool hnumber]

/-- A menu with a whole number in it equals the same menu with that number in floating point, its
fields in another order. -/
theorem menus_keep_truth_values :
    let x : Value := .object [("open", .bool true), ("prices", .list [.int 1, .bool false])]
    let y : Value := .object [("prices", .list [.float (.ofInt 1), .bool false]),
      ("open", .bool true)]
    Operator.equal.compare x y = true ∧ y.AnswersTruths x := by
  intro x y
  have hx : x.KeysDiffer := .of_isLegible (by decide +kernel)
  have hy : y.KeysDiffer := .of_isLegible (by decide +kernel)
  have h : Operator.equal.compare x y = true := by decide +kernel
  exact ⟨h, (equal_keeps_truth_values_iff hx hy h).1.1⟩

/-- A list of the truth value true equals a list of the number one: the condition holds, although
a truth value meets a number in the two lists, and only one of them holds the truth value. -/
theorem list_of_true_equals_list_of_one :
    let x : Value := .list [.bool true]
    let y : Value := .list [.int 1]
    Condition.evaluate ⟨"xs", .equal, .text "\x7b\x7bys\x7d\x7d"⟩
        (.object [("xs", x), ("ys", y)]) = .ok true ∧
      x.part? [.index 0] = some (.bool true) ∧ y.part? [.index 0] = some (.int 1) ∧
      Operator.contains.compare x (.bool true) = true ∧
      Operator.contains.compare y (.bool true) = false := by
  intro x y
  have hequal : Operator.equal.compare x y = true := by decide +kernel
  refine ⟨?_, rfl, rfl, by decide +kernel, by decide +kernel⟩
  exact (Condition.evaluate_eq_ok rfl rfl).trans (congrArg Except.ok hequal)

/-- For all data in which no object has a key twice, equal values are those that are alike, two
numbers equal when their exact values are and objects whatever the order of their keys; on their
own, truth values equal only truth values and `nan` equals nothing. So all but `nan` equal
themselves, equality does not depend on which value comes first, and what equals a value that
equals a third equals the third. Hence in every context conditions that look for equal, for
different or for contained values come to the same when the values they look for resolve to
equal ones. -/
theorem equal_is_equivalence {x y z : Value} (hx : x.KeysDiffer) (hy : y.KeysDiffer)
    (hz : z.KeysDiffer) :
    (Operator.equal.compare x y = true ↔
      x.isBool = y.isBool ∧ x.isNaN = false ∧ x.Alike y) ∧
    (∀ a b, x.quantity? = some a → y.quantity? = some b →
      (Operator.equal.compare x y = true ↔ a = b)) ∧
    (∀ fs gs, x = .object fs → fs.Perm gs → Operator.equal.compare x (.object gs) = true) ∧
    (x.isNaN = false → Operator.equal.compare x x = true) ∧
    (Operator.equal.compare x y = true → Operator.equal.compare y x = true) ∧
    (Operator.equal.compare x y = true → Operator.equal.compare y z = true →
      Operator.equal.compare x z = true) ∧
    ∀ (context : Value) (field : String) (op : Operator) (left right : Scalar),
      context.KeysDiffer → op ∈ equalities → left.toValue.resolve context = .ok y →
      right.toValue.resolve context = .ok z → Operator.equal.compare y z = true →
      Condition.evaluate ⟨field, op, left⟩ context =
        Condition.evaluate ⟨field, op, right⟩ context := by
  refine ⟨Value.matchesValue_iff hx hy, fun a b => Value.matchesValue_iff_of_quantity, ?_,
    Value.matchesValue_refl hx, Value.matchesValue_symm hx hy, Value.matchesValue_trans hx hy hz,
    ?_⟩
  · rintro fs gs rfl hperm
    have halike := Value.alike_of_perm hx.nodup hperm
    exact (Value.matchesValue_iff hx (hx.of_perm hperm)).mpr ⟨rfl, rfl, halike⟩
  · intro context field op left right hcontext hop hleft hright h
    exact evaluate_congr_right hop hcontext hleft hright h field

/-- Two forms of an offer are equal, and where a list of offers holds the one, it holds the
other. -/
theorem offers_hold_either_form :
    let y : Value := .object [("id", .text "a"), ("price", .int 2)]
    let z : Value := .object [("price", .float (.ofInt 2)), ("id", .text "a")]
    let context : Value := .object [("offers", .list [.null, y]), ("one", y), ("other", z)]
    Operator.equal.compare y z = true ∧
      Condition.evaluate ⟨"offers", .contains, .text "\x7b\x7bone\x7d\x7d"⟩ context = .ok true ∧
      Condition.evaluate ⟨"offers", .contains, .text "\x7b\x7bother\x7d\x7d"⟩ context =
        .ok true := by
  intro y z context
  have hy : y.KeysDiffer := .of_isLegible (by decide +kernel)
  have hz : z.KeysDiffer := .of_isLegible (by decide +kernel)
  have hcontext : context.KeysDiffer := .of_isLegible (by decide +kernel)
  have h : Operator.equal.compare y z = true := by decide +kernel
  have hholds : Operator.contains.compare (.list [.null, y]) y = true := by decide +kernel
  have hone : Condition.evaluate ⟨"offers", .contains, .text "\x7b\x7bone\x7d\x7d"⟩ context =
      .ok true := (Condition.evaluate_eq_ok rfl rfl).trans (congrArg Except.ok hholds)
  obtain ⟨-, -, -, -, -, -, hreplace⟩ := equal_is_equivalence hy hy hz
  have hsame := hreplace context "offers" .contains (.text "\x7b\x7bone\x7d\x7d")
    (.text "\x7b\x7bother\x7d\x7d") hcontext (by simp [equalities]) rfl rfl h
  exact ⟨h, hone, hsame.symm.trans hone⟩

end Operator

end ActionFlow
