import ActionFlow.Proofs.Json.Legible
import ActionFlow.Proofs.Number.Exact
import Mathlib

/-!
# Values that look alike

Two values are alike when they have parts at the same places, and the parts at each place show
the same face: the same kind of value, and the same exact number or the same text. When no
object has a key twice, two values agree exactly when they are alike. So agreement is an
equivalence that knows of no rounding and of no order of keys.
-/

namespace ActionFlow

open Schema (Locator)

variable {α : Type}

/-- Among entries of different keys, a key has the value of the one entry that carries it. -/
theorem Keyed.get?_eq_some_iff_mem {entries : Keyed α}
    (h : (entries.map Prod.fst).Nodup) {key : String} {v : α} :
    Keyed.get? entries key = some v ↔ (key, v) ∈ entries := by
  have hmem {u : α} (hu : Keyed.get? entries key = some u) : (key, u) ∈ entries := by
    obtain ⟨before, after, rfl, -⟩ := List.lookup_eq_some_iff.mp hu
    exact List.mem_append_right before List.mem_cons_self
  refine ⟨hmem, fun hv => ?_⟩
  obtain ⟨u, hu⟩ := Option.isSome_iff_exists.mp
    (Keyed.isSome_get?_iff.mpr (List.mem_map_of_mem (f := Prod.fst) hv))
  have hsame := List.inj_on_of_nodup_map h (hmem hu) hv rfl
  rw [← (Prod.mk.inj hsame).2]
  exact hu

/-- The order of entries of different keys does not matter for what is read. -/
theorem Keyed.get?_eq_of_perm {entries others : Keyed α}
    (h : (entries.map Prod.fst).Nodup) (hperm : entries.Perm others) (key : String) :
    Keyed.get? entries key = Keyed.get? others key := by
  have hothers : (others.map Prod.fst).Nodup := (hperm.map Prod.fst).nodup_iff.mp h
  refine Option.ext fun v => ?_
  rw [Keyed.get?_eq_some_iff_mem h, Keyed.get?_eq_some_iff_mem hothers, hperm.mem_iff]

section Keys

variable {fs gs : Keyed α} (hfs : (fs.map Prod.fst).Nodup)

include hfs

/-- Entries whose keys are among those of as many others leave no key of the others over. -/
theorem Keyed.get?_eq_none_of_subset (hsub : fs.map Prod.fst ⊆ gs.map Prod.fst)
    (hlength : fs.length = gs.length) {key : String} (hkey : Keyed.get? fs key = none) :
    Keyed.get? gs key = none := by
  have hperm : (fs.map Prod.fst).Perm (gs.map Prod.fst) :=
    (hfs.subperm hsub).perm_of_length_le (by simp [hlength])
  rw [← Option.not_isSome_iff_eq_none, Keyed.isSome_get?_iff] at hkey ⊢
  rwa [← hperm.mem_iff]

/-- There are as many entries of different keys as there are of others with the same keys. -/
theorem Keyed.length_eq_of_isSome (hgs : (gs.map Prod.fst).Nodup)
    (h : ∀ key, (Keyed.get? fs key).isSome = (Keyed.get? gs key).isSome) :
    fs.length = gs.length := by
  have hkeys (key : String) : key ∈ fs.map Prod.fst ↔ key ∈ gs.map Prod.fst := by
    rw [← Keyed.isSome_get?_iff, ← Keyed.isSome_get?_iff, h]
  have hlength := ((List.perm_ext_iff_of_nodup hfs hgs).mpr hkeys).length_eq
  rwa [List.length_map, List.length_map] at hlength

end Keys

namespace Value

/-! ### Different keys -/

/-- No object in a value has a key twice. Only such lists of fields stand for objects: what is set
or merged in never makes a key stand twice. -/
def KeysDiffer (v : Value) : Prop :=
  ∀ place fields, v.part? place = some (.object fields) → (fields.map Prod.fst).Nodup

/-- An object in which keys differ has no key twice. -/
theorem KeysDiffer.nodup {fields : Fields} (h : (Value.object fields).KeysDiffer) :
    (fields.map Prod.fst).Nodup := h [] fields rfl

/-- In a part of a value keys differ as they do in the value. -/
theorem KeysDiffer.of_part? {v u : Value} {place : List Locator} (h : v.KeysDiffer)
    (hu : v.part? place = some u) : u.KeysDiffer := by
  intro below fields hfields
  refine h (place ++ below) fields ?_
  rw [part?_append, hu]
  exact hfields

/-- One step down keys differ as they do in the value. -/
theorem KeysDiffer.of_child? {v u : Value} {step : Locator} (h : v.KeysDiffer)
    (hu : v.child? step = some u) : u.KeysDiffer :=
  h.of_part? ((part?_singleton v step).trans hu)

/-- Keys differ in a value when they differ one step down and the value itself is no object with
a key twice. -/
theorem KeysDiffer.of_children {v : Value}
    (hself : ∀ fields, v = .object fields → (fields.map Prod.fst).Nodup)
    (hchildren : ∀ step u, v.child? step = some u → u.KeysDiffer) : v.KeysDiffer := by
  intro place fields hfields
  cases place with
  | nil => exact hself fields (Option.some.inj hfields)
  | cons step rest =>
    obtain ⟨u, hu, hpart⟩ := Option.bind_eq_some_iff.mp hfields
    exact hchildren step u hu rest fields hpart

/-- In an object keys differ whatever the order of its fields. -/
theorem KeysDiffer.of_perm {fs gs : Fields} (h : (Value.object fs).KeysDiffer)
    (hperm : fs.Perm gs) : (Value.object gs).KeysDiffer := by
  refine .of_children ?_ fun step u hu => ?_
  · rintro fields hfields
    obtain rfl := Value.object.inj hfields
    exact (hperm.map Prod.fst).nodup_iff.mp h.nodup
  · have hchild : (Value.object fs).child? step = some u := by
      cases step with
      | key name => exact (Keyed.get?_eq_of_perm h.nodup hperm name).trans hu
      | index position => cases hu
    exact h.of_child? hchild

/-- In a legible value keys differ. -/
theorem KeysDiffer.of_isLegible {v : Value} (h : v.isLegible = true) : v.KeysDiffer := by
  induction v using inductionOnParts with
  | ofChildren v ih =>
    refine .of_children ?_ fun step u hu => ih step u hu (isLegible_of_child? h hu)
    rintro fields rfl
    exact (isLegible_object_iff.mp h).1

/-- In what a path leads to keys differ as they do in the context. -/
theorem KeysDiffer.of_resolvePath {context u : Value} {path : List Char}
    (hcontext : context.KeysDiffer) (h : resolvePath path context = .ok (some u)) :
    u.KeysDiffer := by
  obtain ⟨place, hplace⟩ := exists_part?_of_follow h
  exact hcontext.of_part? hplace

/-- In what a value resolves to keys differ as they do in the context and in the value. -/
theorem KeysDiffer.of_resolve {context v u : Value} (hcontext : context.KeysDiffer)
    (hv : v.KeysDiffer) (h : v.resolve context = .ok u) : u.KeysDiffer := by
  cases v with
  | text s =>
    rcases exists_part?_of_resolveText h with ⟨t, rfl⟩ | ⟨place, hplace⟩
    · exact .of_isLegible rfl
    · exact hcontext.of_part? hplace
  | _ =>
    cases h
    exact hv

/-- In a scalar keys differ. -/
theorem KeysDiffer.toValue (scalar : Scalar) : scalar.toValue.KeysDiffer := by
  refine .of_children ?_ ?_
  · intro fields h
    cases scalar <;> cases h
  · intro step u h
    cases scalar <;> cases h

/-! ### Faces -/

/-- What a value shows without its children. -/
inductive Face where
  /-- The absent value. -/
  | null
  /-- A number, whatever its form, or a truth value. -/
  | number (q : ExactNumber)
  /-- A floating-point number that is no number. -/
  | noNumber (x : Binary64)
  /-- A text. -/
  | text (s : String)
  /-- Some list. -/
  | list
  /-- Some object. -/
  | object

/-- The face of a value. Truth values show as zero and one, and numbers as their exact values. -/
def face : Value → Face
  | .null => .null
  | .bool b => .number (.ofRat (if b then 1 else 0))
  | .int n => .number (.ofRat n)
  | .float x => x.quantity?.elim (.noNumber x) .number
  | .text s => .text s
  | .list _ => .list
  | .object _ => .object

section Face

variable {v : Value}

/-- Only null shows as null. -/
@[simp]
theorem face_eq_null_iff : v.face = .null ↔ v = .null := by
  cases v with
  | float x => cases h : x.quantity? <;> simp [face, h]
  | _ => simp [face]

/-- Only a text shows as a text. -/
@[simp]
theorem face_eq_text_iff {s : String} : v.face = .text s ↔ v = .text s := by
  cases v with
  | float x => cases h : x.quantity? <;> simp [face, h]
  | _ => simp [face]

/-- Only lists show as lists. -/
@[simp]
theorem face_eq_list_iff : v.face = .list ↔ ∃ items, v = .list items := by
  cases v with
  | float x => cases h : x.quantity? <;> simp [face, h]
  | _ => simp [face]

/-- Only a number without an exact value shows as no number. -/
@[simp]
theorem face_eq_noNumber_iff {x : Binary64} :
    v.face = .noNumber x ↔ v = .float x ∧ x.quantity? = none := by
  cases v with
  | float y =>
    cases h : y.quantity? with
    | none =>
      simp only [face, h, Option.elim_none, Face.noNumber.injEq, float.injEq]
      exact ⟨fun hx => ⟨hx, hx ▸ h⟩, And.left⟩
    | some q =>
      simp only [face, h, Option.elim_some, reduceCtorEq, float.injEq, false_iff, not_and]
      rintro rfl hx
      cases h.symm.trans hx
  | _ => simp [face]

/-- A value shows as the number that is the point of its place. -/
theorem face_eq_number_iff {q : ExactNumber} :
    v.face = .number q ↔ v.place?.map Extent.point = some q := by
  have hint (n : ℤ) : (Extent.ofInt n).point = .ofRat n := ExactNumber.ofUnits_mul_unitsPerOne n
  cases v with
  | bool b => cases b <;> simp [face, place?, hint]
  | int n => simp [face, place?, hint]
  | float x =>
    have hx := x.quantity?_eq
    cases h : x.extent? <;> simp [face, place?, hx, h]
  | _ => simp [face, place?]

/-- What shows as a number is the truth value that stands for it, or has it as its exact value. -/
theorem exists_bool_or_quantity?_of_face {q : ExactNumber} (h : v.face = .number q) :
    (∃ b, v = .bool b ∧ q = .ofRat (if b then 1 else 0)) ∨ v.quantity? = some q := by
  cases v with
  | bool b => exact .inl ⟨b, rfl, (Face.number.inj h).symm⟩
  | int n => exact .inr (congrArg some (Face.number.inj h))
  | float x =>
    right
    cases hx : x.quantity? with
    | none => simp [face, hx] at h
    | some r =>
      simp only [face, hx, Option.elim_some, Face.number.injEq] at h
      exact hx.trans (congrArg some h)
  | _ => cases h

end Face

/-! ### Agreement one step at a time -/

section Agreement

variable {v w : Value}

/-- Only null agrees with null. -/
theorem null_agrees_iff : Value.null.agrees w = true ↔ w = .null := by
  cases w <;> simp [agrees, place?]

/-- Only a text agrees with a text, and only the same one. -/
theorem text_agrees_iff {s : String} : (Value.text s).agrees w = true ↔ w = .text s := by
  cases w with
  | text t => simpa [agrees] using eq_comm
  | _ => simp [agrees, place?]

/-- Only what was found in the same way agrees with what is no number. -/
theorem nan_agrees_iff {source : NaNSource} :
    (Value.float (.nan source)).agrees w = true ↔ w = .float (.nan source) := by
  cases w with
  | float x =>
    cases x with
    | nan other => simpa [agrees] using eq_comm
    | _ => simp [agrees, place?, Binary64.extent?]
  | _ => simp [agrees, place?, Binary64.extent?]

/-- Lists agree item by item. -/
theorem agreesItems_iff {xs ys : List Value} :
    agreesItems xs ys = true ↔
      ∀ i : ℕ, Option.Rel (fun v w => v.agrees w = true) xs[i]? ys[i]? := by
  induction xs generalizing ys with
  | nil =>
    cases ys with
    | nil => simp [agreesItems]
    | cons y ys =>
      simp only [agreesItems, Bool.false_eq_true, false_iff]
      intro h
      cases h 0
  | cons x xs ih =>
    cases ys with
    | nil =>
      simp only [agreesItems, Bool.false_eq_true, false_iff]
      intro h
      cases h 0
    | cons y ys =>
      rw [agreesItems, Bool.and_eq_true, ih]
      constructor
      · rintro ⟨hfirst, hrest⟩ i
        cases i with
        | zero => exact .some hfirst
        | succ i => exact hrest i
      · exact fun h => ⟨by simpa using h 0, fun i => h (i + 1)⟩

/-- Fields agree with others when each of them has a counterpart. -/
theorem agreesFields_iff {fs gs : Fields} :
    agreesFields fs gs = true ↔
      ∀ name v, (name, v) ∈ fs → ∃ w, Keyed.get? gs name = some w ∧ v.agrees w = true := by
  induction fs with
  | nil => simp [agreesFields]
  | cons field rest ih =>
    obtain ⟨key, u⟩ := field
    have hfirst : agreesFields ((key, u) :: rest) gs = true ↔
        (∃ w, Keyed.get? gs key = some w ∧ u.agrees w = true) ∧ agreesFields rest gs = true := by
      rw [agreesFields]
      cases Keyed.get? gs key <;> simp
    rw [hfirst, ih]
    constructor
    · rintro ⟨hu, hrest⟩ name v hmem
      rcases List.mem_cons.mp hmem with heq | hmem
      · obtain ⟨rfl, rfl⟩ := Prod.mk.inj heq
        exact hu
      · exact hrest name v hmem
    · intro h
      exact ⟨h key u List.mem_cons_self, fun name v hmem => h name v (List.mem_cons_of_mem _ hmem)⟩

/-- Fields of as many different keys agree when they agree key by key. -/
theorem fields_agree_iff {fs gs : Fields} (hfs : (fs.map Prod.fst).Nodup)
    (hgs : (gs.map Prod.fst).Nodup) :
    (fs.length == gs.length && agreesFields fs gs) = true ↔
      ∀ name, Option.Rel (fun v w => v.agrees w = true) (Keyed.get? fs name)
        (Keyed.get? gs name) := by
  rw [Bool.and_eq_true, beq_iff_eq, agreesFields_iff]
  constructor
  · rintro ⟨hlength, hfields⟩ name
    cases hf : Keyed.get? fs name with
    | some v =>
      obtain ⟨w, hw, hagree⟩ := hfields name v ((Keyed.get?_eq_some_iff_mem hfs).mp hf)
      rw [hw]
      exact .some hagree
    | none =>
      have hsub : fs.map Prod.fst ⊆ gs.map Prod.fst := by
        intro key hkey
        obtain ⟨v, hv⟩ := Option.isSome_iff_exists.mp (Keyed.isSome_get?_iff.mpr hkey)
        obtain ⟨w, hw, -⟩ := hfields key v ((Keyed.get?_eq_some_iff_mem hfs).mp hv)
        exact Keyed.isSome_get?_iff.mp (by rw [hw]; rfl)
      rw [Keyed.get?_eq_none_of_subset hfs hsub hlength hf]
      exact .none
  · intro h
    have hkeys (key : String) : (Keyed.get? fs key).isSome = (Keyed.get? gs key).isSome := by
      have hrel := h key
      generalize Keyed.get? fs key = v?, Keyed.get? gs key = w? at hrel ⊢
      cases hrel <;> rfl
    refine ⟨Keyed.length_eq_of_isSome hfs hgs hkeys, fun name v hmem => ?_⟩
    have hrel := h name
    rw [(Keyed.get?_eq_some_iff_mem hfs).mpr hmem] at hrel
    generalize Keyed.get? gs name = w? at hrel ⊢
    cases hrel with
    | some hagree => exact ⟨_, rfl, hagree⟩

/-- What stands in two values one step down is related, at every step. -/
def RelatedBelow (r : Value → Value → Prop) (v w : Value) : Prop :=
  ∀ step, Option.Rel r (v.child? step) (w.child? step)

section RelatedBelow

variable {r : Value → Value → Prop}

/-- Nothing stands in a value that has no children. -/
theorem relatedBelow_of_childless (hv : ∀ step, v.child? step = none)
    (hw : ∀ step, w.child? step = none) : RelatedBelow r v w := by
  intro step
  rw [hv, hw]
  exact .none

/-- In lists the items stand one step down. -/
theorem relatedBelow_list_iff {xs ys : List Value} :
    RelatedBelow r (.list xs) (.list ys) ↔ ∀ i : ℕ, Option.Rel r xs[i]? ys[i]? := by
  refine ⟨fun h i => h (.index i), fun h step => ?_⟩
  cases step with
  | key name => exact .none
  | index position => exact h position

/-- In objects the values of the fields stand one step down. -/
theorem relatedBelow_object_iff {fs gs : Fields} :
    RelatedBelow r (.object fs) (.object gs) ↔
      ∀ name, Option.Rel r (Keyed.get? fs name) (Keyed.get? gs name) := by
  refine ⟨fun h name => h (.key name), fun h step => ?_⟩
  cases step with
  | key name => exact h name
  | index position => exact .none

end RelatedBelow

/-- Nothing stands in a value that has a place. -/
theorem child?_eq_none_of_place? {a : Extent} (hv : v.place? = some a) (step : Locator) :
    v.child? step = none := by
  cases v with
  | list items => cases hv
  | object fields => cases hv
  | _ => rfl

/-- What has a place agrees with what shows the same face. -/
theorem agrees_iff_below_of_place? {a : Extent} (ha : v.place? = some a) :
    v.agrees w = true ↔
      v.face = w.face ∧ RelatedBelow (fun v w => v.agrees w = true) v w := by
  have hface : v.face = .number a.point := face_eq_number_iff.mpr (by rw [ha]; rfl)
  have hsame : Face.number a.point = w.face ↔ w.place? = some a := by
    rw [eq_comm, face_eq_number_iff, Option.map_eq_some_iff]
    simp [Extent.point_inj]
  rw [agrees_iff_of_place? ha, hface, hsame]
  exact ⟨fun hb => ⟨hb, relatedBelow_of_childless (child?_eq_none_of_place? ha)
    (child?_eq_none_of_place? hb)⟩, And.left⟩

/-- What agrees only with itself, as only it shows its face, agrees with what shows its face. -/
theorem agrees_iff_below_of_only (hagrees : v.agrees w = true ↔ w = v)
    (hface : w.face = v.face ↔ w = v) (hchildless : ∀ step, v.child? step = none) :
    v.agrees w = true ↔
      v.face = w.face ∧ RelatedBelow (fun v w => v.agrees w = true) v w := by
  rw [hagrees, eq_comm (b := w.face), hface]
  refine ⟨?_, And.left⟩
  rintro rfl
  exact ⟨rfl, relatedBelow_of_childless hchildless hchildless⟩

/-- Values agree when they show the same face and what stands in them one step down agrees. -/
theorem agrees_iff_below (hv : v.KeysDiffer) (hw : w.KeysDiffer) :
    v.agrees w = true ↔
      v.face = w.face ∧ RelatedBelow (fun v w => v.agrees w = true) v w := by
  cases v with
  | null => exact agrees_iff_below_of_only null_agrees_iff face_eq_null_iff fun _ => rfl
  | bool b => exact agrees_iff_below_of_place? rfl
  | int n => exact agrees_iff_below_of_place? rfl
  | float x =>
    cases x with
    | nan source =>
      have hface : w.face = .noNumber (.nan source) ↔ w = .float (.nan source) := by
        rw [face_eq_noNumber_iff]
        exact and_iff_left rfl
      exact agrees_iff_below_of_only nan_agrees_iff hface fun _ => rfl
    | infinite negative => cases negative <;> exact agrees_iff_below_of_place? rfl
    | finite negative m => cases negative <;> exact agrees_iff_below_of_place? rfl
  | text s => exact agrees_iff_below_of_only text_agrees_iff face_eq_text_iff fun _ => rfl
  | list xs =>
    cases w with
    | list ys =>
      rw [relatedBelow_list_iff, agrees, agreesItems_iff]
      exact (and_iff_right rfl).symm
    | float x => cases h : x.quantity? <;> simp [agrees, place?, face, h]
    | _ => simp [agrees, place?, face]
  | object fs =>
    cases w with
    | object gs =>
      rw [relatedBelow_object_iff, agrees, fields_agree_iff hv.nodup hw.nodup]
      exact (and_iff_right rfl).symm
    | float x => cases h : x.quantity? <;> simp [agrees, place?, face, h]
    | _ => simp [agrees, place?, face]

end Agreement

/-! ### Likeness -/

/-- Two values are alike when they have parts at the same places, and these show the same
faces. -/
def Alike (v w : Value) : Prop := ∀ place, (v.part? place).map face = (w.part? place).map face

/-- Every value is alike itself. -/
theorem Alike.refl (v : Value) : v.Alike v := fun _ => rfl

/-- Likeness does not depend on which value comes first. -/
theorem Alike.symm {v w : Value} (h : v.Alike w) : w.Alike v := fun place => (h place).symm

/-- What is alike a value that is alike a third is alike the third. -/
theorem Alike.trans {u v w : Value} (huv : u.Alike v) (hvw : v.Alike w) : u.Alike w :=
  fun place => (huv place).trans (hvw place)

/-- Values that are alike show the same face. -/
theorem Alike.face_eq {v w : Value} (h : v.Alike w) : v.face = w.face := Option.some.inj (h [])

/-- Where one of two values that are alike has a part, the other has one that is alike. -/
theorem Alike.exists_part? {v w u : Value} {place : List Locator} (h : v.Alike w)
    (hu : v.part? place = some u) : ∃ t, w.part? place = some t ∧ u.Alike t := by
  have hplace := h place
  rw [hu, Option.map_some] at hplace
  obtain ⟨t, ht, -⟩ := Option.map_eq_some_iff.mp hplace.symm
  refine ⟨t, ht, fun below => ?_⟩
  have hbelow := h (place ++ below)
  rw [part?_append, part?_append, hu, ht] at hbelow
  exact hbelow

/-- Of values that are alike, both are `nan` or none is. -/
theorem Alike.isNaN_eq {v w : Value} (h : v.Alike w) : v.isNaN = w.isNaN := by
  have hnan (u : Value) : u.isNaN = true ↔ ∃ x, u.face = .noNumber x := by
    cases u with
    | float x =>
      rcases x with source | ⟨_ | _⟩ | ⟨_ | _, m⟩ <;>
        simp [isNaN, Binary64.isNaN, Binary64.quantity?]
    | _ => simp [isNaN]
  rw [Bool.eq_iff_iff, hnan, hnan, h.face_eq]

/-- Values are alike when they show the same face and what stands in them one step down is. -/
theorem alike_iff_below {v w : Value} :
    v.Alike w ↔ v.face = w.face ∧ RelatedBelow Alike v w := by
  constructor
  · refine fun h => ⟨h.face_eq, fun step => ?_⟩
    have hrest (rest : List Locator) := h (step :: rest)
    simp only [part?] at hrest
    generalize v.child? step = v?, w.child? step = w? at hrest ⊢
    cases v? with
    | none =>
      cases w? with
      | none => exact .none
      | some b => cases hrest []
    | some a =>
      cases w? with
      | none => cases hrest []
      | some b => exact .some hrest
  · rintro ⟨hface, hbelow⟩ place
    cases place with
    | nil => exact congrArg some hface
    | cons step rest =>
      have hrel := hbelow step
      simp only [part?]
      generalize v.child? step = v?, w.child? step = w? at hrel ⊢
      cases hrel with
      | none => rfl
      | some hab => exact hab rest

/-- Two values in which keys differ agree exactly when they are alike. -/
theorem agrees_iff_alike {v w : Value} (hv : v.KeysDiffer) (hw : w.KeysDiffer) :
    v.agrees w = true ↔ v.Alike w := by
  induction v using inductionOnParts generalizing w with
  | ofChildren v ih =>
    rw [agrees_iff_below hv hw, alike_iff_below]
    refine and_congr_right' (forall_congr' fun step => ?_)
    cases ha : v.child? step with
    | none => cases w.child? step <;> simp
    | some a =>
      cases hb : w.child? step with
      | none => simp
      | some b =>
        rw [Option.rel_some_some, Option.rel_some_some]
        exact ih step a ha (hv.of_child? ha) (hw.of_child? hb)

/-- Objects whose fields stand in another order are alike. -/
theorem alike_of_perm {fs gs : Fields} (hfs : (fs.map Prod.fst).Nodup) (h : fs.Perm gs) :
    (Value.object fs).Alike (.object gs) := by
  rw [alike_iff_below, relatedBelow_object_iff]
  refine ⟨rfl, fun name => ?_⟩
  rw [Keyed.get?_eq_of_perm hfs h]
  cases Keyed.get? gs name with
  | none => exact .none
  | some v => exact .some (.refl v)

/-! ### Equality of values on their own -/

/-- Two values on their own are equal when both or neither are truth values, none is `nan`, and
they are alike. -/
theorem matchesValue_iff {v w : Value} (hv : v.KeysDiffer) (hw : w.KeysDiffer) :
    v.matchesValue w = true ↔ v.isBool = w.isBool ∧ v.isNaN = false ∧ v.Alike w := by
  rw [matchesValue, equals, Bool.and_eq_true, Bool.and_eq_true, agrees_iff_alike hv hw,
    beq_iff_eq, Bool.not_eq_true']

end Value

end ActionFlow
