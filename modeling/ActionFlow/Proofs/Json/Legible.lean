import ActionFlow.Proofs.Json.RoundTrip
import ActionFlow.Proofs.Value.Parts
import ActionFlow.Flow.Printer

/-!
# Values that can be read back

Legible values are closed under what flows do with data: a part that a path leads to is legible,
a legible value may be put under a key, and a template that is resolved in a legible context is
legible. What is left out of a document does not matter.
-/

namespace ActionFlow.Value

/-- Items are legible when each of them is. -/
theorem itemsLegible_iff {items : List Value} :
    itemsLegible items = true ↔ ∀ v ∈ items, v.isLegible = true := by
  induction items with
  | nil => simp [itemsLegible]
  | cons v rest ih => simp [itemsLegible, ih]

/-- The values of fields are legible when each of them is. -/
theorem fieldsLegible_iff {fields : List (String × Value)} :
    fieldsLegible fields = true ↔ ∀ field ∈ fields, field.2.isLegible = true := by
  induction fields with
  | nil => simp [fieldsLegible]
  | cons field rest ih => simp [fieldsLegible, ih]

/-- A list is legible when each of its items is. -/
theorem isLegible_list_iff {items : List Value} :
    (Value.list items).isLegible = true ↔ ∀ v ∈ items, v.isLegible = true := itemsLegible_iff

/-- An object is legible when its keys differ and each of its values is legible. -/
theorem isLegible_object_iff {fields : Fields} :
    (Value.object fields).isLegible = true ↔
      (fields.map Prod.fst).Nodup ∧ ∀ field ∈ fields, field.2.isLegible = true := by
  rw [isLegible, Bool.and_eq_true, decide_eq_true_iff, fieldsLegible_iff]

section Fields

variable {fields : Fields} {key : String} {v : Value}

/-- What stands under a key among legible values is legible. -/
theorem isLegible_of_get? (h : fieldsLegible fields = true)
    (hv : Keyed.get? fields key = some v) : v.isLegible = true := by
  obtain ⟨before, after, rfl, -⟩ := List.lookup_eq_some_iff.mp hv
  exact fieldsLegible_iff.mp h (key, v) (List.mem_append_right before List.mem_cons_self)

/-- A legible value may be put under a key. -/
theorem isLegible_set (h : (Value.object fields).isLegible = true) (key : String)
    (hv : v.isLegible = true) : (Value.object (Keyed.set key v fields)).isLegible = true := by
  rw [isLegible_object_iff] at h ⊢
  obtain ⟨hkeys, hvalues⟩ := h
  refine ⟨Keyed.nodup_set hkeys, fun field hfield => ?_⟩
  rcases Keyed.mem_set hfield with rfl | hold
  · exact hv
  · exact hvalues field hold

/-- Legible fields may be merged in. -/
theorem isLegible_merge {others : Fields} (h : (Value.object fields).isLegible = true)
    (hothers : fieldsLegible others = true) :
    (Value.object (Keyed.merge fields others)).isLegible = true := by
  induction others generalizing fields with
  | nil => exact h
  | cons field rest ih =>
    obtain ⟨hfield, hrest⟩ := Bool.and_eq_true_iff.mp hothers
    exact ih (isLegible_set h field.1 hfield) hrest

end Fields

/-- What stands in a legible value one step down is legible. -/
theorem isLegible_of_child? {v u : Value} {step : Schema.Locator} (h : v.isLegible = true)
    (hu : v.child? step = some u) : u.isLegible = true := by
  cases v with
  | object fields =>
    cases step with
    | key name => exact isLegible_of_get? (Bool.and_eq_true_iff.mp h).2 hu
    | index position => cases hu
  | list items =>
    cases step with
    | key name => cases hu
    | index position => exact isLegible_list_iff.mp h u (List.mem_of_getElem? hu)
  | _ => cases hu

/-- What stands in a legible value at a place is legible. -/
theorem isLegible_of_part? {v u : Value} {place : List Schema.Locator} (h : v.isLegible = true)
    (hu : v.part? place = some u) : u.isLegible = true := by
  induction place generalizing v with
  | nil =>
    obtain rfl := Option.some.inj hu
    exact h
  | cons step rest ih =>
    obtain ⟨next, hnext, hrest⟩ := Option.bind_eq_some_iff.mp hu
    exact ih (isLegible_of_child? h hnext) hrest

/-- A text that is resolved in a legible context is legible. -/
theorem isLegible_of_resolveText {context found : Value} {text : String}
    (h : context.isLegible = true) (hresolve : resolveText context text = .ok found) :
    found.isLegible = true := by
  rcases exists_part?_of_resolveText hresolve with ⟨s, rfl⟩ | ⟨place, hplace⟩
  · rfl
  · exact isLegible_of_part? h hplace

section Changes

variable {change : String → Resolved Value}

mutual

/-- A change of texts to legible values keeps a value legible. -/
theorem isLegible_of_mapTexts (hchange : ∀ s found, change s = .ok found → found.isLegible = true)
    (v : Value) (h : v.isLegible = true) {found : Value} (hmap : v.mapTexts change = .ok found) :
    found.isLegible = true := by
  cases v with
  | text s => exact hchange s found hmap
  | list items =>
    obtain ⟨others, hitems, rfl⟩ := map_eq_ok hmap
    exact itemsLegible_of_mapTexts hchange items h hitems
  | object fields =>
    obtain ⟨others, hfields, rfl⟩ := map_eq_ok hmap
    obtain ⟨hkeys, hvalues⟩ := Bool.and_eq_true_iff.mp h
    obtain ⟨hsame, hlegible⟩ := fieldsLegible_of_mapTexts hchange fields hvalues hfields
    rw [isLegible, hsame, hkeys, hlegible]
    rfl
  | null => cases hmap; exact h
  | bool b => cases hmap; exact h
  | int n => cases hmap; exact h
  | float x => cases hmap; exact h

/-- A change of texts to legible values keeps items legible. -/
theorem itemsLegible_of_mapTexts
    (hchange : ∀ s found, change s = .ok found → found.isLegible = true) (items : List Value)
    (h : itemsLegible items = true) {found : List Value}
    (hmap : mapTextsItems change items = .ok found) : itemsLegible found = true := by
  cases items with
  | nil =>
    cases hmap
    rfl
  | cons v rest =>
    obtain ⟨hv, hrest⟩ := Bool.and_eq_true_iff.mp h
    obtain ⟨first, hfirst, hmap⟩ := bind_eq_ok hmap
    obtain ⟨others, hothers, hfound⟩ := bind_eq_ok hmap
    cases hfound
    rw [itemsLegible, isLegible_of_mapTexts hchange v hv hfirst,
      itemsLegible_of_mapTexts hchange rest hrest hothers]
    rfl

/-- A change of texts to legible values keeps the keys of fields, and their values legible. -/
theorem fieldsLegible_of_mapTexts
    (hchange : ∀ s found, change s = .ok found → found.isLegible = true)
    (fields : List (String × Value)) (h : fieldsLegible fields = true)
    {found : List (String × Value)} (hmap : mapTextsFields change fields = .ok found) :
    found.map Prod.fst = fields.map Prod.fst ∧ fieldsLegible found = true := by
  cases fields with
  | nil =>
    cases hmap
    exact ⟨rfl, rfl⟩
  | cons field rest =>
    obtain ⟨key, v⟩ := field
    obtain ⟨hv, hrest⟩ := Bool.and_eq_true_iff.mp h
    obtain ⟨first, hfirst, hmap⟩ := bind_eq_ok hmap
    obtain ⟨others, hothers, hfound⟩ := bind_eq_ok hmap
    cases hfound
    obtain ⟨hsame, hlegible⟩ := fieldsLegible_of_mapTexts hchange rest hrest hothers
    refine ⟨congrArg (key :: ·) hsame, ?_⟩
    rw [fieldsLegible, isLegible_of_mapTexts hchange v hv hfirst, hlegible]
    rfl

end

end Changes

/-- A legible value that is resolved in a legible context stays legible. -/
theorem isLegible_of_resolveAll {value context found : Value} (hvalue : value.isLegible = true)
    (h : context.isLegible = true) (hresolve : value.resolveAll context = .ok found) :
    found.isLegible = true :=
  isLegible_of_mapTexts (fun _ _ hfound => isLegible_of_resolveText h hfound) value hvalue hresolve

mutual

/-- The finite part of a value is legible when the value is. -/
theorem isLegible_finitePart : (v : Value) → v.finitePart.isLegible = v.isLegible
  | .null => rfl
  | .bool _ => rfl
  | .int _ => rfl
  | .float x => by cases x <;> rfl
  | .text _ => rfl
  | .list items => itemsLegible_finiteItems items
  | .object fields => by
    obtain ⟨hkeys, hvalues⟩ := fieldsLegible_finiteFields fields
    rw [finitePart, isLegible, isLegible, hkeys, hvalues]

/-- The finite part of items is legible when the items are. -/
theorem itemsLegible_finiteItems :
    (items : List Value) → itemsLegible (finiteItems items) = itemsLegible items
  | [] => rfl
  | v :: rest => by
    rw [finiteItems, itemsLegible, itemsLegible, isLegible_finitePart v,
      itemsLegible_finiteItems rest]

/-- The finite part of fields has the same keys, and is legible when the fields are. -/
theorem fieldsLegible_finiteFields : (fields : List (String × Value)) →
    (finiteFields fields).map Prod.fst = fields.map Prod.fst ∧
      fieldsLegible (finiteFields fields) = fieldsLegible fields
  | [] => ⟨rfl, rfl⟩
  | (key, v) :: rest => by
    obtain ⟨hkeys, hvalues⟩ := fieldsLegible_finiteFields rest
    refine ⟨congrArg (key :: ·) hkeys, ?_⟩
    rw [finiteFields, fieldsLegible, fieldsLegible, isLegible_finitePart v, hvalues]

end

/-- The names of the fields that are present are among the names of all fields. -/
theorem sublist_presentFields (fields : List (String × Option Value)) :
    ((presentFields fields).map Prod.fst).Sublist (fields.map Prod.fst) := by
  induction fields with
  | nil => exact .slnil
  | cons field rest ih =>
    obtain ⟨name, v?⟩ := field
    cases v? with
    | none => exact ih.cons name
    | some v => exact ih.cons_cons name

/-- Fields of different names are legible when those that are present are. -/
theorem isLegible_presentFields {fields : List (String × Option Value)}
    (hkeys : (fields.map Prod.fst).Nodup) :
    (Value.object (presentFields fields)).isLegible = true ↔
      ∀ field ∈ fields, ∀ v ∈ field.2, v.isLegible = true := by
  rw [isLegible_object_iff, and_iff_right (hkeys.sublist (sublist_presentFields fields))]
  constructor
  · rintro h ⟨name, v?⟩ hfield v rfl
    exact h (name, v) (List.mem_filterMap.mpr ⟨(name, some v), hfield, rfl⟩)
  · intro h present hpresent
    obtain ⟨⟨name, v?⟩, hfield, hmap⟩ := List.mem_filterMap.mp hpresent
    obtain ⟨v, hv, rfl⟩ := Option.map_eq_some_iff.mp hmap
    exact h (name, v?) hfield v hv

end ActionFlow.Value
