import ActionFlow.Flow.Schema
import ActionFlow.Flow.Printer

/-!
# Reading what was written, field by field

A record is written as fields of which some may be absent, and read by looking each field
up. When no two fields have the same name, a lookup finds what was written under the name,
and finds nothing for an absent field as long as its second name is not used either. Lists
and objects are read back item by item.
-/

namespace ActionFlow

/-- Among fields of different names, what is present is found under its own name. -/
theorem get?_presentFields {fields : List (String × Option Value)}
    (hk : (fields.map Prod.fst).Nodup) (key : String) :
    Keyed.get? (presentFields fields) key = (fields.lookup key).join := by
  induction fields with
  | nil => rfl
  | cons field rest ih =>
    obtain ⟨name, v?⟩ := field
    obtain ⟨hname, hrest⟩ := List.nodup_cons.mp hk
    have ih := ih hrest
    unfold presentFields Keyed.get? at ih ⊢
    cases hkey : key == name with
    | false =>
      cases v? with
      | none => simpa [List.lookup_cons, hkey] using ih
      | some v => simpa [List.lookup_cons, hkey] using ih
    | true =>
      cases v? with
      | none =>
        -- The name stands nowhere else, so nothing is found further on either.
        have habsent : rest.lookup key = none := by
          rw [List.lookup_eq_none_iff]
          intro field hfield
          have hmem : field.1 ∈ rest.map Prod.fst := List.mem_map_of_mem hfield
          have hne : name ≠ field.1 := fun he => hname (he ▸ hmem)
          simpa [eq_of_beq hkey] using hne
        simpa [List.lookup_cons, hkey, habsent] using ih
      | some v => simp [List.lookup_cons, hkey]

/-- Among fields of different names, a field that was written is found. -/
theorem get?_present {fields : List (String × Option Value)} (hk : (fields.map Prod.fst).Nodup)
    {key : String} {v : Value} (hv : fields.lookup key = some (some v)) :
    Keyed.get? (presentFields fields) key = some v := by
  rw [get?_presentFields hk, hv]
  rfl

namespace Schema

/-- A change of an accepted result. -/
theorem Checked.map_accepted {α β : Type} {f : α → β} {x : Checked α} {a : α}
    (h : x = .accepted a) : f <$> x = .accepted (f a) := by
  rw [h]
  rfl

/-- Two accepted results joined. -/
theorem Checked.seq_accepted {α β : Type} {x : Checked (α → β)} {f : α → β} {y : Checked α}
    {a : α} (hx : x = .accepted f) (hy : y = .accepted a) : x <*> y = .accepted (f a) := by
  rw [hx, hy]
  rfl

variable {α β : Type} {name second : String}

/-- A required field that is there is read. -/
theorem requiredField_of_get? {fields : Fields} {reader : Reader α} {v : Value} {a : α}
    (hv : Keyed.get? fields name = some v) (hr : reader v = .accepted a) :
    requiredField fields name second reader = .accepted a := by
  unfold requiredField lookup
  rw [hv]
  dsimp only
  rw [hr]
  rfl

/-- A field with a usual value that is there is read. -/
theorem optionalField_of_get? {fields : Fields} {reader : Reader α} {absent a : α} {v : Value}
    (hv : Keyed.get? fields name = some v) (hr : reader v = .accepted a) :
    optionalField fields name second absent reader = .accepted a := by
  unfold optionalField lookup
  rw [hv]
  dsimp only
  rw [hr]
  rfl

variable {fields : List (String × Option Value)}

/-- A record is read from fields of different names when its check reads them. -/
theorem record_present {check : Fields → Checked α} {a : α}
    (hk : (fields.map Prod.fst).Nodup)
    (h : (fields.map Prod.fst).Nodup → check (presentFields fields) = .accepted a) :
    record name check (.object (presentFields fields)) = .accepted a := h hk

/-- A required field that was written is read. -/
theorem requiredField_present {reader : Reader α} {v : Value} {a : α}
    (hk : (fields.map Prod.fst).Nodup) (hv : fields.lookup name = some (some v))
    (hr : reader v = .accepted a) :
    requiredField (presentFields fields) name second reader = .accepted a :=
  requiredField_of_get? (get?_present hk hv) hr

/-- A field with a usual value that was written is read. -/
theorem optionalField_present {reader : Reader α} {absent a : α} {v : Value}
    (hk : (fields.map Prod.fst).Nodup) (hv : fields.lookup name = some (some v))
    (hr : reader v = .accepted a) :
    optionalField (presentFields fields) name second absent reader = .accepted a :=
  optionalField_of_get? (get?_present hk hv) hr

/-- A field that is absent, and whose second name is not used, has its usual value. -/
theorem optionalField_absent {reader : Reader α} {absent : α}
    (hk : (fields.map Prod.fst).Nodup) (hv : fields.lookup name = some none)
    (hs : second = name ∨ fields.lookup second = none) :
    optionalField (presentFields fields) name second absent reader = .accepted absent := by
  have hname : Keyed.get? (presentFields fields) name = none := by
    rw [get?_presentFields hk, hv]
    rfl
  have hsecond : Keyed.get? (presentFields fields) second = none := by
    rcases hs with rfl | hs
    · exact hname
    · rw [get?_presentFields hk, hs]
      rfl
  unfold optionalField lookup
  rw [hname, hsecond]
  rfl

/-- A field that may be absent is read as it was written. -/
theorem optionalField_orNull {reader : Reader α} {write : α → Value} {a? : Option α}
    (hk : (fields.map Prod.fst).Nodup) (hv : fields.lookup name = some (a?.map write))
    (hs : second = name ∨ fields.lookup second = none) (hw : ∀ a, write a ≠ .null)
    (hr : ∀ a, reader (write a) = .accepted a) :
    optionalField (presentFields fields) name second none (orNull reader) = .accepted a? := by
  cases a? with
  | none => exact optionalField_absent hk hv hs
  | some a =>
    refine optionalField_present hk hv ?_
    unfold orNull
    split
    · next hnull => exact absurd hnull (hw a)
    · rw [hr a]
      rfl

/-- A text that may be absent is read as it was written. -/
theorem optionalField_text {s? : Option String} (hk : (fields.map Prod.fst).Nodup)
    (hv : fields.lookup name = some (s?.map .text))
    (hs : second = name ∨ fields.lookup second = none) :
    optionalField (presentFields fields) name second none (orNull readText) = .accepted s? :=
  optionalField_orNull hk hv hs (fun _ => Value.noConfusion) fun _ => rfl

/-- A whole number that may be absent is read as it was written. -/
theorem optionalField_int {n? : Option Int} (hk : (fields.map Prod.fst).Nodup)
    (hv : fields.lookup name = some (n?.map .int))
    (hs : second = name ∨ fields.lookup second = none) :
    optionalField (presentFields fields) name second none (orNull readInt) = .accepted n? :=
  optionalField_orNull hk hv hs (fun _ => Value.noConfusion) fun _ => rfl

/-- A floating-point number that may be absent is read as it was written. -/
theorem optionalField_float {x? : Option Binary64} (hk : (fields.map Prod.fst).Nodup)
    (hv : fields.lookup name = some (x?.map .float))
    (hs : second = name ∨ fields.lookup second = none) :
    optionalField (presentFields fields) name second none (orNull readFloat) = .accepted x? :=
  optionalField_orNull hk hv hs (fun _ => Value.noConfusion) fun _ => rfl

/-- A free-form field that may be absent is read as it was written, null when it is absent. -/
theorem optionalField_anything {v? : Option Value} (hk : (fields.map Prod.fst).Nodup)
    (hv : fields.lookup name = some v?) (hs : second = name ∨ fields.lookup second = none) :
    optionalField (presentFields fields) name second .null anything =
      .accepted (v?.getD .null) := by
  cases v? with
  | none => exact optionalField_absent hk hv hs
  | some v => exact optionalField_present hk hv rfl

/-- Items that were written one by one are read one by one. -/
theorem readItems_map {reader : Reader β} {write : α → Value} {f : α → β} {items : List α}
    (h : ∀ a ∈ items, reader (write a) = .accepted (f a)) (position : Nat) :
    readItems reader position (items.map write) = .accepted (items.map f) := by
  induction items generalizing position with
  | nil => rfl
  | cons a rest ih =>
    obtain ⟨ha, hrest⟩ := List.forall_mem_cons.mp h
    simp only [List.map_cons, readItems]
    rw [ha, ih hrest]
    rfl

/-- A list that was written item by item is read item by item. -/
theorem listOf_map {reader : Reader β} {write : α → Value} {f : α → β} {items : List α}
    (h : ∀ a ∈ items, reader (write a) = .accepted (f a)) :
    listOf reader (.list (items.map write)) = .accepted (items.map f) := readItems_map h 0

/-- A list that was written item by item is read as it was. -/
theorem listOf_same {reader : Reader α} {write : α → Value} {items : List α}
    (h : ∀ a, reader (write a) = .accepted a) :
    listOf reader (.list (items.map write)) = .accepted items := by
  have hmap := listOf_map (f := id) fun a (_ : a ∈ items) => h a
  rwa [List.map_id] at hmap

/-- A list of values is read as it is. -/
theorem listOf_anything (items : List Value) :
    listOf anything (.list items) = .accepted items := by
  have h : listOf anything (.list (items.map id)) = .accepted items := listOf_same fun _ => rfl
  rwa [List.map_id] at h

/-- An object that was written field by field is read field by field. -/
theorem objectOf_map {reader : Reader α} {write : α → Value} {entries : List (String × α)}
    (h : ∀ a, reader (write a) = .accepted a) :
    objectOf reader (.object (entries.map fun (key, a) => (key, write a))) = .accepted entries := by
  unfold objectOf
  dsimp only
  induction entries with
  | nil => rfl
  | cons entry rest ih =>
    obtain ⟨key, a⟩ := entry
    simp only [List.map_cons, readFields]
    rw [h, ih]
    rfl

/-- An object of values is read as it is. -/
theorem objectOf_anything (fields : Fields) :
    objectOf anything (.object fields) = .accepted fields := by
  simpa using @objectOf_map Value anything id fields fun _ => rfl

/-- A scalar is read as it is. -/
theorem readScalar_toValue (x : Scalar) : readScalar x.toValue = .accepted x := by
  cases x <;> rfl

/-- The amount of a call is read as it is. -/
theorem readCallAmount_toValue (amount : CallAmount) :
    readCallAmount amount.toValue = .accepted amount := by
  cases amount <;> rfl

end Schema

end ActionFlow
