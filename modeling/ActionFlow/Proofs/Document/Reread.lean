import ActionFlow.Proofs.Document.FinitePart
import ActionFlow.Proofs.Document.RoundTrip
import ActionFlow.Proofs.Json.RoundTrip

/-!
# Flows and results as they are read back

Besides what a document leaves out, its JSON text does not tell where a value that is no number
was found. A flow as it is read back has every such value as a number, and the document of this
flow is the document that is read. The same holds of results.
-/

namespace ActionFlow

namespace Value

mutual

/-- The finite part of a value has no value that is no number. -/
theorem finitePart_reread : (v : Value) → v.reread.finitePart = v.finitePart
  | .null => rfl
  | .bool _ => rfl
  | .int _ => rfl
  | .float x => by cases x <;> rfl
  | .text _ => rfl
  | .list items => congrArg Value.list (finiteItems_reread items)
  | .object fields => congrArg Value.object (finiteFields_reread fields)

/-- The finite part of items has no value that is no number. -/
theorem finiteItems_reread :
    (items : List Value) → finiteItems (rereadItems items) = finiteItems items
  | [] => rfl
  | v :: rest => by
    rw [rereadItems, finiteItems, finiteItems, finitePart_reread v, finiteItems_reread rest]

/-- The finite part of fields has no value that is no number. -/
theorem finiteFields_reread :
    (fields : List (String × Value)) → finiteFields (rereadFields fields) = finiteFields fields
  | [] => rfl
  | (_, v) :: rest => by
    rw [rereadFields, finiteFields, finiteFields, finitePart_reread v, finiteFields_reread rest]

end

mutual

/-- A value with finite numbers alone is read back as it is. -/
theorem reread_of_isFinite : (v : Value) → v.isFinite = true → v.reread = v
  | .null, _ => rfl
  | .bool _, _ => rfl
  | .int _, _ => rfl
  | .float (.finite _ _), _ => rfl
  | .text _, _ => rfl
  | .list items, h => congrArg Value.list (rereadItems_of_itemsFinite items h)
  | .object fields, h => congrArg Value.object (rereadFields_of_fieldsFinite fields h)

/-- Items with finite numbers alone are read back as they are. -/
theorem rereadItems_of_itemsFinite :
    (items : List Value) → itemsFinite items = true → rereadItems items = items
  | [], _ => rfl
  | v :: rest, h => by
    obtain ⟨hv, hrest⟩ := Bool.and_eq_true_iff.mp h
    rw [rereadItems, reread_of_isFinite v hv, rereadItems_of_itemsFinite rest hrest]

/-- Fields with finite numbers alone are read back as they are. -/
theorem rereadFields_of_fieldsFinite :
    (fields : List (String × Value)) → fieldsFinite fields = true → rereadFields fields = fields
  | [], _ => rfl
  | (key, v) :: rest, h => by
    obtain ⟨hv, hrest⟩ := Bool.and_eq_true_iff.mp h
    rw [rereadFields, reread_of_isFinite v hv, rereadFields_of_fieldsFinite rest hrest]

end

mutual

/-- A number is finite when it is read back as a finite one. -/
theorem isFinite_reread : (v : Value) → v.reread.isFinite = v.isFinite
  | .null => rfl
  | .bool _ => rfl
  | .int _ => rfl
  | .float x => by cases x <;> rfl
  | .text _ => rfl
  | .list items => itemsFinite_reread items
  | .object fields => fieldsFinite_reread fields

/-- The numbers of items are finite when they are read back as finite ones. -/
theorem itemsFinite_reread :
    (items : List Value) → itemsFinite (rereadItems items) = itemsFinite items
  | [] => rfl
  | v :: rest => by
    rw [rereadItems, itemsFinite, itemsFinite, isFinite_reread v, itemsFinite_reread rest]

/-- The numbers of fields are finite when they are read back as finite ones. -/
theorem fieldsFinite_reread :
    (fields : List (String × Value)) → fieldsFinite (rereadFields fields) = fieldsFinite fields
  | [] => rfl
  | (_, v) :: rest => by
    rw [rereadFields, fieldsFinite, fieldsFinite, isFinite_reread v, fieldsFinite_reread rest]

end

/-- Items are read back one by one. -/
theorem rereadItems_eq_map (items : List Value) : rereadItems items = items.map reread := by
  induction items with
  | nil => rfl
  | cons v rest ih => rw [rereadItems, ih, List.map_cons]

/-- Items that were written one by one are read back one by one. -/
theorem rereadItems_map {α : Type} {write : α → Value} {change : α → α}
    (h : ∀ a, (write a).reread = write (change a)) (items : List α) :
    rereadItems (items.map write) = (items.map change).map write := by
  rw [rereadItems_eq_map, List.map_map, List.map_map]
  exact List.map_congr_left fun a _ => h a

/-- Fields of which some may be absent are read back field by field. -/
theorem rereadFields_presentFields (fields : List (String × Option Value)) :
    rereadFields (presentFields fields) =
      presentFields (fields.map fun (name, v?) => (name, v?.map reread)) := by
  induction fields with
  | nil => rfl
  | cons field rest ih =>
    obtain ⟨name, v?⟩ := field
    cases v? with
    | none => exact ih
    | some v => exact congrArg ((name, v.reread) :: ·) ih

/-- The finite part of a value that is there is read back with the value. -/
theorem map_present?_reread (v : Value) :
    v.present?.map (reread ∘ finitePart) = v.reread.present?.map finitePart := by
  have hpart : reread ∘ finitePart = finitePart ∘ reread := by
    funext w
    exact (reread_of_isFinite _ w.isFinite_finitePart).trans w.finitePart_reread.symm
  have hpresent : v.reread.present? = v.present?.map reread := by cases v <;> rfl
  rw [hpart, hpresent, Option.map_map]

end Value

/-- A scalar as it is read back. -/
def Scalar.reread : Scalar → Scalar
  | .float x => .float x.reread
  | x => x

/-- An amount as it is read back. -/
def CallAmount.reread : CallAmount → CallAmount
  | .float x => .float x.reread
  | x => x

/-- A condition as it is read back. -/
def Condition.reread (c : Condition) : Condition := { c with value := c.value.reread }

/-- An edge as it is read back. -/
def Edge.reread (e : Edge) : Edge := { e with conditions := e.conditions.map Condition.reread }

/-- An option of a form parameter as it is read back. -/
def SelectOption.reread (o : SelectOption) : SelectOption := { o with value := o.value.reread }

/-- A form parameter as it is read back. -/
def Parameter.reread (p : Parameter) : Parameter :=
  { p with
    defaultValue := p.defaultValue.reread
    options := p.options.map SelectOption.reread
    minValue := p.minValue.map Binary64.reread
    maxValue := p.maxValue.map Binary64.reread }

/-- A task as it is read back. -/
def Task.reread : Task → Task
  | .contractCall c => .contractCall { c with
      abi := c.abi.map Value.rereadFields
      amount := c.amount.map CallAmount.reread
      params := Value.rereadItems c.params }
  | .transfer t => .transfer { t with amount := t.amount.map Binary64.reread }
  | .http h => .http { h with
      params := h.params.map Parameter.reread
      body := Value.rereadFields h.body }
  | .decision d => .decision d
  | .completion c => .completion c

/-- An action as it is read back. -/
def Action.reread (a : Action) : Action :=
  { a with edges := a.edges.map Edge.reread, task := a.task.reread }

/-- A flow as it is read back when its document leaves nothing out: the flow itself, but for
where a value that is no number was found. -/
def Flow.reread (f : Flow) : Flow := { f with actions := f.actions.map Action.reread }

open Value

/-- The document of a scalar is read back as that of the scalar as it is read back. -/
theorem Scalar.toValue_reread (x : Scalar) : x.reread.toValue = x.toValue.reread := by
  cases x <;> rfl

/-- The document of a condition, read back. -/
theorem Condition.toValue_reread (c : Condition) : c.reread.toValue = c.toValue.reread := by
  unfold toValue reread
  rw [Scalar.toValue_reread]
  rfl

/-- The document of an edge, read back. -/
theorem Edge.toValue_reread (e : Edge) : e.reread.toValue = e.toValue.reread := by
  have hconditions := rereadItems_map (fun c => (Condition.toValue_reread c).symm) e.conditions
  unfold toValue reread
  simp only [Value.reread, rereadFields, hconditions]

/-- The document of an option, read back. -/
theorem SelectOption.toValue_reread (o : SelectOption) : o.reread.toValue = o.toValue.reread := by
  unfold toValue reread
  rw [Scalar.toValue_reread]
  rfl

/-- The document of the options of a decision, read back. -/
theorem Choice.reread_toValue (c : Choice) : c.toValue.reread = c.toValue := rfl

/-- The document of the chains of an action, read back. -/
theorem Chains.reread_toValue (c : Chains) :
    (c.toValue .omitted).reread = c.toValue .omitted := by
  unfold toValue AbsentFields.write
  rw [Value.reread, rereadFields_presentFields]
  simp only [List.map_cons, List.map_nil, Option.map_map]
  rfl

/-- The document of a form parameter, read back. -/
theorem Parameter.toValue_reread (p : Parameter) :
    p.reread.toValue .omitted = (p.toValue .omitted).reread := by
  have hoptions := rereadItems_map (fun o => (SelectOption.toValue_reread o).symm) p.options
  have hdefault : p.defaultValue.present?.map (Value.reread ∘ fun v => v.finitePart) =
      p.defaultValue.reread.present?.map fun v => v.finitePart :=
    p.defaultValue.map_present?_reread
  unfold toValue AbsentFields.write
  rw [Value.reread, rereadFields_presentFields]
  simp only [List.map_cons, List.map_nil, Option.map_map, Option.map_some, Value.reread, hoptions,
    reread, hdefault]
  rfl

/-- Headers are read back as they are. -/
theorem rereadFields_headers (headers : List (String × String)) :
    rereadFields (headers.map fun (key, s) => (key, .text s)) =
      headers.map fun (key, s) => (key, .text s) := by
  induction headers with
  | nil => rfl
  | cons header rest ih => exact congrArg (_ :: ·) ih

/-- Finite parts of fields are read back as they are. -/
theorem rereadFields_finiteFields (fields : Fields) :
    rereadFields (finiteFields fields) = finiteFields (rereadFields fields) := by
  rw [rereadFields_of_fieldsFinite _ (fieldsFinite_finiteFields fields), finiteFields_reread]

/-- Finite parts of items are read back as they are. -/
theorem rereadItems_finiteItems (items : List Value) :
    rereadItems (finiteItems items) = finiteItems (rereadItems items) := by
  rw [rereadItems_of_itemsFinite _ (itemsFinite_finiteItems items), finiteItems_reread]

/-- The fields of a task, read back. -/
theorem Task.fields_reread (task : Task) :
    task.reread.fields .omitted =
      (task.fields .omitted).map fun (name, v?) => (name, v?.map Value.reread) := by
  cases task with
  | contractCall c =>
    have hentry : ∀ entry : Fields, (Value.object (finiteFields entry)).reread =
        .object (finiteFields (rereadFields entry)) :=
      fun entry => congrArg Value.object (rereadFields_finiteFields entry)
    have habi := rereadItems_map hentry c.abi
    have hamount : c.amount.map (Value.reread ∘ fun amount => amount.toValue) =
        c.amount.map ((fun amount => amount.toValue) ∘ CallAmount.reread) :=
      congrArg (c.amount.map ·) (funext fun amount => by cases amount <;> rfl)
    simp only [reread, fields, List.map_cons, List.map_nil, Option.map_some, Option.map_map,
      Chains.reread_toValue, Value.reread, habi, hamount, rereadItems_finiteItems]
  | transfer t =>
    simp only [reread, fields, List.map_cons, List.map_nil, Option.map_some, Option.map_map,
      Chains.reread_toValue]
    rfl
  | http h =>
    have hparams := rereadItems_map (fun p => (Parameter.toValue_reread p).symm) h.params
    simp only [reread, fields, List.map_cons, List.map_nil, Option.map_some, Value.reread, hparams,
      rereadFields_finiteFields, rereadFields_headers]
  | decision d =>
    have hoptions : rereadItems (d.options.map fun c => c.toValue) =
        (d.options.map id).map fun c => c.toValue :=
      rereadItems_map (fun c => c.reread_toValue) d.options
    simp only [reread, fields, List.map_cons, List.map_nil, Option.map_some, Option.map_map,
      Value.reread, hoptions, List.map_id]
    rfl
  | completion c => rfl

/-- The document of an action, read back. -/
theorem Action.toValue_reread (a : Action) :
    a.reread.toValue .omitted = (a.toValue .omitted).reread := by
  have hedges := rereadItems_map (fun e => (Edge.toValue_reread e).symm) a.edges
  have hkind : a.reread.kind = a.kind := by
    obtain ⟨id, label, edges, task⟩ := a
    cases task <;> rfl
  unfold toValue AbsentFields.write allFields
  rw [Value.reread, rereadFields_presentFields]
  simp only [List.map_append, List.map_cons, List.map_nil, Option.map_some, Value.reread, hedges,
    hkind, ← Task.fields_reread]
  rfl

/-- The document of a flow is read back as that of the flow as it is read back. -/
theorem Flow.toValue_reread (f : Flow) : f.reread.toValue = f.toValue.reread := by
  have hactions := rereadItems_map (fun a => (Action.toValue_reread a).symm) f.actions
  unfold toValue reread
  simp only [Value.reread, rereadFields, hactions]

/-- The free-form values of a task as it is read back. -/
theorem Task.free_reread (task : Task) : task.reread.free = task.free.map Value.reread := by
  cases task with
  | contractCall c =>
    simp only [reread, free, rereadItems_eq_map, List.map_append, List.map_map]
    rfl
  | http h =>
    simp only [reread, free, List.map_cons, List.map_map]
    rfl
  | transfer _ => rfl
  | decision _ => rfl
  | completion _ => rfl

/-- A flow as it is read back is its own finite part when all numbers of the free-form values
of the flow are finite. -/
theorem Flow.finitePart_reread_eq_iff (f : Flow) :
    f.reread.finitePart = f.reread ↔ ∀ a ∈ f.actions, ∀ v ∈ a.task.free, v.isFinite = true := by
  have htask : ∀ a : Action, a.reread.task.free = a.task.free.map Value.reread :=
    fun a => a.task.free_reread
  rw [f.reread.finitePart_eq_self_iff]
  simp only [reread, List.forall_mem_map, htask, isFinite_reread]

/-- A result as it is read back. -/
def StepResult.reread (r : StepResult) : StepResult := { r with data := r.data.reread }

/-- The document of a result is read back as that of the result as it is read back. -/
theorem StepResult.toValue_reread (r : StepResult) : r.reread.toValue = r.toValue.reread := by
  have hdata : r.data.reread.present? = r.data.present?.map Value.reread := by
    cases r.data <;> rfl
  unfold toValue reread
  rw [Value.reread, rereadFields_presentFields]
  simp only [List.map_cons, List.map_nil, Option.map_some, Option.map_map, Value.reread, hdata]
  rfl

end ActionFlow
