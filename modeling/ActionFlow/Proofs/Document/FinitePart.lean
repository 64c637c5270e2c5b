import ActionFlow.Flow.Printer

/-!
# The finite part of a flow

What the document of a flow tells of it. The finite part has null in place of each number
that is not finite in a free-form value. A flow is its own finite part exactly when all
numbers of its free-form values are finite. A flow has a document exactly when these values
have few enough levels, and then the finite part can be stored without any loss.
-/

namespace ActionFlow

namespace Value

mutual

/-- Whether all numbers of a value are finite. -/
def isFinite : Value → Bool
  | .float x => x.isFinite
  | .list items => itemsFinite items
  | .object fields => fieldsFinite fields
  | _ => true

/-- Whether all numbers of some items are finite. -/
def itemsFinite : List Value → Bool
  | [] => true
  | v :: rest => isFinite v && itemsFinite rest

/-- Whether all numbers of some fields are finite. -/
def fieldsFinite : List (String × Value) → Bool
  | [] => true
  | (_, v) :: rest => isFinite v && fieldsFinite rest

end

mutual

/-- A value is its own finite part when all its numbers are finite. -/
theorem finitePart_eq_self_iff : (v : Value) → (finitePart v = v ↔ v.isFinite = true)
  | .null => by simp [finitePart, isFinite]
  | .bool _ => by simp [finitePart, isFinite]
  | .int _ => by simp [finitePart, isFinite]
  | .float x => by cases h : x.isFinite <;> simp [finitePart, isFinite, h]
  | .text _ => by simp [finitePart, isFinite]
  | .list items => by simp [finitePart, isFinite, finiteItems_eq_self_iff items]
  | .object fields => by simp [finitePart, isFinite, finiteFields_eq_self_iff fields]

/-- Items are their own finite part when all their numbers are finite. -/
theorem finiteItems_eq_self_iff :
    (items : List Value) → (finiteItems items = items ↔ itemsFinite items = true)
  | [] => by simp [finiteItems, itemsFinite]
  | v :: rest => by
    simp [finiteItems, itemsFinite, finitePart_eq_self_iff v, finiteItems_eq_self_iff rest]

/-- Fields are their own finite part when all their numbers are finite. -/
theorem finiteFields_eq_self_iff :
    (fields : List (String × Value)) → (finiteFields fields = fields ↔ fieldsFinite fields = true)
  | [] => by simp [finiteFields, fieldsFinite]
  | (_, v) :: rest => by
    simp [finiteFields, fieldsFinite, finitePart_eq_self_iff v, finiteFields_eq_self_iff rest]

end

mutual

/-- All numbers of a finite part are finite. -/
theorem isFinite_finitePart : (v : Value) → v.finitePart.isFinite = true
  | .null => rfl
  | .bool _ => rfl
  | .int _ => rfl
  | .float x => by cases h : x.isFinite <;> simp [finitePart, isFinite, h]
  | .text _ => rfl
  | .list items => itemsFinite_finiteItems items
  | .object fields => fieldsFinite_finiteFields fields

/-- All numbers of the finite part of some items are finite. -/
theorem itemsFinite_finiteItems : (items : List Value) → itemsFinite (finiteItems items) = true
  | [] => rfl
  | v :: rest => by
    rw [finiteItems, itemsFinite, isFinite_finitePart v, itemsFinite_finiteItems rest]
    rfl

/-- All numbers of the finite part of some fields are finite. -/
theorem fieldsFinite_finiteFields :
    (fields : List (String × Value)) → fieldsFinite (finiteFields fields) = true
  | [] => rfl
  | (_, v) :: rest => by
    rw [finiteFields, fieldsFinite, isFinite_finitePart v, fieldsFinite_finiteFields rest]
    rfl

end

end Value

/-- A form parameter as its document tells it. -/
def Parameter.finitePart (p : Parameter) : Parameter :=
  { p with defaultValue := p.defaultValue.finitePart }

/-- A task as its document tells it. -/
def Task.finitePart : Task → Task
  | .contractCall c => .contractCall { c with
      abi := c.abi.map Value.finiteFields
      params := Value.finiteItems c.params }
  | .transfer t => .transfer t
  | .http h => .http { h with
      params := h.params.map Parameter.finitePart
      body := Value.finiteFields h.body }
  | .decision d => .decision d
  | .completion c => .completion c

/-- An action as its document tells it. -/
def Action.finitePart (a : Action) : Action := { a with task := a.task.finitePart }

/-- A flow as its document tells it. -/
def Flow.finitePart (f : Flow) : Flow := { f with actions := f.actions.map Action.finitePart }

/-- The free-form values of a task. -/
def Task.free : Task → List Value
  | .contractCall c => c.params ++ c.abi.map .object
  | .http h => .object h.body :: h.params.map Parameter.defaultValue
  | _ => []

/-- A list is unchanged by a change that leaves each of its members alone. -/
theorem map_eq_self_iff {α : Type} {f : α → α} {items : List α} :
    items.map f = items ↔ ∀ a ∈ items, f a = a := by
  induction items with
  | nil => simp
  | cons a rest ih => simp [ih]

/-- The finite part of items is that of each of them. -/
theorem Value.finiteItems_eq_map (items : List Value) :
    finiteItems items = items.map finitePart := by
  induction items with
  | nil => rfl
  | cons v rest ih => rw [finiteItems, ih, List.map_cons]

/-- A form parameter is its own finite part when all numbers of its usual value are finite. -/
theorem Parameter.finitePart_eq_self_iff (p : Parameter) :
    p.finitePart = p ↔ p.defaultValue.isFinite = true := by
  rw [← Value.finitePart_eq_self_iff]
  exact ⟨fun h => congrArg defaultValue h, fun h => by rw [finitePart, h]⟩

/-- A task is its own finite part when all numbers of its free-form values are finite. -/
theorem Task.finitePart_eq_self_iff (task : Task) :
    task.finitePart = task ↔ ∀ v ∈ task.free, v.isFinite = true := by
  cases task with
  | contractCall c =>
    obtain ⟨address, abi, functionName, chains, amount, params⟩ := c
    simp only [finitePart, free, Value.finiteItems_eq_map, contractCall.injEq,
      ContractCall.mk.injEq, true_and, map_eq_self_iff, Value.finitePart_eq_self_iff,
      Value.finiteFields_eq_self_iff, List.forall_mem_append, List.forall_mem_map, Value.isFinite]
    exact And.comm
  | http h =>
    obtain ⟨endpoint, method, params, body, headers⟩ := h
    simp only [finitePart, free, http.injEq, HttpCall.mk.injEq, true_and, and_true,
      map_eq_self_iff, Parameter.finitePart_eq_self_iff, Value.finiteFields_eq_self_iff,
      List.forall_mem_cons, List.forall_mem_map, Value.isFinite]
    exact And.comm
  | transfer _ => simp [finitePart, free]
  | decision _ => simp [finitePart, free]
  | completion _ => simp [finitePart, free]

/-- A flow is its own finite part when all numbers of its free-form values are finite. -/
theorem Flow.finitePart_eq_self_iff (f : Flow) :
    f.finitePart = f ↔ ∀ a ∈ f.actions, ∀ v ∈ a.task.free, v.isFinite = true := by
  have haction : ∀ a : Action, a.finitePart = a ↔ ∀ v ∈ a.task.free, v.isFinite = true := by
    intro a
    rw [← a.task.finitePart_eq_self_iff]
    exact ⟨fun h => congrArg Action.task h, fun h => by rw [Action.finitePart, h]⟩
  obtain ⟨label, initial, actions⟩ := f
  simp only [finitePart, mk.injEq, true_and, map_eq_self_iff, haction]

/-- A flow that its document tells in full. -/
structure Flow.Storable (f : Flow) : Prop where
  /-- All numbers of free-form values are finite. -/
  finite : ∀ a ∈ f.actions, ∀ v ∈ a.task.free, v.isFinite = true
  /-- The free-form values have few enough levels. -/
  shallow : ∀ a ∈ f.actions, a.task.freeLevels ≤ deepestFreeForm

/-- The free-form values of the finite part of a task are the finite parts of its own. -/
theorem Task.free_finitePart (task : Task) :
    task.finitePart.free = task.free.map Value.finitePart := by
  cases task with
  | contractCall c =>
    simp only [finitePart, free, Value.finiteItems_eq_map, List.map_append, List.map_map]
    rfl
  | http h =>
    simp only [finitePart, free, List.map_cons, List.map_map]
    rfl
  | transfer _ => rfl
  | decision _ => rfl
  | completion _ => rfl

/-- The finite part of a value is null, or present where the value is. -/
theorem Value.present?_finitePart (v : Value) :
    v.finitePart.present? = none ∨
      v.present? = some v ∧ v.finitePart.present? = some v.finitePart := by
  cases v with
  | null => exact .inl rfl
  | float x =>
    cases h : x.isFinite
    · exact .inl (by simp [finitePart, present?, h])
    · exact .inr (by simp [finitePart, present?, h])
  | bool _ => exact .inr ⟨rfl, rfl⟩
  | int _ => exact .inr ⟨rfl, rfl⟩
  | text _ => exact .inr ⟨rfl, rfl⟩
  | list _ => exact .inr ⟨rfl, rfl⟩
  | object _ => exact .inr ⟨rfl, rfl⟩

/-- The usual values of form parameters have no more levels in their finite parts, of which
some are absent. -/
theorem levelsOfItems_present_le (params : List Parameter) :
    Value.levelsOfItems ((params.map Parameter.finitePart).filterMap (·.defaultValue.present?)) ≤
      Value.levelsOfItems (params.filterMap (·.defaultValue.present?)) := by
  induction params with
  | nil => exact Nat.le_refl 0
  | cons p rest ih =>
    have hlevels := Value.levels_finitePart p.defaultValue
    have hp : p.finitePart.defaultValue = p.defaultValue.finitePart := rfl
    rw [List.map_cons, List.filterMap_cons, List.filterMap_cons, hp]
    rcases p.defaultValue.present?_finitePart with habsent | ⟨hpresent, hfinite⟩
    · rw [habsent]
      refine Nat.le_trans ih ?_
      split
      · exact Nat.le_refl _
      · exact Nat.le_max_right _ _
    · rw [hpresent, hfinite]
      simp only [Value.levelsOfItems]
      omega

/-- The finite part of a task has no more levels of free-form values. -/
theorem Task.freeLevels_finitePart_le (task : Task) :
    task.finitePart.freeLevels ≤ task.freeLevels := by
  cases task with
  | contractCall c =>
    have habi : (Value.levelsOfFields ∘ Value.finiteFields) = Value.levelsOfFields :=
      funext Value.levelsOfFields_finiteFields
    simp only [finitePart, freeLevels, Value.levelsOfItems_finiteItems, List.map_map, habi]
    exact Nat.le_refl _
  | http h =>
    have hparams := levelsOfItems_present_le h.params
    simp only [finitePart, freeLevels, Value.levelsOfFields_finiteFields]
    omega
  | transfer _ => exact Nat.le_refl _
  | decision _ => exact Nat.le_refl _
  | completion _ => exact Nat.le_refl _

/-- A flow has a document exactly when its free-form values have few enough levels. -/
theorem Flow.document_eq_ok_iff (f : Flow) {document : Value} :
    f.document = .ok document ↔
      (∀ a ∈ f.actions, a.task.freeLevels ≤ deepestFreeForm) ∧ document = f.toValue := by
  have hall : (f.actions.all fun a => a.task.freeLevels ≤ deepestFreeForm) = true ↔
      ∀ a ∈ f.actions, a.task.freeLevels ≤ deepestFreeForm := by
    simp
  unfold Flow.document
  rw [← hall]
  split
  · next h => simp [h, eq_comm]
  · next h => simp [h]

/-- The finite part of a flow that has a document can be stored. -/
theorem Flow.storable_finitePart {f : Flow}
    (h : ∀ a ∈ f.actions, a.task.freeLevels ≤ deepestFreeForm) : f.finitePart.Storable := by
  constructor
  · intro a ha v hv
    obtain ⟨b, -, rfl⟩ := List.mem_map.mp ha
    rw [show b.finitePart.task = b.task.finitePart from rfl, b.task.free_finitePart] at hv
    obtain ⟨w, -, rfl⟩ := List.mem_map.mp hv
    exact w.isFinite_finitePart
  · intro a ha
    obtain ⟨b, hb, rfl⟩ := List.mem_map.mp ha
    exact Nat.le_trans b.task.freeLevels_finitePart_le (h b hb)

end ActionFlow
