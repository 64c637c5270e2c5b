import ActionFlow.Proofs.Document.Fields
import ActionFlow.Proofs.Document.FinitePart
import ActionFlow.Run.Result

/-!
# Documents read back

The document of a flow is read back as the finite part of the flow: the numbers that are not
finite in its free-form values are null from then on, and everything else is as it was. The
document of a result is read back as the result.
-/

namespace ActionFlow

open Schema

/-- The word of an operator is read as the operator. -/
theorem Operator.readWord_word (refuse : List String → Problem) (op : Operator) :
    readWord refuse (Operator.all.map fun op => (op.word, op)) (.text op.word) = .accepted op := by
  cases op <;> rfl

/-- The word of a status is read as the status. -/
theorem Status.readWord_word (refuse : List String → Problem) (status : Status) :
    readWord refuse (Status.all.map fun status => (status.word, status)) (.text status.word) =
      .accepted status := by
  cases status <;> rfl

/-- The word of a kind names the kind. -/
theorem TaskKind.ofWord?_word (kind : TaskKind) : TaskKind.ofWord? kind.word = some kind := by
  cases kind <;> rfl

/-- A condition is read back. -/
theorem Condition.reader_toValue (c : Condition) : Condition.reader c.toValue = .accepted c := by
  obtain ⟨field, op, value⟩ := c
  dsimp only [reader, toValue, record]
  refine Checked.seq_accepted (Checked.seq_accepted (Checked.map_accepted ?_) ?_) ?_
  · exact requiredField_of_get? rfl rfl
  · exact requiredField_of_get? rfl (op.readWord_word _)
  · exact requiredField_of_get? rfl (readScalar_toValue value)

/-- An edge is read back. -/
theorem Edge.reader_toValue (e : Edge) : Edge.reader e.toValue = .accepted e := by
  obtain ⟨target, conditions⟩ := e
  dsimp only [reader, toValue, record]
  refine Checked.seq_accepted (Checked.map_accepted ?_) ?_
  · exact requiredField_of_get? rfl rfl
  · exact optionalField_of_get? rfl (listOf_same fun c => c.reader_toValue)

/-- An option of a decision is read back. -/
theorem Choice.reader_toValue (c : Choice) : Choice.reader c.toValue = .accepted c := by
  obtain ⟨label, value, target⟩ := c
  dsimp only [reader, toValue, record]
  refine Checked.seq_accepted (Checked.seq_accepted (Checked.map_accepted ?_) ?_) ?_
  all_goals exact requiredField_of_get? rfl rfl

/-- The chains of an action are read back. -/
theorem Chains.reader_toValue (c : Chains) :
    Chains.reader (c.toValue .omitted) = .accepted c := by
  obtain ⟨source, destination⟩ := c
  refine record_present (by simp) fun hk => ?_
  refine Checked.seq_accepted (Checked.map_accepted ?_) ?_
  · exact requiredField_present hk rfl rfl
  · exact optionalField_text hk rfl (.inl rfl)

/-- An option of a form parameter is read back. -/
theorem SelectOption.reader_toValue (o : SelectOption) :
    SelectOption.reader o.toValue = .accepted o := by
  obtain ⟨label, value⟩ := o
  dsimp only [reader, toValue, record]
  refine Checked.seq_accepted (Checked.map_accepted ?_) ?_
  · exact requiredField_of_get? rfl rfl
  · exact requiredField_of_get? rfl (readScalar_toValue value)

/-- A form parameter is read back. -/
theorem Parameter.reader_toValue (p : Parameter) :
    Parameter.reader (p.toValue .omitted) = .accepted p.finitePart := by
  obtain ⟨name, label, type, required, description, placeholder, defaultValue, options, pattern,
    minLength, maxLength, minValue, maxValue⟩ := p
  have hdefault : (defaultValue.present?.map (·.finitePart)).getD .null =
      defaultValue.finitePart := by
    cases defaultValue <;> rfl
  unfold finitePart
  dsimp only
  rw [← hdefault]
  refine record_present (by simp) fun hk => ?_
  refine Checked.seq_accepted (Checked.seq_accepted (Checked.seq_accepted (Checked.seq_accepted
    (Checked.seq_accepted (Checked.seq_accepted (Checked.seq_accepted (Checked.seq_accepted
    (Checked.seq_accepted (Checked.seq_accepted (Checked.seq_accepted (Checked.seq_accepted
    (Checked.map_accepted ?name) ?label) ?type) ?required) ?description) ?placeholder)
    ?defaultValue) ?options) ?pattern) ?minLength) ?maxLength) ?minValue) ?maxValue
  case name => exact requiredField_present hk rfl rfl
  case label => exact requiredField_present hk rfl rfl
  case type => exact optionalField_present hk rfl rfl
  case required => exact optionalField_present hk rfl rfl
  case description => exact optionalField_text hk rfl (.inl rfl)
  case placeholder => exact optionalField_text hk rfl (.inl rfl)
  case defaultValue => exact optionalField_anything hk rfl (.inr rfl)
  case options => exact optionalField_present hk rfl (listOf_same fun o => o.reader_toValue)
  case pattern => exact optionalField_text hk rfl (.inl rfl)
  case minLength => exact optionalField_int hk rfl (.inr rfl)
  case maxLength => exact optionalField_int hk rfl (.inr rfl)
  case minValue => exact optionalField_float hk rfl (.inr rfl)
  case maxValue => exact optionalField_float hk rfl (.inr rfl)

/-- The names of the fields of an action differ. -/
theorem Action.allFields_nodup (a : Action) :
    ((a.allFields .omitted).map Prod.fst).Nodup := by
  obtain ⟨id, label, edges, task⟩ := a
  cases task <;> simp [allFields, Task.fields]

/-- The task of an action is read back from the fields of the action. -/
theorem Task.ofFields_allFields (a : Action) :
    Task.ofFields a.kind (presentFields (a.allFields .omitted)) = .accepted a.task.finitePart := by
  have hk := a.allFields_nodup
  obtain ⟨id, label, edges, task⟩ := a
  cases task with
  | contractCall c =>
    obtain ⟨address, abi, functionName, chains, amount, params⟩ := c
    refine Checked.map_accepted (Checked.seq_accepted (Checked.seq_accepted (Checked.seq_accepted
      (Checked.seq_accepted (Checked.seq_accepted (Checked.map_accepted ?address) ?abi)
      ?functionName) ?chains) ?amount) ?params)
    case address => exact requiredField_present hk rfl rfl
    case abi =>
      exact optionalField_present hk rfl (listOf_map fun entry _ => objectOf_anything _)
    case functionName => exact requiredField_present hk rfl rfl
    case chains => exact requiredField_present hk rfl chains.reader_toValue
    case amount =>
      exact optionalField_orNull hk rfl (.inl rfl) (fun amount => by cases amount <;> nofun)
        readCallAmount_toValue
    case params => exact optionalField_present hk rfl (listOf_anything _)
  | transfer t =>
    obtain ⟨receiver, amount, chains⟩ := t
    refine Checked.map_accepted (Checked.seq_accepted (Checked.seq_accepted
      (Checked.map_accepted ?receiver) ?amount) ?chains)
    case receiver => exact optionalField_text hk rfl (.inl rfl)
    case amount => exact optionalField_float hk rfl (.inl rfl)
    case chains => exact requiredField_present hk rfl chains.reader_toValue
  | http h =>
    obtain ⟨endpoint, method, params, body, headers⟩ := h
    refine Checked.map_accepted (Checked.seq_accepted (Checked.seq_accepted (Checked.seq_accepted
      (Checked.seq_accepted (Checked.map_accepted ?endpoint) ?method) ?params) ?body) ?headers)
    case endpoint => exact requiredField_present hk rfl rfl
    case method => exact optionalField_present hk rfl rfl
    case params => exact optionalField_present hk rfl (listOf_map fun p _ => p.reader_toValue)
    case body => exact optionalField_present hk rfl (objectOf_anything _)
    case headers => exact optionalField_present hk rfl (objectOf_map fun _ => rfl)
  | decision d =>
    obtain ⟨title, description, options⟩ := d
    refine Checked.map_accepted (Checked.seq_accepted (Checked.seq_accepted
      (Checked.map_accepted ?title) ?description) ?options)
    case title => exact optionalField_present hk rfl rfl
    case description => exact optionalField_text hk rfl (.inl rfl)
    case options => exact optionalField_present hk rfl (listOf_same fun c => c.reader_toValue)
  | completion c =>
    obtain ⟨message, status⟩ := c
    refine Checked.map_accepted (Checked.seq_accepted (Checked.map_accepted ?message) ?status)
    case message => exact optionalField_present hk rfl rfl
    case status => exact optionalField_present hk rfl rfl

/-- An action is read back, with the finite part of its task. -/
theorem Action.reader_toValue (a : Action) :
    Action.reader (a.toValue .omitted) = .accepted a.finitePart := by
  have hk := a.allFields_nodup
  have htype : Keyed.get? (presentFields (a.allFields .omitted)) "type" =
      some (.text a.kind.word) := get?_present hk rfl
  have hfields : Action.ofFields a.kind (presentFields (a.allFields .omitted)) =
      .accepted a.finitePart := by
    refine Checked.seq_accepted (Checked.seq_accepted (Checked.seq_accepted
      (Checked.map_accepted ?id) ?label) ?edges) (Task.ofFields_allFields a)
    case id => exact requiredField_present hk rfl rfl
    case label => exact optionalField_present hk rfl rfl
    case edges => exact optionalField_present hk rfl (listOf_same fun e => e.reader_toValue)
  unfold reader toValue AbsentFields.write
  dsimp only
  rw [htype]
  dsimp only
  rw [a.kind.ofWord?_word]
  dsimp only
  rw [hfields]
  rfl

/-- What a document says of a flow is read back, with the finite part of every task. -/
theorem Flow.reader_toValue (f : Flow) : Flow.reader f.toValue = .accepted f.finitePart := by
  obtain ⟨label, initial, actions⟩ := f
  dsimp only [reader, toValue, record]
  refine Checked.seq_accepted (Checked.seq_accepted (Checked.seq_accepted
    (Checked.map_accepted (a := ()) ?type) ?label) ?initial) ?actions
  case type => exact optionalField_of_get? rfl rfl
  case label => exact optionalField_of_get? rfl rfl
  case initial => exact optionalField_of_get? rfl rfl
  case actions => exact optionalField_of_get? rfl (listOf_map fun a _ => a.reader_toValue)

/-- A result is read back. -/
theorem StepResult.reader_toValue (r : StepResult) : StepResult.reader r.toValue = .accepted r := by
  obtain ⟨actionId, status, data, error, next⟩ := r
  have hdata : data.present?.getD .null = data := by cases data <;> rfl
  have hstatus := status.readWord_word .notMember
  refine record_present (by simp) fun hk => ?_
  dsimp only
  rw [optionalField_anything hk rfl (.inl rfl), hdata]
  refine Checked.seq_accepted (Checked.seq_accepted (Checked.seq_accepted (Checked.seq_accepted
    (Checked.map_accepted ?actionId) ?status) rfl) ?error) ?next
  case actionId => exact requiredField_present hk rfl rfl
  case status => exact requiredField_present hk rfl hstatus
  case error => exact optionalField_text hk rfl (.inl rfl)
  case next => exact optionalField_text hk rfl (.inr rfl)

end ActionFlow
