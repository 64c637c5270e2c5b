import ActionFlow.Proofs.Document.RoundTrip
import ActionFlow.Proofs.Json.Legible
import ActionFlow.Proofs.Run.Restoration

/-!
# Runs that can be read back

A run stays legible on its way, if it is begun with legible values, and if its inputs and what
comes back from its services are legible. What a step adds to the context and the history is
the input, what came back, texts, and what templates find in the context.
-/

namespace ActionFlow

/-- The arguments of the contract calls of a legible flow are legible. -/
theorem Flow.params_legible {f : Flow} (h : f.toValue.isLegible = true) {a : Action}
    (ha : a ∈ f.actions) {c : ContractCall} (hc : a.task = .contractCall c) :
    (Value.list c.params).isLegible = true := by
  obtain ⟨-, hvalues⟩ := Value.isLegible_object_iff.mp h
  have hactions : (Value.list (f.actions.map (·.toValue .omitted))).isLegible = true :=
    hvalues ("actions", _) (by simp)
  have haction := Value.isLegible_list_iff.mp hactions _ (List.mem_map_of_mem ha)
  have hfield := (Value.isLegible_presentFields a.allFields_nodup).mp haction
    ("params", some (.list (Value.finiteItems c.params))) ?_ _ rfl
  · rw [← Value.isLegible_finitePart]
    exact hfield
  · unfold Action.allFields Task.fields
    rw [hc]
    simp

/-- A failure that can be read back with what was reported. -/
def Failure.isLegible : Failure → Bool
  | .reported report => report.toValue.isLegible
  | _ => true

/-- Whether what came out, or the failure in its place, can be read back. -/
def cameLegible {α : Type} (legible : α → Bool) : Except Failure α → Bool
  | .ok a => legible a
  | .error failure => failure.isLegible

/-- Whether what a request holds for the result can be read back. -/
def Request.isLegible : Request → Bool
  | .contractCall call => call.arguments.isLegible
  | .transfer t => t.receiver.isLegible && t.amount.isLegible
  | .http _ => true

/-- Whether what a plan holds for the result can be read back. -/
def Plan.isLegible : Plan → Bool
  | .answer result => result.data.isLegible
  | .send request => request.isLegible

/-- The failure of a lookup can be read back. -/
theorem cameLegible_orFail {α : Type} {legible : α → Bool} {x : Resolved α}
    (h : ∀ a, x = .ok a → legible a = true) : cameLegible legible (orFail x) = true := by
  cases x with
  | ok a => exact h a rfl
  | error fault => rfl

/-- What comes after something that can be read back. -/
theorem cameLegible_bind {α β : Type} {legible : α → Bool} {other : β → Bool}
    {x : Except Failure α} {f : α → Except Failure β} (h : cameLegible legible x = true)
    (hf : ∀ a, legible a = true → cameLegible other (f a) = true) :
    cameLegible other (x >>= f) = true := by
  cases x with
  | ok a => exact hf a h
  | error failure => exact h

/-- What is made of something that can be read back. -/
theorem cameLegible_map {α β : Type} {legible : α → Bool} {other : β → Bool}
    {x : Except Failure α} {f : α → β} (h : cameLegible legible x = true)
    (hf : ∀ a, legible a = true → other (f a) = true) : cameLegible other (x.map f) = true := by
  cases x with
  | ok a => exact hf a h
  | error failure => exact h

section Plans

variable {context input : Fields}

/-- The arguments of a contract call can be read back. -/
theorem ContractCall.request_legible {call : ContractCall}
    (hparams : (Value.list call.params).isLegible = true)
    (hcontext : (Value.object context).isLegible = true)
    (hinput : Value.fieldsLegible input = true) :
    cameLegible Request.isLegible (call.request context input) = true := by
  have harguments : cameLegible Value.isLegible (orFail (call.arguments context input)) = true := by
    refine cameLegible_orFail fun found hfound => ?_
    unfold arguments at hfound
    split at hfound
    · cases hfound
      cases hgiven : Keyed.get? input "params" with
      | none => rfl
      | some given => exact Value.isLegible_of_get? hinput hgiven
    · exact Value.isLegible_of_resolveAll hparams hcontext hfound
  unfold request
  cases hfound : orFail (call.arguments context input) with
  | error failure =>
    rw [hfound] at harguments
    exact harguments
  | ok found =>
    rw [hfound] at harguments
    exact harguments

/-- The receiver and the amount of a transfer can be read back. -/
theorem Transfer.request_legible (t : Transfer) :
    cameLegible Request.isLegible (t.request context) = true := by
  have hreceiver : cameLegible Value.isLegible (orFail (t.filledReceiver context)) = true := by
    refine cameLegible_orFail fun found hfound => ?_
    unfold filledReceiver at hfound
    split at hfound
    · cases hfound
      rfl
    · split at hfound
      · cases hfound
        rfl
      · obtain ⟨filled, -, rfl⟩ := map_eq_ok hfound
        rfl
  have hamount : t.amountValue.isLegible = true := by
    unfold amountValue
    cases t.amount <;> rfl
  unfold request
  cases hfound : orFail (t.filledReceiver context) with
  | error failure =>
    rw [hfound] at hreceiver
    exact hreceiver
  | ok found =>
    rw [hfound] at hreceiver
    exact Bool.and_eq_true_iff.mpr ⟨hreceiver, hamount⟩

/-- A form that cannot be filled tells which parameter is missing. -/
theorem fillForm_legible (params : List Parameter) (body : Fields) :
    cameLegible (fun _ => true) (fillForm context params body) = true := by
  induction params generalizing body with
  | nil => rfl
  | cons p rest ih =>
    unfold fillForm
    split
    · exact ih _
    · split
      · rfl
      · exact ih body

/-- A request over HTTP holds nothing for the result. -/
theorem HttpCall.request_legible (h : HttpCall) :
    cameLegible Request.isLegible (h.request context) = true := by
  have hlookup : ∀ {α : Type} (x : Resolved α),
      cameLegible (fun _ => true) (orFail x) = true :=
    fun _ => cameLegible_orFail fun _ _ => rfl
  unfold request
  refine cameLegible_bind (hlookup _) fun url _ => ?_
  refine cameLegible_bind (hlookup _) fun headers _ => ?_
  refine cameLegible_bind (hlookup _) fun fixed _ => ?_
  exact cameLegible_bind (fillForm_legible h.params fixed) fun _ _ => rfl

/-- The answer of a decision can be read back. -/
theorem Decision.answer_legible (id : String) (d : Decision)
    (hinput : Value.fieldsLegible input = true) : (d.answer id input).data.isLegible = true := by
  unfold answer
  split
  · have hoptions : (Value.list (d.options.map fun option => .object [("label", .text option.label),
        ("value", .text option.value)])).isLegible = true := by
      rw [Value.isLegible_list_iff, List.forall_mem_map]
      intro option _
      rfl
    unfold question StepResult.waits
    simp only [Value.isLegible, Value.fieldsLegible] at hoptions ⊢
    rw [hoptions]
    rfl
  · next choice hchoice =>
    split
    · rfl
    · have hlegible : choice.isLegible = true :=
        Value.isLegible_of_get? hinput (Option.eq_some_of_filter_eq_some hchoice)
      unfold StepResult.succeeded
      simp only [Value.isLegible, Value.fieldsLegible, hlegible]
      rfl

/-- What an action of a legible flow is about to do can be read back. -/
theorem Action.plan_legible {a : Action}
    (hparams : ∀ c, a.task = .contractCall c → (Value.list c.params).isLegible = true)
    (hcontext : (Value.object context).isLegible = true)
    (hinput : Value.fieldsLegible input = true) :
    cameLegible Plan.isLegible (a.plan context input) = true := by
  unfold plan
  split
  · next call hcall =>
    exact cameLegible_map (call.request_legible (hparams call hcall) hcontext hinput) fun _ h => h
  · next t _ => exact cameLegible_map t.request_legible fun _ h => h
  · next h _ => exact cameLegible_map h.request_legible fun _ h => h
  · next d _ => exact d.answer_legible a.id hinput
  · rfl

end Plans

/-- Whether what came back from a service can be read back. -/
def Reply.isLegible (reply : Reply) : Bool := cameLegible Value.isLegible reply

/-- Services that reply to everything with what can be read back. -/
def Services.ReplyLegibly (s : Services) : Prop :=
  ∀ other : Services, other.chain = s.chain → other.http = s.http →
    ∀ request, Reply.isLegible (other.send request).1 = true

/-- A receipt without a handle is no report. -/
theorem transactionHandle_legible (receipt : Value) :
    cameLegible (fun _ => true) (transactionHandle receipt) = true := by
  unfold transactionHandle
  dsimp only
  split
  · split <;> rfl
  · split <;> rfl

/-- An answer that can be read back is so as the data of a result. -/
theorem answerFields_legible {answer : Value} (h : answer.isLegible = true) :
    (Value.object (answerFields answer)).isLegible = true := by
  have hresponse : ∀ v : Value, v.isLegible = true →
      (Value.object [("response", v)]).isLegible = true := by
    intro v hv
    simp [Value.isLegible, Value.fieldsLegible, hv]
  cases answer with
  | object fields => exact h
  | _ => exact hresponse _ h

/-- Scripted services reply legibly when their scripts do. -/
theorem Services.replyLegibly_of_scripted {s : Services} {receipts answers : List Reply}
    (hchain : s.chain = .scripted receipts) (hhttp : s.http = .scripted answers)
    (hreceipts : ∀ reply ∈ receipts, Reply.isLegible reply = true)
    (hanswers : ∀ reply ∈ answers, Reply.isLegible reply = true) : s.ReplyLegibly := by
  have hfirst : ∀ (usual : Reply) (replies : List Reply), Reply.isLegible usual = true →
      (∀ reply ∈ replies, Reply.isLegible reply = true) →
      Reply.isLegible (takeFirst usual replies).1 = true := by
    intro usual replies husual hreplies
    cases replies with
    | nil => exact husual
    | cons first others => exact hreplies first List.mem_cons_self
  intro other hsame hsame' request
  rw [hchain] at hsame
  rw [hhttp] at hsame'
  cases request with
  | contractCall call =>
    unfold send sendContractCall
    rw [hsame]
    exact hfirst usualReceipt receipts rfl hreceipts
  | transfer t =>
    unfold send sendTransfer
    rw [hsame]
    exact hfirst usualReceipt receipts rfl hreceipts
  | http q =>
    unfold send sendHttp
    rw [hsame']
    exact hfirst usualAnswer answers rfl hanswers

/-- What is concluded from a reply that can be read back can be read back. -/
theorem Services.conclude_legible {id : String} {request : Request} {reply : Value} {s : Services}
    (hrequest : request.isLegible = true) (hreply : reply.isLegible = true) :
    cameLegible (fun r => r.data.isLegible) (s.conclude id request reply).1 = true := by
  cases request with
  | contractCall call =>
    refine cameLegible_map (transactionHandle_legible reply) fun handle _ => ?_
    have harguments : call.arguments.isLegible = true := hrequest
    simp [StepResult.succeeded, Value.isLegible, Value.fieldsLegible, harguments]
  | transfer t =>
    refine cameLegible_map (transactionHandle_legible reply) fun handle _ => ?_
    obtain ⟨hreceiver, hamount⟩ := Bool.and_eq_true_iff.mp hrequest
    simp [StepResult.succeeded, Value.isLegible, Value.fieldsLegible, hreceiver, hamount]
  | http q =>
    exact Value.isLegible_set (Value.isLegible_set (answerFields_legible hreply) _ rfl) _ rfl

/-- What comes of an action that is carried out among legible values can be read back. -/
theorem Services.carryOut_legible {a : Action} {context input : Fields} {s : Services}
    (hparams : ∀ c, a.task = .contractCall c → (Value.list c.params).isLegible = true)
    (hcontext : (Value.object context).isLegible = true)
    (hinput : Value.fieldsLegible input = true)
    (hreplies : ∀ request, Reply.isLegible (s.send request).1 = true) :
    cameLegible (fun r => r.data.isLegible) (s.carryOut a context input).1 = true := by
  have hplan := a.plan_legible hparams hcontext hinput
  unfold carryOut
  split
  · next failure hp =>
    rw [hp] at hplan
    exact hplan
  · next result hp =>
    rw [hp] at hplan
    exact hplan
  · next request hp =>
    rw [hp] at hplan
    have hreply := hreplies request
    split
    · next failure after hsent =>
      rw [hsent] at hreply
      exact hreply
    · next reply after hsent =>
      rw [hsent] at hreply
      exact conclude_legible hplan hreply

/-- The document of a result is legible when its data are. -/
theorem StepResult.isLegible_toValue {r : StepResult} (h : r.data.isLegible = true) :
    r.toValue.isLegible = true := by
  have hdata : ∀ v ∈ r.data.present?, v.isLegible = true := by
    intro v hv
    cases hr : r.data <;> rw [hr] at h hv <;> cases hv <;> exact h
  have htext : ∀ s? : Option String, ∀ v ∈ s?.map Value.text, v.isLegible = true := by
    intro s? v hv
    obtain ⟨s, -, rfl⟩ := Option.map_eq_some_iff.mp hv
    rfl
  refine (Value.isLegible_presentFields (by simp)).mpr ?_
  simp only [List.forall_mem_cons]
  exact ⟨htext (some r.actionId), htext (some r.status.word), hdata, htext r.error, htext r.next,
    nofun⟩

/-- The result of a failure is legible when the failure is. -/
theorem Failure.isLegible_result (id : String) (failure : Failure) :
    (failure.result id).data.isLegible = failure.isLegible := by
  cases failure <;> rfl

/-- The context stays legible when a legible result is remembered in it. -/
theorem isLegible_remember {context : Fields} (h : (Value.object context).isLegible = true)
    (id : String) {r : StepResult} (hr : r.data.isLegible = true) :
    (Value.object (remember id r context)).isLegible = true :=
  Value.isLegible_set (Value.isLegible_set h _ (StepResult.isLegible_toValue hr)) _ rfl

namespace Run

/-- A run of which everything can be read back. -/
structure IsLegible (run : Run) : Prop where
  /-- Its flow can be read back. -/
  flow : run.flow.toValue.isLegible = true
  /-- So can its id. -/
  id : run.id.isLegible = true
  /-- So can its context. -/
  context : run.context.isLegible = true
  /-- So can all that its actions answered. -/
  history : ∀ r ∈ run.history, r.data.isLegible = true
  /-- So can its position. -/
  current : run.current.isLegible = true

/-- The document of a legible run is legible. -/
theorem IsLegible.snapshotOf {run : Run} (h : run.IsLegible) :
    (run.snapshotOf run.flow.toValue).isLegible = true := by
  have hhistory : (Value.list (run.history.map StepResult.toValue)).isLegible = true := by
    rw [Value.isLegible_list_iff, List.forall_mem_map]
    exact fun r hr => StepResult.isLegible_toValue (h.history r hr)
  refine Value.isLegible_object_iff.mpr ⟨by simp, ?_⟩
  simp only [List.forall_mem_cons]
  exact ⟨h.id, h.flow, rfl, h.current, h.context, hhistory, nofun⟩

variable {run : Run}

/-- A legible run stays so with a legible context, a further result and a position. -/
theorem IsLegible.record (h : run.IsLegible) {context : Fields}
    (hcontext : (Value.object context).isLegible = true) {r : StepResult}
    (hr : r.data.isLegible = true) {current : Value} (hcurrent : current.isLegible = true)
    (phase : Phase) :
    IsLegible ({ run with
      context := .object context, phase := phase, current := current }.record r) := by
  refine ⟨h.flow, h.id, hcontext, ?_, hcurrent⟩
  intro e he
  rcases List.mem_append.mp he with hold | hnew
  · exact h.history e hold
  · obtain rfl := List.mem_singleton.mp hnew
    exact hr

/-- However a legible run goes on from an outcome that can be read back, it stays legible. -/
theorem IsLegible.settles (h : run.IsLegible) {a : Action} {context : Fields}
    (hcontext : (Value.object context).isLegible = true)
    {outcome : Except Failure StepResult}
    (houtcome : cameLegible (fun r => r.data.isLegible) outcome = true) {settled : Settled}
    (hset : run.Settles a context outcome settled) : settled.run.IsLegible := by
  cases hset with
  | fail failure =>
    have hr : (failure.result a.id).data.isLegible = true :=
      (failure.isLegible_result a.id).trans houtcome
    have hreason : (Value.ofText? (failure.result a.id).error).isLegible = true := by
      cases (failure.result a.id).error <;> rfl
    exact h.record (Value.isLegible_set (isLegible_remember hcontext a.id hr) _ hreason) hr
      h.current .running
  | @refuse r hs =>
    have hreason : (Value.ofText? r.error).isLegible = true := by cases r.error <;> rfl
    exact h.record (Value.isLegible_set (isLegible_remember hcontext a.id houtcome) _ hreason)
      houtcome h.current .running
  | await hs =>
    exact h.record (isLegible_remember hcontext a.id houtcome) houtcome h.current .waitingForInput
  | complete hs hk =>
    exact h.record (isLegible_remember hcontext a.id houtcome) houtcome rfl .completed
  | escape hs hk hf =>
    exact ⟨h.flow, h.id, isLegible_remember hcontext a.id houtcome, h.history, h.current⟩
  | halt hs hk hf hn =>
    exact h.record (isLegible_remember hcontext a.id houtcome) houtcome rfl .halted
  | @moveTo r next hs hk hf hn =>
    have hr : { r with next := some next }.data.isLegible = true := houtcome
    exact h.record (isLegible_remember hcontext a.id hr) hr rfl .running

/-- The current action is one of the flow. -/
theorem mem_of_currentAction {a : Action} (h : run.currentAction = .ok (some a)) :
    a ∈ run.flow.actions := findAction?_mem (action?_of_currentAction h)

/-- A step keeps a run legible. -/
theorem IsLegible.step (h : run.IsLegible) {input : Fields}
    (hinput : Value.fieldsLegible input = true) {s : Services} (hs : s.ReplyLegibly) :
    (run.step input s).run.IsLegible := by
  rcases run.step_cases input s with ⟨a, context, hat⟩ | hsame
  · obtain ⟨settled, hset, -, -, hrun⟩ := step_settles hat input s
    have hold : (Value.object context).isLegible = true := hat.object ▸ h.context
    have hcontext := Value.isLegible_merge hold hinput
    have houtcome : cameLegible (fun r => r.data.isLegible)
        (run.outcome a context input s) = true :=
      Services.carryOut_legible
        (fun c hc => Flow.params_legible h.flow (mem_of_currentAction hat.action) hc) hcontext
        hinput (hs (run.announced a s) rfl rfl)
    rw [hrun]
    exact h.settles hcontext houtcome hset
  · rw [hsame]
    exact h

/-- A run begins legible with legible values. -/
theorem begin_isLegible {f : Flow} (hf : f.toValue.isLegible = true) {context : Fields}
    (hcontext : (Value.object context).isLegible = true) {asked : Value}
    (hasked : asked.isLegible = true) (s : Services) : (begin f context asked s).1.IsLegible := by
  have hid : (chooseId asked s).1.isLegible = true := by
    unfold chooseId
    split
    · exact hasked
    · rfl
  exact ⟨hf, hid, hcontext, nofun, rfl⟩

end Run

/-- A call that brings nothing but what can be read back. -/
structure Call.IsLegible (call : Call) : Prop where
  /-- Its input can be read back. -/
  input : Value.fieldsLegible call.input = true
  /-- So can all replies of its services. -/
  services : call.services.ReplyLegibly

/-- Calls that bring nothing else keep a run legible. -/
theorem Run.IsLegible.afterCalls {run : Run} (h : run.IsLegible) {calls : List Call}
    (hcalls : ∀ call ∈ calls, call.IsLegible) : (run.afterCalls calls).IsLegible := by
  induction calls generalizing run with
  | nil => exact h
  | cons call rest ih =>
    obtain ⟨hcall, hrest⟩ := List.forall_mem_cons.mp hcalls
    exact ih (h.step hcall.input hcall.services) hrest

end ActionFlow
