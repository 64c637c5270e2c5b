import ActionFlow.Proofs.Run.History
import ActionFlow.Proofs.Template.Lookups

/-!
# Requests made again

What an action sends depends on the input of the step and on what its templates and form
parameters read from the context. A failed step leaves the run at its action and changes
nothing in the context but what is remembered of the last action. Hence the same input sends
the same request again, unless the action reads what is remembered of the failure.
-/

namespace ActionFlow

/-- The paths of a context that an action may look up to fill its templates. -/
def Action.paths (a : Action) : List (List Char) :=
  match a.task with
  | .contractCall call => (Value.list call.params).paths
  | .transfer t => (Value.ofText? t.receiver).paths
  | .http h => textPaths h.endpoint ++ (Value.object h.headerFields).paths ++
      (Value.object h.body).paths
  | .decision _ => []
  | .completion _ => []

/-- The form parameters of an action, which it reads from the context by their names. -/
def Action.params (a : Action) : List Parameter :=
  match a.task with
  | .http h => h.params
  | _ => []

/-- The keys under which a context remembers the last action. -/
def memoryKeys : List String := [lastResultKey, lastActionKey, lastErrorKey]

section Agreement

variable {context other : Fields}

/-- The paths of the texts of a value are paths of the value. -/
theorem Value.mem_paths {v : Value} {s : String} (hs : s ∈ v.texts) {path : List Char}
    (hpath : path ∈ textPaths s) : path ∈ v.paths := List.mem_flatMap.mpr ⟨s, hs, hpath⟩

/-- Fields are filled alike where their paths lead to the same. -/
theorem substituteFields_congr {fields : Fields}
    (h : ∀ path ∈ (Value.object fields).paths,
      resolvePath path (.object context) = resolvePath path (.object other)) :
    substituteFields context fields = substituteFields other fields := by
  refine Value.mapTextsFields_congr fields fun s hs => ?_
  have hs' : s ∈ (Value.object fields).texts := hs
  rw [substituteText_congr fun path hpath => h path (Value.mem_paths hs' hpath)]

/-- A form is filled alike in contexts that agree on the names of its parameters. -/
theorem fillForm_congr {params : List Parameter}
    (h : ∀ p ∈ params, Keyed.get? context p.name = Keyed.get? other p.name) (body : Fields) :
    fillForm context params body = fillForm other params body := by
  induction params generalizing body with
  | nil => rfl
  | cons p rest ih =>
    have hvalue : p.value? context = p.value? other := by
      unfold Parameter.value?
      rw [h p List.mem_cons_self]
    have hrest := ih fun q hq => h q (List.mem_cons_of_mem _ hq)
    unfold fillForm
    rw [hvalue]
    split
    · exact hrest _
    · split
      · rfl
      · exact hrest _

/-- A contract call asks for the same where the paths of its arguments lead to the same. -/
theorem ContractCall.request_congr {call : ContractCall}
    (h : ∀ path ∈ (Value.list call.params).paths,
      resolvePath path (.object context) = resolvePath path (.object other)) (input : Fields) :
    call.request context input = call.request other input := by
  have hresolve : (Value.list call.params).resolveAll (.object context) =
      (Value.list call.params).resolveAll (.object other) :=
    Value.mapTexts_congr _ fun s hs =>
      resolveText_congr fun path hpath => h path (Value.mem_paths hs hpath)
  unfold request arguments
  rw [hresolve]

/-- A transfer asks for the same where the paths of its receiver lead to the same. -/
theorem Transfer.request_congr {t : Transfer}
    (h : ∀ path ∈ (Value.ofText? t.receiver).paths,
      resolvePath path (.object context) = resolvePath path (.object other)) :
    t.request context = t.request other := by
  have hreceiver : t.filledReceiver context = t.filledReceiver other := by
    unfold filledReceiver
    cases hr : t.receiver with
    | none => rfl
    | some receiver =>
      rw [hr] at h
      have hs : receiver ∈ (Value.ofText? (some receiver)).texts := List.mem_cons_self
      dsimp only [Value.substitute]
      rw [substituteText_congr fun path hpath => h path (Value.mem_paths hs hpath)]
  unfold request
  rw [hreceiver]

/-- An HTTP call asks for the same where its paths lead to the same, in contexts that agree
on the names of its parameters. -/
theorem HttpCall.request_congr {c : HttpCall}
    (hurl : ∀ path ∈ textPaths c.endpoint,
      resolvePath path (.object context) = resolvePath path (.object other))
    (hheaders : ∀ path ∈ (Value.object c.headerFields).paths,
      resolvePath path (.object context) = resolvePath path (.object other))
    (hbody : ∀ path ∈ (Value.object c.body).paths,
      resolvePath path (.object context) = resolvePath path (.object other))
    (hparams : ∀ p ∈ c.params, Keyed.get? context p.name = Keyed.get? other p.name) :
    c.request context = c.request other := by
  have hfill : fillForm context c.params = fillForm other c.params :=
    funext fun body => fillForm_congr hparams body
  unfold request
  rw [substituteText_congr hurl, substituteFields_congr hheaders, substituteFields_congr hbody,
    hfill]

/-- An action has the same plan where its paths lead to the same, in contexts that agree on
the names of its parameters. -/
theorem Action.plan_congr {a : Action}
    (hpaths : ∀ path ∈ a.paths,
      resolvePath path (.object context) = resolvePath path (.object other))
    (hparams : ∀ p ∈ a.params, Keyed.get? context p.name = Keyed.get? other p.name)
    (input : Fields) : a.plan context input = a.plan other input := by
  unfold paths at hpaths
  unfold params at hparams
  unfold plan
  cases ht : a.task with
  | contractCall call =>
    rw [ht] at hpaths
    dsimp only
    rw [call.request_congr hpaths input]
  | transfer t =>
    rw [ht] at hpaths
    dsimp only
    rw [t.request_congr hpaths]
  | http c =>
    rw [ht] at hpaths hparams
    simp only [List.mem_append, or_imp, forall_and] at hpaths
    dsimp only
    rw [c.request_congr hpaths.1.1 hpaths.1.2 hpaths.2 hparams]
  | decision d => rfl
  | completion c => rfl

end Agreement

/-- Services that give the replies of a script, and keep each request that they are sent. -/
structure Services.IsScripted (s : Services) : Prop where
  /-- The chain has a script. -/
  chain : ∃ replies, s.chain = .scripted replies
  /-- The service over HTTP has a script. -/
  http : ∃ replies, s.http = .scripted replies

/-- The request of a plan that sends one. -/
def Plan.request? : Plan → Option Request
  | .answer _ => none
  | .send request => some request

/-- The request that an action sends in a context that has the input, if it sends one. -/
def Action.request? (a : Action) (context input : Fields) : Option Request :=
  (a.plan context input).toOption.bind Plan.request?

/-- Scripted services keep the request that they are sent. -/
theorem Services.IsScripted.send_exchanges {s : Services} (h : s.IsScripted) (request : Request) :
    (s.send request).2.exchanges = s.exchanges ++ [.request request] := by
  obtain ⟨chainReplies, hchain⟩ := h.chain
  obtain ⟨httpReplies, hhttp⟩ := h.http
  cases request with
  | contractCall call => simp only [send, sendContractCall, hchain, scriptedChain, keep]
  | transfer t => simp only [send, sendTransfer, hchain, scriptedChain, keep]
  | http c => simp only [send, sendHttp, hhttp, keep]

/-- An action that is carried out sends the request that it has, if it has one. -/
theorem Services.carryOut_exchanges (s : Services) (a : Action) (context input : Fields) :
    (a.request? context input = none ∧
        (s.carryOut a context input).2.exchanges = s.exchanges) ∨
      ∃ request, a.request? context input = some request ∧
        (s.carryOut a context input).2.exchanges = (s.send request).2.exchanges := by
  unfold Action.request?
  cases hplan : a.plan context input with
  | error failure =>
    rw [carryOut_of_plan_error hplan]
    exact .inl ⟨rfl, rfl⟩
  | ok plan =>
    cases plan with
    | answer result =>
      rw [carryOut_of_plan_answer hplan]
      exact .inl ⟨rfl, rfl⟩
    | send request =>
      rw [carryOut_of_plan_send hplan, ask_exchanges]
      exact .inr ⟨request, rfl, rfl⟩

/-- Scripted services are sent the request of an action that is carried out, and nothing
else. -/
theorem Services.IsScripted.carryOut_exchanges {s : Services} (h : s.IsScripted) (a : Action)
    (context input : Fields) :
    (s.carryOut a context input).2.exchanges =
      s.exchanges ++ ((a.request? context input).toList.map .request) := by
  rcases s.carryOut_exchanges a context input with ⟨hnone, hsent⟩ | ⟨request, hsome, hsent⟩
  · rw [hsent, hnone]
    exact (List.append_nil _).symm
  · rw [hsent, hsome]
    exact h.send_exchanges request

/-- Notes for the log send nothing, and leave the bound id as it is. -/
theorem Services.foldl_write_keeps (notes : List Note) (s : Services) :
    (notes.foldl (fun s note => s.write note) s).exchanges = s.exchanges ∧
      (notes.foldl (fun s note => s.write note) s).correlation = s.correlation := by
  induction notes generalizing s with
  | nil => exact ⟨rfl, rfl⟩
  | cons note rest ih => exact ih (s.write note)

namespace Run

/-- The request that a step with an input sends, if it sends one. -/
def request? (run : Run) (input : Fields) : Option Request :=
  if run.isFinished then none
  else
    match run.currentAction, run.context with
    | .ok (some a), .object context => a.request? (Keyed.merge context input) input
    | _, _ => none

/-- A step at an action sends the request of the action. -/
theorem At.request?_eq {run : Run} {a : Action} {context : Fields} (h : run.At a context)
    (input : Fields) : run.request? input = a.request? (Keyed.merge context input) input := by
  unfold request?
  rw [h.unfinished, h.action, h.object]
  rfl

/-- A run that is not at an action sends nothing. -/
theorem request?_eq_none {run : Run} (h : ∀ a context, ¬ run.At a context) (input : Fields) :
    run.request? input = none := by
  unfold request?
  split
  · rfl
  · next hu =>
    split
    · next a context haction hobject =>
      have htruthy : run.current.isTruthy = true := by
        by_contra hfalse
        rw [currentAction, if_pos (by simpa using hfalse)] at haction
        cases haction
      exact absurd ⟨by simpa using hu, htruthy, haction, hobject⟩ (h a context)
    · rfl

/-- What a step does in its scope when it is not at an action leaves its services as they are. -/
theorem stepInScope_services_of_not_at {run : Run} (h : ∀ a context, ¬ run.At a context)
    (input : Fields) (s : Services) : (run.stepInScope input s).services = s := by
  unfold stepInScope
  split
  · rfl
  · next hs =>
    rw [Bool.or_eq_true, not_or, Bool.not_eq_true, Bool.not_eq_true, Bool.not_eq_false'] at hs
    split
    · rfl
    · rfl
    · next a ha =>
      split
      · next context hc => exact absurd ⟨hs.1, hs.2, ha, hc⟩ (h a context)
      · rfl

/-- A step that is not at an action leaves its services as they are. -/
theorem step_services_of_not_at {run : Run} (h : ∀ a context, ¬ run.At a context)
    (input : Fields) (s : Services) : (run.step input s).services = s := by
  unfold step
  dsimp only
  rw [stepInScope_services_of_not_at h]
  dsimp only
  rw [Log.Correlation.leave_enter]

/-- A step at an action sends in its scope what the action sends. -/
theorem At.stepInScope_exchanges {run : Run} {a : Action} {context : Fields}
    (h : run.At a context) (input : Fields) (s : Services) :
    (run.stepInScope input s).services.exchanges =
      ((s.write ⟨Log.Level.info, "Dispatching action",
        run.noteFields a [("node_type", .text a.kind.word)]⟩).carryOut a
          (Keyed.merge context input) input).2.exchanges := by
  have hs : (run.isFinished || !run.current.isTruthy) = false := by
    rw [h.unfinished, h.positioned]
    rfl
  unfold stepInScope
  rw [if_neg (by rw [hs]; exact Bool.false_ne_true), h.action]
  dsimp only
  rw [h.object]
  exact (Services.foldl_write_keeps _ _).1

/-- A step at an action sends what the action sends. -/
theorem At.step_exchanges {run : Run} {a : Action} {context : Fields} (h : run.At a context)
    (input : Fields) (s : Services) :
    (run.step input s).services.exchanges =
      ((run.announced a s).carryOut a (Keyed.merge context input) input).2.exchanges :=
  h.stepInScope_exchanges input { s with correlation := s.correlation.enter run.id }

/-- Scripted services are sent the request of a step, and nothing else. -/
theorem step_exchanges (run : Run) (input : Fields) {s : Services} (hs : s.IsScripted) :
    (run.step input s).services.exchanges =
      s.exchanges ++ (run.request? input).toList.map .request := by
  by_cases h : ∃ a context, run.At a context
  · obtain ⟨a, context, hat⟩ := h
    have hannounced : (run.announced a s).IsScripted := ⟨hs.chain, hs.http⟩
    rw [hat.step_exchanges, hannounced.carryOut_exchanges, hat.request?_eq]
    rfl
  · have hnot : ∀ a context, ¬ run.At a context := fun a context hat => h ⟨a, context, hat⟩
    rw [step_services_of_not_at hnot, request?_eq_none hnot]
    exact (List.append_nil _).symm

/-- A step that fails leaves the run at its action, and changes nothing in the context but
what is remembered of the action. -/
theorem At.step_of_failed {run : Run} {a : Action} {context : Fields} (h : run.At a context)
    {input : Fields} {s : Services} {r : StepResult} (hr : (run.step input s).answer = .ok r)
    (hs : r.status = .error) :
    (run.step input s).run = { run with
      context := .object (rememberError r.error (remember a.id r (Keyed.merge context input)))
      phase := .running
      history := run.history ++ [r] } := by
  obtain ⟨settled, hset, -, hanswer, hrun⟩ := step_settles h input s
  rw [hanswer] at hr
  rw [hrun]
  generalize run.outcome a context input s = outcome at hset
  cases hset with
  | fail failure =>
    obtain rfl := Except.ok.inj hr
    rfl
  | refuse _ =>
    obtain rfl := Except.ok.inj hr
    rfl
  | escape _ _ _ => cases hr
  | await hw =>
    obtain rfl := Except.ok.inj hr
    simp [hw] at hs
  | complete hw _ =>
    obtain rfl := Except.ok.inj hr
    simp [hw] at hs
  | halt hw _ _ _ =>
    obtain rfl := Except.ok.inj hr
    simp [hw] at hs
  | moveTo hw _ _ _ =>
    obtain rfl := Except.ok.inj hr
    simp [hw] at hs

/-- What is remembered of a failure stands under the keys of the memory. -/
theorem get?_remembered {key : String} (h : key ∉ memoryKeys) (reason : Option String)
    (id : String) (r : StepResult) (context : Fields) :
    Keyed.get? (rememberError reason (remember id r context)) key = Keyed.get? context key := by
  simp only [memoryKeys, List.mem_cons, List.not_mem_nil, or_false, not_or] at h
  obtain ⟨hresult, haction, herror⟩ := h
  unfold rememberError remember
  rw [Keyed.get?_set_of_ne _ _ herror, Keyed.get?_set_of_ne _ _ haction,
    Keyed.get?_set_of_ne _ _ hresult]

/-- Once a failure is remembered and the input is given again, a key that the input gives, or
that is not one of the memory, has the value that it had before. -/
theorem get?_merge_remembered {key : String} {input : Fields}
    (h : key ∈ memoryKeys → Keyed.has input key = true) (reason : Option String) (id : String)
    (r : StepResult) (context : Fields) :
    Keyed.get? (Keyed.merge (rememberError reason (remember id r (Keyed.merge context input)))
        input) key =
      Keyed.get? (Keyed.merge context input) key := by
  refine Keyed.get?_merge_congr ?_
  cases hhas : Keyed.has input key with
  | true => exact .inl rfl
  | false =>
    have hmemory : key ∉ memoryKeys := fun hmem => by simp [h hmem] at hhas
    rw [get?_remembered hmemory, Keyed.get?_merge_of_not_has hhas]
    exact .inr rfl

/-- What an action reads under the keys of the memory is the same in another context as in
that of a run, where an input does not give it. -/
structure KeepsReads (run : Run) (other : Value) (a : Action) (input : Fields) : Prop where
  /-- The paths of the templates lead to the same. -/
  paths : ∀ path ∈ a.paths, pathKey path ∈ memoryKeys → Keyed.has input (pathKey path) = false →
    resolvePath path other = resolvePath path run.context
  /-- The form parameters have the same values. -/
  params : ∀ p ∈ a.params, p.name ∈ memoryKeys → Keyed.has input p.name = false →
    other.get? p.name = run.context.get? p.name

/-- After a failed step that leaves what the action reads as it was, the same input makes the
action send the same. -/
theorem At.request?_of_failed {run : Run} {a : Action} {context : Fields} (h : run.At a context)
    {input : Fields} {s : Services} {r : StepResult} (hr : (run.step input s).answer = .ok r)
    (hs : r.status = .error)
    (hkeeps : run.KeepsReads (run.step input s).run.context a input) :
    (run.step input s).run.request? input = run.request? input := by
  have hrun := h.step_of_failed hr hs
  rw [hrun] at hkeeps ⊢
  generalize hother : rememberError r.error (remember a.id r (Keyed.merge context input)) = other
    at hkeeps ⊢
  have hagree : ∀ k, (k ∈ memoryKeys → Keyed.has input k = true) →
      Keyed.get? (Keyed.merge other input) k = Keyed.get? (Keyed.merge context input) k :=
    fun k hk => hother ▸ get?_merge_remembered hk _ _ _ _
  have hgiven : ∀ k, ¬ (k ∈ memoryKeys → Keyed.has input k = true) →
      k ∈ memoryKeys ∧ Keyed.has input k = false := by
    intro k hk
    rwa [Classical.not_imp, Bool.not_eq_true] at hk
  have hpaths : ∀ path ∈ a.paths, resolvePath path (.object (Keyed.merge other input)) =
      resolvePath path (.object (Keyed.merge context input)) := by
    intro path hpath
    by_cases hk : pathKey path ∈ memoryKeys → Keyed.has input (pathKey path) = true
    · exact resolvePath_congr (hagree _ hk)
    · obtain ⟨hmemory, hhas⟩ := hgiven _ hk
      have hsame := hkeeps.paths path hpath hmemory hhas
      rw [h.object] at hsame
      rw [resolvePath_congr (Keyed.get?_merge_of_not_has hhas other),
        resolvePath_congr (Keyed.get?_merge_of_not_has hhas context), hsame]
  have hparams : ∀ p ∈ a.params, Keyed.get? (Keyed.merge other input) p.name =
      Keyed.get? (Keyed.merge context input) p.name := by
    intro p hp
    by_cases hk : p.name ∈ memoryKeys → Keyed.has input p.name = true
    · exact hagree _ hk
    · obtain ⟨hmemory, hhas⟩ := hgiven _ hk
      have hsame := hkeeps.params p hp hmemory hhas
      rw [h.object] at hsame
      rw [Keyed.get?_merge_of_not_has hhas, Keyed.get?_merge_of_not_has hhas]
      exact hsame
  have hafter : Run.At { run with
      context := .object other, phase := .running, history := run.history ++ [r] } a other :=
    ⟨rfl, h.positioned, h.action, rfl⟩
  rw [hafter.request?_eq, h.request?_eq]
  unfold Action.request?
  rw [a.plan_congr hpaths hparams]

end Run

/-- Wherever a run of a valid flow has come to, a step that sends a request and fails leaves
the run at its action. The same input then sends the same request again, as scripted services
get to see, provided that the failure leaves what the action reads as it was. -/
theorem Run.retry_repeats_request {f : Flow} (hf : f.validated = .ok f) (context : Fields)
    (id : Value) (calls : List Call) (input : Fields) (s : Services) {q : Request}
    {r : StepResult} :
    let run := (Run.start f context id).afterCalls calls
    let after := (run.step input s).run
    run.request? input = some q → (run.step input s).answer = .ok r → r.status = .error →
    ∃ a ∈ f.actions, run.current = .text a.id ∧ after.current = .text a.id ∧
      (run.KeepsReads after.context a input → after.request? input = some q ∧
        ∀ later : Services, later.IsScripted →
          (after.step input later).services.exchanges = later.exchanges ++ [.request q]) := by
  intro run after hq hr hs
  have hmeets := f.validated_eq_ok_iff.mp hf
  have h := Run.afterCalls_onCourse hmeets context id calls
  have hu : run.isFinished = false := by
    by_contra hend
    simp [request?, hend] at hq
  obtain ⟨a, own, hat, ha, hcur, -⟩ := h.exists_at hmeets hu
  have hafter : after.current = run.current := by
    unfold after
    rw [hat.step_of_failed hr hs]
  refine ⟨a, ha, hcur, hafter.trans hcur, fun hkeeps => ?_⟩
  have hsame : after.request? input = some q := (hat.request?_of_failed hr hs hkeeps).trans hq
  refine ⟨hsame, fun later hlater => ?_⟩
  rw [after.step_exchanges input hlater, hsame]
  rfl

/-- A flow that calls a contract with what is remembered of the last failure. -/
def recallingFlow : Flow where
  label := "Recall"
  initial := "pay"
  actions :=
    [⟨"pay", "Pay", [⟨"done", []⟩],
        .contractCall ⟨"0x0000000000000000000000000000000000000000", [[]], "pay",
          ⟨"fuji", none⟩, none, [.text "\x7b\x7blastError\x7d\x7d"]⟩⟩,
      ⟨"done", "Done", [], .completion ⟨"Paid", "success"⟩⟩]

/-- The contract call of that flow with an argument. -/
def recalledRequest (argument : Value) : Request :=
  .contractCall ⟨"0x0000000000000000000000000000000000000000", "pay", .list [argument],
    ⟨"fuji", none⟩, .null⟩

/-- Services whose chain fails at first. -/
def failingServices : Services :=
  { Services.quiet with chain := .scripted [.error (.other "RuntimeError" "down")] }

/-- The call is made again as it was when the input gives what the call would recall. -/
theorem Run.retry_repeats_given_recall :
    let run := (Run.start recallingFlow [] (.text "r")).afterCalls []
    let input : Fields := [("lastError", .text "none")]
    let failed := run.step input failingServices
    recallingFlow.validated = .ok recallingFlow ∧
      run.request? input = some (recalledRequest (.text "none")) ∧
      failed.answer = .ok (.failed "pay" "down") ∧
      (∀ a ∈ recallingFlow.actions, run.KeepsReads failed.run.context a input) ∧
      failed.run.request? input = some (recalledRequest (.text "none")) ∧
      ∀ later : Services, later.IsScripted →
        (failed.run.step input later).services.exchanges =
          later.exchanges ++ [.request (recalledRequest (.text "none"))] := by
  intro run input failed
  have hvalid : recallingFlow.validated = .ok recallingFlow := by cbv
  have hkeeps : ∀ a ∈ recallingFlow.actions, run.KeepsReads failed.run.context a input := by
    have hpaths : ∀ a ∈ recallingFlow.actions, ∀ path ∈ a.paths, pathKey path = "lastError" := by
      have hpay : (Value.list [.text "\x7b\x7blastError\x7d\x7d"]).paths =
          ["lastError".toList, "lastError".toList] := by cbv
      intro a ha path hpath
      simp only [recallingFlow, List.mem_cons, List.not_mem_nil, or_false] at ha
      obtain rfl | rfl := ha
      · have heq : path = "lastError".toList := by simpa [Action.paths, hpay] using hpath
        rw [heq]
        rfl
      · cases hpath
    intro a ha
    refine ⟨fun path hpath _ hhas => ?_, fun p hp => ?_⟩
    · rw [hpaths a ha path hpath] at hhas
      cases hhas
    · simp only [recallingFlow, List.mem_cons, List.not_mem_nil, or_false] at ha
      obtain rfl | rfl := ha <;> cases hp
  obtain ⟨a, ha, -, -, hagain⟩ := Run.retry_repeats_request hvalid [] (.text "r") []
    input failingServices (q := recalledRequest (.text "none")) (r := .failed "pay" "down")
    rfl rfl rfl
  exact ⟨hvalid, rfl, rfl, hkeeps, hagain (hkeeps a ha)⟩

/-- A contract call that reads the last error is made with another argument when it is made
again. -/
theorem Run.retry_changes_recall :
    let run := Run.start recallingFlow [] (.text "r")
    let failed := run.step [] failingServices
    recallingFlow.validated = .ok recallingFlow ∧
      failed.services.exchanges =
        [.request (recalledRequest (.text "\x7b\x7blastError\x7d\x7d"))] ∧
      failed.answer = .ok (.failed "pay" "down") ∧
      (failed.run.step [] .quiet).services.exchanges =
        [.request (recalledRequest (.text "down"))] := by
  refine ⟨by cbv, ?_, ?_, ?_⟩
  · rfl
  · rfl
  · rfl

end ActionFlow
