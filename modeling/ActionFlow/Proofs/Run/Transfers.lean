import ActionFlow.Proofs.Run.Repetition
import Mathlib

/-!
# The amounts that runs transfer

Validation refuses a transfer whose amount is missing or lies at zero or below. A value that
is no number lies nowhere, so it passes as well. Every other amount that passes is above zero.
A run of a valid flow asks a chain for a transfer only at an action that is one, and then for
the amount of that action as it stands.
-/

namespace ActionFlow

/-- Of two places on the line one does not lie right of the other when it lies left of it or
is the same. -/
theorem Extent.le_eq_false_iff (a b : Extent) : a.le b = false ↔ b.lt a = true := by
  cases a <;> cases b <;> simp [Extent.le, Extent.lt]
  omega

/-- A number is above zero: it has a place on the line, to the right of that of zero. -/
def Binary64.IsPositive (x : Binary64) : Prop :=
  ∃ place, x.extent? = some place ∧ (Extent.at 0).lt place = true

/-- Only a value that is no number has no place on the line. -/
theorem Binary64.extent?_eq_none_iff (x : Binary64) : x.extent? = none ↔ x.isNaN = true := by
  rcases x with source | negative | ⟨negative, m⟩
  · simp [extent?, isNaN]
  · cases negative <;> simp [extent?, isNaN]
  · cases negative <;> simp [extent?, isNaN]

/-- An amount that validation does not find lacking is above zero, unless it is no number. -/
theorem isPositive_iff_of_lacksAmount {x : Binary64} (h : lacksAmount (some x) = false) :
    x.IsPositive ↔ x.isNaN = false := by
  unfold lacksAmount at h
  cases hplace : x.extent? with
  | none =>
    have hnan := x.extent?_eq_none_iff.mp hplace
    simp [Binary64.IsPositive, hplace, hnan]
  | some place =>
    simp only [hplace] at h
    have hnan : x.isNaN = false := by
      rw [← Bool.not_eq_true, ← x.extent?_eq_none_iff, hplace]
      exact Option.some_ne_none place
    exact ⟨fun _ => hnan, fun _ => ⟨place, hplace, (Extent.le_eq_false_iff _ _).mp h⟩⟩

/-- A transfer that passes its check has an amount, which is above zero unless it is no
number. -/
theorem Action.amount_of_check {a : Action} {t : Transfer} (hc : a.check = .ok ())
    (ht : a.task = .transfer t) :
    ∃ x, t.amount = some x ∧ (x.IsPositive ↔ x.isNaN = false) := by
  obtain ⟨-, -, htask⟩ := check_eq_ok_iff.mp hc
  have hamount : lacksAmount t.amount = false := by
    unfold checkTask at htask
    rw [ht] at htask
    dsimp only at htask
    split at htask
    · exact refuseIf_eq_ok_iff.mp (Check.bind_eq_ok_iff.mp htask).1
    · obtain ⟨-, hrest⟩ := Check.bind_eq_ok_iff.mp htask
      exact refuseIf_eq_ok_iff.mp (Check.bind_eq_ok_iff.mp hrest).1
  cases hx : t.amount with
  | none => simp [hx, lacksAmount] at hamount
  | some x => exact ⟨x, rfl, isPositive_iff_of_lacksAmount (hx ▸ hamount)⟩

/-- The request of a plan that an action has. -/
theorem Action.plan_of_request? {a : Action} {context input : Fields} {q : Request}
    (h : a.request? context input = some q) : a.plan context input = .ok (.send q) := by
  unfold request? at h
  cases hplan : a.plan context input with
  | error failure => simp [hplan, Except.toOption] at h
  | ok plan =>
    cases plan with
    | answer r => simp [hplan, Except.toOption, Plan.request?] at h
    | send own =>
      obtain rfl : own = q := by simpa [hplan, Except.toOption, Plan.request?] using h
      rfl

/-- What an action asks for: a request of its own sort. -/
inductive Action.AsksFor (a : Action) (context input : Fields) : Request → Prop where
  /-- A contract call. -/
  | contractCall {call : ContractCall} {q : ContractRequest} (ht : a.task = .contractCall call)
    (hq : call.request context input = .ok (.contractCall q)) :
    a.AsksFor context input (.contractCall q)
  /-- A transfer, which has its own amount. -/
  | transfer {t : Transfer} {q : TransferRequest} (ht : a.task = .transfer t)
    (hq : t.request context = .ok (.transfer q)) (hamount : q.amount = t.amountValue) :
    a.AsksFor context input (.transfer q)
  /-- An HTTP call. -/
  | http {call : HttpCall} {q : Http.Request} (ht : a.task = .http call)
    (hq : call.request context = .ok (.http q)) : a.AsksFor context input (.http q)

/-- An action asks for nothing but a request of its own sort. -/
theorem Action.asksFor_of_request? {a : Action} {context input : Fields} {q : Request}
    (h : a.request? context input = some q) : a.AsksFor context input q := by
  have hplan := plan_of_request? h
  unfold plan at hplan
  split at hplan
  · next call ht =>
    obtain ⟨own, hown, hsend⟩ := map_eq_ok hplan
    cases hsend
    have hasked := hown
    unfold ContractCall.request at hown
    split at hown <;> cases hown
    exact .contractCall ht hasked
  · next t ht =>
    obtain ⟨own, hown, hsend⟩ := map_eq_ok hplan
    cases hsend
    have hasked := hown
    unfold Transfer.request at hown
    split at hown <;> cases hown
    exact .transfer ht hasked rfl
  · next call ht =>
    obtain ⟨own, hown, hsend⟩ := map_eq_ok hplan
    cases hsend
    have hasked := hown
    unfold HttpCall.request at hown
    obtain ⟨url, -, hown⟩ := bind_eq_ok hown
    obtain ⟨headers, -, hown⟩ := bind_eq_ok hown
    obtain ⟨fixed, -, hown⟩ := bind_eq_ok hown
    obtain ⟨body, -, hown⟩ := bind_eq_ok hown
    cases hown
    exact .http ht hasked
  · cases hplan
  · cases hplan

/-- Only a transfer asks for a transfer, and for its own amount. -/
theorem Action.transfer_of_request? {a : Action} {context input : Fields} {q : TransferRequest}
    (h : a.request? context input = some (.transfer q)) :
    ∃ t, a.task = .transfer t ∧ q.amount = t.amountValue := by
  cases asksFor_of_request? h with
  | transfer ht _ hamount => exact ⟨_, ht, hamount⟩

/-- Only an HTTP call asks for an answer over HTTP, and with the request that it has. -/
theorem Action.http_of_request? {a : Action} {context input : Fields} {q : Http.Request}
    (h : a.request? context input = some (.http q)) :
    ∃ call, a.task = .http call ∧ call.request context = .ok (.http q) := by
  cases asksFor_of_request? h with
  | http ht hq => exact ⟨_, ht, hq⟩

/-- What services are sent between two moments is one request at most, if any, the one that is
told. -/
def Services.SentAtMost (s after : Services) (request : Option Request) : Prop :=
  ∃ added, after.exchanges = s.exchanges ++ added ∧ ∀ q, .request q ∈ added → request = some q

namespace Services

variable {s after : Services} {request : Option Request}

/-- Services to which nothing new was sent were sent at most what one likes. -/
theorem SentAtMost.of_eq (h : after.exchanges = s.exchanges) : s.SentAtMost after request :=
  ⟨[], by rw [h, List.append_nil], by simp⟩

/-- Services that keep one exchange were sent that one. -/
theorem SentAtMost.of_keep {exchange : Exchange}
    (h : after.exchanges = s.exchanges ++ [exchange])
    (hq : ∀ q, exchange = .request q → request = some q) : s.SentAtMost after request :=
  ⟨[exchange], h, fun q hm => hq q (List.mem_singleton.mp hm).symm⟩

/-- Services that are sent a request are sent no other one. -/
theorem Sends.sentAtMost {request : Request} (h : s.Sends request after) :
    s.SentAtMost after (some request) := by
  cases h with
  | refused _ => exact .of_eq rfl
  | simulated _ _ _ => exact .of_eq rfl
  | chain _ _ => exact .of_keep rfl fun q hq => congrArg some (Exchange.request.inj hq)
  | http _ _ => exact .of_keep rfl fun q hq => congrArg some (Exchange.request.inj hq)
  | wire _ _ _ => exact .of_keep rfl fun q hq => by cases hq

/-- Services of any kind are sent no request but that of the action that is carried out. -/
theorem carryOut_sentAtMost (s : Services) (a : Action) (context input : Fields) :
    s.SentAtMost (s.carryOut a context input).2 (a.request? context input) := by
  rcases s.carryOut_exchanges a context input with ⟨-, hsent⟩ | ⟨request, hsome, hsent⟩
  · exact .of_eq hsent
  · have hsend := (s.send_sends request).sentAtMost
    unfold SentAtMost at hsend ⊢
    rw [hsent, hsome]
    exact hsend

end Services

/-- Whatever the services, a step sends no request but its own. -/
theorem Run.step_sentAtMost (run : Run) (input : Fields) (s : Services) :
    s.SentAtMost (run.step input s).services (run.request? input) := by
  by_cases h : ∃ a context, run.At a context
  · obtain ⟨a, context, hat⟩ := h
    have hcarried := (run.announced a s).carryOut_sentAtMost a (Keyed.merge context input) input
    unfold Services.SentAtMost at hcarried ⊢
    rw [hat.step_exchanges, hat.request?_eq]
    exact hcarried
  · have hnot : ∀ a context, ¬ run.At a context := fun a context hat => h ⟨a, context, hat⟩
    rw [step_services_of_not_at hnot]
    exact .of_eq rfl

/-- The flow of a document that validation accepts meets all requirements. -/
theorem Flow.meets_of_validate {document : Value} {f : Flow}
    (h : Flow.validate document = .ok f) : ∀ r, f.Meets r := by
  unfold validate at h
  split at h
  · cases h
  · next own _ =>
    have hsame : own = f := by
      unfold validated at h
      split at h
      · exact Except.ok.inj h
      · cases h
    subst hsame
    exact own.validated_eq_ok_iff.mp h

/-- The amount of a transfer of a flow that meets all requirements is there, and is above zero
unless it is no number. -/
theorem Flow.amount_of_meets {f : Flow} (hf : ∀ r, f.Meets r) {a : Action} (ha : a ∈ f.actions)
    {t : Transfer} (ht : a.task = .transfer t) :
    ∃ x, t.amount = some x ∧ (x.IsPositive ↔ x.isNaN = false) :=
  Action.amount_of_check (hf .actionsComplete a ha) ht

/-- A step of a run on course asks for a transfer only at a transfer, and for the amount of
that. -/
theorem Run.OnCourse.transfer_of_request? {f : Flow} (hf : ∀ r, f.Meets r) {run : Run}
    (h : run.OnCourse f) {input : Fields} {q : TransferRequest}
    (hq : run.request? input = some (.transfer q)) :
    ∃ a ∈ f.actions, ∃ t, run.current = .text a.id ∧ a.task = .transfer t ∧
      q.amount = t.amountValue := by
  have hu : run.isFinished = false := by
    by_contra hend
    simp [request?, hend] at hq
  obtain ⟨a, context, hat, ha, hcur, -⟩ := h.exists_at hf hu
  rw [hat.request?_eq] at hq
  obtain ⟨t, ht, hamount⟩ := Action.transfer_of_request? hq
  exact ⟨a, ha, t, hcur, ht, hamount⟩

/-- Of a document that validation accepts every transfer has an amount, and that amount is
above zero exactly if it is a number. Wherever a run of the flow has come to, whatever its
inputs and services, a transfer that a step asks for has the amount of the current action, and
a step sends no other transfer than the one that it asks for. -/
theorem Run.transfers_positive_unless_nan {document : Value} {f : Flow}
    (hf : Flow.validate document = .ok f) :
    (∀ a ∈ f.actions, ∀ t, a.task = .transfer t →
      ∃ x, t.amount = some x ∧ (x.IsPositive ↔ x.isNaN = false)) ∧
    ∀ (context : Fields) (id : Value) (calls : List Call),
      let run := (Run.start f context id).afterCalls calls
      ∀ (input : Fields) (s : Services),
        (∀ q, run.request? input = some (.transfer q) →
          ∃ a ∈ f.actions, ∃ t x, run.current = .text a.id ∧ a.task = .transfer t ∧
            t.amount = some x ∧ q.amount = .float x ∧ (x.IsPositive ↔ x.isNaN = false)) ∧
        s.SentAtMost (run.step input s).services (run.request? input) := by
  have hmeets := Flow.meets_of_validate hf
  refine ⟨fun a ha t ht => Flow.amount_of_meets hmeets ha ht, fun context id calls => ?_⟩
  intro run input s
  refine ⟨fun q hq => ?_, run.step_sentAtMost input s⟩
  have h := Run.afterCalls_onCourse hmeets context id calls
  obtain ⟨a, ha, t, hcur, ht, hamount⟩ := h.transfer_of_request? hmeets hq
  obtain ⟨x, hx, hpositive⟩ := Flow.amount_of_meets hmeets ha ht
  refine ⟨a, ha, t, x, hcur, ht, hx, ?_, hpositive⟩
  rw [hamount]
  unfold Transfer.amountValue
  rw [hx]

/-- The document of a flow that makes one transfer, with the amount as it is written. -/
def transferDocument (amount : Value) : Value :=
  .object [("label", .text "Tip"), ("initialActionId", .text "tip"), ("actions", .list [
    .object [("id", .text "tip"), ("type", .text "transfer"), ("label", .text "Tip"),
      ("to", .text "0x0000000000000000000000000000000000000000"), ("amount", amount),
      ("chains", .object [("source", .text "fuji")]),
      ("nextActions", .list [.object [("actionId", .text "done")]])],
    .object [("id", .text "done"), ("type", .text "completion"), ("label", .text "Done"),
      ("message", .text "Thanks")]])]

/-- The flow of that document. -/
def transferFlow (amount : Binary64) : Flow where
  label := "Tip"
  initial := "tip"
  actions :=
    [⟨"tip", "Tip", [⟨"done", []⟩],
        .transfer ⟨some "0x0000000000000000000000000000000000000000", some amount,
          ⟨"fuji", none⟩⟩⟩,
      ⟨"done", "Done", [], .completion ⟨"Thanks", "success"⟩⟩]

/-- The document of the least amount above zero is accepted, and a run sends that amount. -/
theorem Run.transfers_least_amount :
    let least : Binary64 := .finite false ⟨1, 0, by decide⟩
    let f := transferFlow least
    let run := (Run.start f [] (.text "r")).afterCalls []
    Flow.validate (transferDocument (.float least)) = .ok f ∧ least.IsPositive ∧
      (∀ a ∈ f.actions, ∀ t, a.task = .transfer t →
        ∃ x, t.amount = some x ∧ (x.IsPositive ↔ x.isNaN = false)) ∧
      ∃ q, run.request? [] = some (.transfer q) ∧ q.amount = .float least ∧
        (∃ a ∈ f.actions, ∃ t x, run.current = .text a.id ∧ a.task = .transfer t ∧
          t.amount = some x ∧ q.amount = .float x ∧ (x.IsPositive ↔ x.isNaN = false)) ∧
        Services.quiet.SentAtMost (run.step [] .quiet).services (run.request? []) := by
  intro least f run
  have hvalid : Flow.validate (transferDocument (.float least)) = .ok f := by
    have hparse : Flow.parse (transferDocument (.float least)) = .ok f := by rfl
    unfold Flow.validate
    rw [hparse]
    cbv
  have hasks : run.request? [] = some (.transfer
      ⟨.text "0x0000000000000000000000000000000000000000", .float least, ⟨"fuji", none⟩⟩) := by
    cbv
  obtain ⟨hamounts, hruns⟩ := Run.transfers_positive_unless_nan hvalid
  obtain ⟨hrequest, hsent⟩ := hruns [] (.text "r") [] [] .quiet
  exact ⟨hvalid, ⟨_, rfl, by decide⟩, hamounts, _, hasks, rfl, hrequest _ hasks, hsent⟩

/-- A document whose amount is a text that spells no number is accepted, and a run sends that
amount, which is not above zero. -/
theorem Run.transfers_amount_spelled_nan :
    let f := transferFlow (.nan .text)
    Flow.validate (transferDocument (.text "nan")) = .ok f ∧
      ((Run.start f [] (.text "r")).step [] .quiet).services.exchanges =
        [.request (.transfer ⟨.text "0x0000000000000000000000000000000000000000",
          .float (.nan .text), ⟨"fuji", none⟩⟩)] ∧
      ¬ (Binary64.nan .text).IsPositive := by
  intro f
  refine ⟨?_, by cbv, ?_⟩
  · have hparse : Flow.parse (transferDocument (.text "nan")) = .ok f := by rfl
    unfold Flow.validate
    rw [hparse]
    cbv
  · rintro ⟨place, hplace, -⟩
    cases hplace

end ActionFlow
