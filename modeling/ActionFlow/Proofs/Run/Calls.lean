import ActionFlow.Run.Step

/-!
# What a step can do

Here the step of a run is taken apart once. A step that has nothing to carry out leaves
the run as it is. Any other carries out the current action, whose answer is of one of four
sorts, and the run goes on from there in one of seven ways. Sequences of calls bring new
services with every call, so that nothing is assumed of what comes back.
-/

namespace ActionFlow

/-- What an action can answer once it is carried out. -/
inductive Action.Answers (a : Action) : StepResult → Prop where
  /-- A decision asks the user. -/
  | asks {d : Decision} {r : StepResult} (ht : a.task = .decision d) (hid : r.actionId = a.id)
    (hs : r.status = .waiting) (hn : r.next = none) : a.Answers r
  /-- A decision refuses a choice. -/
  | refuses {d : Decision} {r : StepResult} {choice : String} (ht : a.task = .decision d)
    (hid : r.actionId = a.id) (hs : r.status = .error) (hn : r.next = none)
    (he : r.error = some ("Invalid choice: " ++ choice)) : a.Answers r
  /-- A decision takes an option. -/
  | chooses {d : Decision} {o : Choice} {r : StepResult} (ht : a.task = .decision d)
    (ho : o ∈ d.options) (hid : r.actionId = a.id) (hs : r.status = .success)
    (hn : r.next = some o.target) : a.Answers r
  /-- Any other action is done, and leaves open what comes next. -/
  | done {r : StepResult} (hk : a.kind ≠ .decision) (hid : r.actionId = a.id)
    (hs : r.status = .success) (hn : r.next = none) : a.Answers r

/-- How a run goes on after an action was carried out, in a context that has the input. -/
inductive Run.Settles (run : Run) (a : Action) (context : Fields) :
    Except Failure StepResult → Settled → Prop where
  /-- A failure is recorded. -/
  | fail (failure : Failure) : run.Settles a context (.error failure) (run.fail a context failure)
  /-- A refusal is recorded. -/
  | refuse {r : StepResult} (hs : r.status = .error) :
    run.Settles a context (.ok r) (run.refuse a context r)
  /-- The run waits for the user. -/
  | await {r : StepResult} (hs : r.status = .waiting) :
    run.Settles a context (.ok r) (run.await a context r)
  /-- The run is completed. -/
  | complete {r : StepResult} (hs : r.status = .success) (hk : a.kind = .completion) :
    run.Settles a context (.ok r) (run.complete a context r)
  /-- A condition faults, and only the context has changed. -/
  | escape {r : StepResult} {fault : IndexFault} (hs : r.status = .success)
    (hk : a.kind ≠ .completion)
    (hf : a.following (.object (remember a.id r context)) r = .error fault) :
    run.Settles a context (.ok r) ⟨.error (.condition fault),
      { run with context := .object (remember a.id r context) }, []⟩
  /-- Nothing leads on, and the run halts. -/
  | halt {r : StepResult} {next : Option String} (hs : r.status = .success)
    (hk : a.kind ≠ .completion)
    (hf : a.following (.object (remember a.id r context)) r = .ok next)
    (hn : next = none ∨ next = some "") : run.Settles a context (.ok r) (run.halt a context r)
  /-- The run moves to another action. -/
  | moveTo {r : StepResult} {next : String} (hs : r.status = .success) (hk : a.kind ≠ .completion)
    (hf : a.following (.object (remember a.id r context)) r = .ok (some next)) (hn : next ≠ "") :
    run.Settles a context (.ok r) (run.moveTo a context r next)

/-- What a decision answers. -/
theorem Decision.answer_answers {a : Action} {d : Decision} (ht : a.task = .decision d)
    (input : Fields) : a.Answers (d.answer a.id input) := by
  unfold answer
  split
  · exact .asks ht rfl rfl rfl
  · split
    · exact .refuses ht rfl rfl rfl rfl
    · next o ho => exact .chooses ht (List.mem_of_find?_eq_some ho) rfl rfl rfl

/-- What is concluded from a reply is a success that leaves open what comes next. -/
theorem conclude_done {a : Action} (hk : a.kind ≠ .decision) {request : Request} {reply : Value}
    {s : Services} {r : StepResult} (h : (s.conclude a.id request reply).1 = .ok r) :
    a.Answers r := by
  cases request with
  | contractCall call =>
    obtain ⟨handle, -, rfl⟩ := map_eq_ok h
    exact .done hk rfl rfl rfl
  | transfer t =>
    obtain ⟨handle, -, rfl⟩ := map_eq_ok h
    exact .done hk rfl rfl rfl
  | http q =>
    obtain rfl := Except.ok.inj h
    exact .done hk rfl rfl rfl

/-- Only decisions and completions answer without a request. -/
theorem plan_answer {a : Action} {context input : Fields} {r : StepResult}
    (h : a.plan context input = .ok (.answer r)) :
    (∃ d, a.task = .decision d ∧ r = d.answer a.id input) ∨
      ∃ c, a.task = .completion c ∧ r = c.answer a.id := by
  unfold Action.plan at h
  split at h
  · obtain ⟨q, -, hq⟩ := map_eq_ok h
    cases hq
  · obtain ⟨q, -, hq⟩ := map_eq_ok h
    cases hq
  · obtain ⟨q, -, hq⟩ := map_eq_ok h
    cases hq
  · next d hd =>
    cases h
    exact .inl ⟨d, hd, rfl⟩
  · next c hc =>
    cases h
    exact .inr ⟨c, hc, rfl⟩

/-- Only actions that are no decisions send requests. -/
theorem plan_send {a : Action} {context input : Fields} {request : Request}
    (h : a.plan context input = .ok (.send request)) : a.kind ≠ .decision := by
  intro hk
  cases ht : a.task with
  | decision d =>
    simp only [Action.plan, ht] at h
    cases h
  | _ => simp [Action.kind, Task.kind, ht] at hk

/-- Whatever an action answers is one of its answers. -/
theorem carryOut_answers {a : Action} {context input : Fields} {s : Services} {r : StepResult}
    (h : (s.carryOut a context input).1 = .ok r) : a.Answers r := by
  unfold Services.carryOut at h
  split at h
  · cases h
  · next result hp =>
    obtain rfl := Except.ok.inj h
    rcases plan_answer hp with ⟨d, hd, rfl⟩ | ⟨c, hc, rfl⟩
    · exact Decision.answer_answers hd input
    · refine .done (fun hk => ?_) rfl rfl rfl
      simp [Action.kind, Task.kind, hc] at hk
  · next request hp =>
    split at h
    · cases h
    · exact conclude_done (plan_send hp) h

/-- An HTTP call plans to send its request. -/
theorem Action.plan_of_http {a : Action} {call : HttpCall} (ht : a.task = .http call)
    (context input : Fields) : a.plan context input = (call.request context).map .send := by
  unfold plan
  rw [ht]

/-- An HTTP call that has a request plans to send it. -/
theorem Action.plan_of_http_request {a : Action} {call : HttpCall} (ht : a.task = .http call)
    {context : Fields} {request : Request} (hq : call.request context = .ok request)
    (input : Fields) : a.plan context input = .ok (.send request) := by
  rw [plan_of_http ht, hq]
  rfl

/-- What comes of a request that is made for an action: it is sent once, and the result is
concluded from the reply. -/
def Services.ask (id : String) (request : Request) (s : Services) :
    Except Failure StepResult × Services :=
  match s.send request with
  | (.error failure, s) => (.error failure, s)
  | (.ok reply, s) => s.conclude id request reply

namespace Services

variable {a : Action} {context input : Fields}

/-- An action that fails before it has a plan asks for nothing. -/
theorem carryOut_of_plan_error {failure : Failure} (h : a.plan context input = .error failure)
    (s : Services) : s.carryOut a context input = (.error failure, s) := by
  unfold carryOut
  rw [h]

/-- An action that plans an answer gives it, and asks for nothing. -/
theorem carryOut_of_plan_answer {result : StepResult}
    (h : a.plan context input = .ok (.answer result)) (s : Services) :
    s.carryOut a context input = (.ok result, s) := by
  unfold carryOut
  rw [h]

/-- An action that plans to send a request asks for it. -/
theorem carryOut_of_plan_send {request : Request}
    (h : a.plan context input = .ok (.send request)) (s : Services) :
    s.carryOut a context input = s.ask a.id request := by
  unfold carryOut
  rw [h]
  rfl

/-- A request that ends in a failure comes to that failure. -/
theorem ask_of_error {s : Services} {request : Request} {failure : Failure}
    (h : (s.send request).1 = .error failure) (id : String) :
    (s.ask id request).1 = .error failure := by
  unfold ask
  split
  · next hsend =>
    rw [hsend] at h
    rw [Except.error.inj h]
  · next hsend =>
    rw [hsend] at h
    cases h

/-- What becomes of services that are sent a request. -/
inductive Sends (s : Services) : Request → Services → Prop where
  /-- A simulated chain does not take a call whose arguments it cannot count. -/
  | refused {call : ContractRequest} (hcount : call.arguments.count? = none) :
    s.Sends (.contractCall call) s
  /-- A simulated chain tells the log. -/
  | simulated (request : Request) (note : Note) (issued : Nat) :
    s.Sends request { s.write note with chain := .simulated issued }
  /-- A scripted chain keeps the request. -/
  | chain (request : Request) (replies : List Reply) :
    s.Sends request { s.keep (.request request) with chain := .scripted replies }
  /-- A scripted service over HTTP keeps the request. -/
  | http (request : Request) (replies : List Reply) :
    s.Sends request { s.keep (.request request) with http := .scripted replies }
  /-- A session sends it over the wire, under the bound id. -/
  | wire (q : Http.Request) (timeout : Value) (outcomes : List Http.Outcome) :
    s.Sends (.http q)
      { s.keep (.session (q.sent s.correlation.bound timeout)) with
        http := .session timeout outcomes }

/-- Whatever the services, a request is sent in one of the ways above. -/
theorem send_sends (request : Request) (s : Services) : s.Sends request (s.send request).2 := by
  cases request with
  | contractCall call =>
    unfold send sendContractCall
    cases s.chain with
    | scripted replies => exact .chain _ _
    | simulated issued =>
      dsimp only
      split
      · next hcount => exact .refused hcount
      · exact .simulated _ _ _
  | transfer t =>
    unfold send sendTransfer
    cases s.chain with
    | scripted replies => exact .chain _ _
    | simulated issued => exact .simulated _ _ _
  | http q =>
    unfold send sendHttp
    cases s.http with
    | scripted replies => exact .http _ _
    | session timeout outcomes => exact .wire q timeout _

/-- Nothing is sent once a reply is there. -/
theorem conclude_exchanges (id : String) (request : Request) (reply : Value) (s : Services) :
    (s.conclude id request reply).2.exchanges = s.exchanges := by
  cases request <;> rfl

/-- A request that is made is sent, and nothing else is. -/
theorem ask_exchanges (id : String) (request : Request) (s : Services) :
    (s.ask id request).2.exchanges = (s.send request).2.exchanges := by
  unfold ask
  split
  · next hsend => rw [hsend]
  · next hsend => rw [conclude_exchanges, hsend]

end Services

/-- An answer is about its action. -/
theorem Action.Answers.actionId_eq {a : Action} {r : StepResult} (h : a.Answers r) :
    r.actionId = a.id := by
  cases h <;> assumption

/-- Only a decision that takes an option says by itself what comes next. -/
theorem Action.Answers.next_eq_none {a : Action} {r : StepResult} (h : a.Answers r)
    (hs : r.status = .success → a.kind ≠ .decision) : r.next = none := by
  cases h with
  | asks _ _ _ hn => exact hn
  | refuses _ _ _ hn _ => exact hn
  | chooses ht _ _ hsuccess _ => exact absurd (by rw [kind, ht]; rfl) (hs hsuccess)
  | done _ _ _ hn => exact hn

/-- Only decisions wait for the user. -/
theorem Action.Answers.kind_of_waiting {a : Action} {r : StepResult} (h : a.Answers r)
    (hs : r.status = .waiting) : a.kind = .decision := by
  cases h with
  | asks ht _ _ _ => rw [kind, ht]; rfl
  | refuses _ _ he _ _ => simp [hs] at he
  | chooses _ _ _ he _ => simp [hs] at he
  | done _ _ he _ => simp [hs] at he

/-- No action answers that it was passed over. -/
theorem Action.Answers.status_ne_skipped {a : Action} {r : StepResult} (h : a.Answers r) :
    r.status ≠ .skipped := by
  cases h <;> simp [*]

/-- A success that completes no run leads on, halts or faults. -/
theorem Run.advance_settles (run : Run) {a : Action} {context : Fields} {r : StepResult}
    (hs : r.status = .success) (hk : a.kind ≠ .completion) :
    run.Settles a context (.ok r) (run.advance a context r) := by
  unfold advance
  dsimp only
  split
  · next fault hf => exact .escape hs hk hf
  · next hf => exact .halt hs hk hf (.inl rfl)
  · next next hf =>
    split
    · next hn => exact .halt hs hk hf (.inr (by rw [hn]))
    · next hn => exact .moveTo hs hk hf hn

/-- A run goes on from the outcome of an action in one of the ways above. -/
theorem Run.settle_settles (run : Run) (a : Action) (context : Fields)
    {outcome : Except Failure StepResult} (ho : ∀ r, outcome = .ok r → r.status ≠ .skipped) :
    run.Settles a context outcome (run.settle a context outcome) := by
  cases outcome with
  | error failure => exact .fail failure
  | ok r =>
    unfold settle
    dsimp only
    unfold settleResult
    split
    · next hs => exact .refuse hs
    · next hs => exact .await hs
    · next hs =>
      split
      · next hk => exact .complete hs hk
      · next hk => exact run.advance_settles hs hk
    · next hs => exact absurd hs (ho r rfl)

namespace Run

/-- The services of a step that carries out an action: the id of the run is bound, unless
another one was, and the action has been announced. -/
def announced (run : Run) (a : Action) (s : Services) : Services :=
  { s with correlation := s.correlation.enter run.id }.write ⟨Log.Level.info, "Dispatching action",
    run.noteFields a [("node_type", .text a.kind.word)]⟩

/-- What comes of the action that a step carries out. -/
def outcome (run : Run) (a : Action) (context input : Fields) (s : Services) :
    Except Failure StepResult :=
  ((run.announced a s).carryOut a (Keyed.merge context input) input).1

/-- What comes of an HTTP call that has a request is what comes of the request. -/
theorem outcome_of_http {run : Run} {a : Action} {call : HttpCall} (ht : a.task = .http call)
    {context input : Fields} {request : Request}
    (hq : call.request (Keyed.merge context input) = .ok request) (s : Services) :
    run.outcome a context input s = ((run.announced a s).ask a.id request).1 :=
  congrArg Prod.fst (Services.carryOut_of_plan_send (Action.plan_of_http_request ht hq input) _)

/-- A run at an action: it is not at its end, its position stands for the action, and its
context can take input. -/
structure At (run : Run) (a : Action) (context : Fields) : Prop where
  /-- The run is not at its end. -/
  unfinished : run.isFinished = false
  /-- The position names an action. -/
  positioned : run.current.isTruthy = true
  /-- The position stands for the action. -/
  action : run.currentAction = .ok (some a)
  /-- The context is an object. -/
  object : run.context = .object context

/-- The action that a position stands for is the one that its own id stands for. -/
theorem action?_of_currentAction {run : Run} {a : Action}
    (h : run.currentAction = .ok (some a)) : run.flow.action? a.id = some a := by
  unfold currentAction at h
  split at h
  · cases h
  · split at h
    · have ha := Except.ok.inj h
      rwa [findAction?_id ha]
    all_goals cases h

/-- A step at an action settles what comes of it. -/
theorem step_at {run : Run} {a : Action} {context : Fields} (h : run.At a context)
    (input : Fields) (s : Services) :
    (run.step input s).answer =
        (run.settle a (Keyed.merge context input) (run.outcome a context input s)).answer ∧
      (run.step input s).run =
        (run.settle a (Keyed.merge context input) (run.outcome a context input s)).run := by
  have hs : (run.isFinished || !run.current.isTruthy) = false := by
    rw [h.unfinished, h.positioned]
    rfl
  unfold step stepInScope
  rw [if_neg (by rw [hs]; exact Bool.false_ne_true), h.action]
  dsimp only
  rw [h.object]
  exact ⟨rfl, rfl⟩

/-- A step at an action that comes to a failure answers with the result of the failure. -/
theorem At.answer_of_outcome_error {run : Run} {a : Action} {context : Fields}
    (h : run.At a context) {input : Fields} {s : Services} {failure : Failure}
    (ho : run.outcome a context input s = .error failure) :
    (run.step input s).answer = .ok (failure.result a.id) := by
  rw [(step_at h input s).1, ho]
  rfl

/-- A success leads on to the action that follows. -/
theorem settle_of_success (run : Run) {a : Action} {context : Fields} {result : StepResult}
    (hs : result.status = .success) (hk : a.kind ≠ .completion) {next : String}
    (hf : a.following (.object (remember a.id result context)) result = .ok (some next))
    (hn : next ≠ "") : run.settle a context (.ok result) = run.moveTo a context result next := by
  simp only [settle, settleResult, hs, if_neg hk, advance, hf, if_neg hn]

/-- A step at an action goes on from one of its answers or from a failure. -/
theorem step_settles {run : Run} {a : Action} {context : Fields} (h : run.At a context)
    (input : Fields) (s : Services) :
    ∃ settled, run.Settles a (Keyed.merge context input) (run.outcome a context input s) settled ∧
      (∀ r, run.outcome a context input s = .ok r → a.Answers r) ∧
      (run.step input s).answer = settled.answer ∧ (run.step input s).run = settled.run := by
  have ho : ∀ r, run.outcome a context input s = .ok r → a.Answers r :=
    fun r hr => carryOut_answers hr
  exact ⟨_, run.settle_settles a _ fun r hr => (ho r hr).status_ne_skipped, ho,
    (step_at h input s).1, (step_at h input s).2⟩

/-- A run at its end, or without a position, has nothing to do, and stays as it is. -/
theorem step_idle {run : Run} (h : run.isFinished = true ∨ run.current.isTruthy = false)
    (input : Fields) (s : Services) :
    (run.step input s).answer = .ok nothingToDo ∧ (run.step input s).run = run := by
  have hs : (run.isFinished || !run.current.isTruthy) = true := by
    rcases h with h | h <;> simp [h]
  unfold step stepInScope
  rw [if_pos hs]
  exact ⟨rfl, rfl⟩

/-- A run that is neither idle nor at an action stays as it is, too. -/
theorem step_cases (run : Run) (input : Fields) (s : Services) :
    (∃ a context, run.At a context) ∨ (run.step input s).run = run := by
  unfold step stepInScope
  split
  · exact .inr rfl
  · next hs =>
    rw [Bool.or_eq_true, not_or, Bool.not_eq_true, Bool.not_eq_true, Bool.not_eq_false'] at hs
    split
    · exact .inr rfl
    · exact .inr rfl
    · next a ha =>
      split
      · next context hc => exact .inl ⟨a, context, hs.1, hs.2, ha, hc⟩
      · exact .inr rfl

/-- What holds of a run and of every way in which it goes on holds after a step. -/
theorem step_of_settles {P : Run → Prop} {run : Run} (h : P run)
    (hset : ∀ a context outcome settled, run.Settles a context outcome settled → P settled.run)
    (input : Fields) (s : Services) : P (run.step input s).run := by
  rcases run.step_cases input s with ⟨a, context, hat⟩ | hsame
  · obtain ⟨settled, hsettles, -, -, hrun⟩ := step_settles hat input s
    rw [hrun]
    exact hset _ _ _ _ hsettles
  · rw [hsame]
    exact h

end Run

/-- Services that reply in the usual way, and have seen nothing yet. -/
def Services.quiet : Services := ⟨.scripted [], .scripted [], 0, "", .unbound, [], []⟩

/-- A call of a step: its input, and the services that it meets. -/
structure Call where
  /-- The input. -/
  input : Fields
  /-- The services, whatever they give back. -/
  services : Services

/-- The run after a sequence of calls. -/
def Run.afterCalls (run : Run) : List Call → Run
  | [] => run
  | call :: rest => (run.step call.input call.services).run.afterCalls rest

/-- What every step keeps, a sequence of calls keeps. -/
theorem Run.afterCalls_induction {P : Run → Prop}
    (hstep : ∀ run input s, P run → P (run.step input s).run) {run : Run} (h : P run)
    (calls : List Call) : P (run.afterCalls calls) := by
  induction calls generalizing run with
  | nil => exact h
  | cons call rest ih => exact ih (hstep run call.input call.services h)

end ActionFlow
