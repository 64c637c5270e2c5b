import ActionFlow.Proofs.Run.Progress
import Mathlib

/-!
# The edge that a run takes

After an action that asks a service has succeeded, the run looks at the edges of the action
in the order of the document, in the context that already has the input and remembers the
success, though not yet where it leads. It takes the first edge all of whose conditions hold
there, and halts when every edge has a condition that fails.
-/

namespace ActionFlow

/-- All conditions of an edge hold in a context. An edge without conditions is open. -/
def Edge.IsOpen (e : Edge) (context : Value) : Prop :=
  ∀ c ∈ e.conditions, c.evaluate context = .ok true

/-- A condition of an edge fails in a context. -/
def Edge.IsShut (e : Edge) (context : Value) : Prop :=
  ∃ c ∈ e.conditions, c.evaluate context = .ok false

section Edges

variable {context : Value}

/-- A shut edge is not open. -/
theorem Edge.IsShut.not_isOpen {e : Edge} (h : e.IsShut context) : ¬ e.IsOpen context := by
  intro hopen
  obtain ⟨c, hc, hfalse⟩ := h
  have htrue := hopen c hc
  rw [hfalse] at htrue
  cases htrue

/-- Conditions hold together when each of them holds. -/
theorem evaluateAll_eq_true_iff {conditions : List Condition} :
    evaluateAll context conditions = .ok true ↔
      ∀ c ∈ conditions, c.evaluate context = .ok true := by
  induction conditions with
  | nil => simp [evaluateAll]
  | cons c rest ih =>
    unfold evaluateAll
    rw [List.forall_mem_cons]
    split
    · next h => simp [h]
    · next h => simp [h]
    · next h => simp [h, ih]

/-- Conditions that do not hold together fail at one of them. -/
theorem exists_of_evaluateAll_eq_false {conditions : List Condition}
    (h : evaluateAll context conditions = .ok false) :
    ∃ c ∈ conditions, c.evaluate context = .ok false := by
  induction conditions with
  | nil => cases h
  | cons c rest ih =>
    unfold evaluateAll at h
    split at h
    · cases h
    · next hc => exact ⟨c, List.mem_cons_self, hc⟩
    · obtain ⟨later, hlater, hfalse⟩ := ih h
      exact ⟨later, List.mem_cons_of_mem _ hlater, hfalse⟩

/-- The first open edge is the one whose conditions hold after those of every edge before it
have failed. -/
theorem firstOpenEdge_eq_some_iff {edges : List Edge} {e : Edge} :
    firstOpenEdge context edges = .ok (some e) ↔
      ∃ before later, edges = before ++ e :: later ∧
        (∀ x ∈ before, evaluateAll context x.conditions = .ok false) ∧
        evaluateAll context e.conditions = .ok true := by
  induction edges with
  | nil => simp [firstOpenEdge]
  | cons first rest ih =>
    constructor
    · intro h
      unfold firstOpenEdge at h
      split at h
      · cases h
      · next htrue =>
        obtain rfl := Option.some.inj (Except.ok.inj h)
        exact ⟨[], rest, rfl, by simp, htrue⟩
      · next hfalse =>
        obtain ⟨before, later, rfl, hbefore, hopen⟩ := ih.mp h
        exact ⟨first :: before, later, rfl, List.forall_mem_cons.mpr ⟨hfalse, hbefore⟩, hopen⟩
    · rintro ⟨before, later, hsplit, hbefore, hopen⟩
      unfold firstOpenEdge
      cases before with
      | nil =>
        obtain ⟨rfl, -⟩ := List.cons.inj hsplit
        rw [hopen]
      | cons x before =>
        obtain ⟨rfl, hrest⟩ := List.cons.inj hsplit
        obtain ⟨hshut, hbefore⟩ := List.forall_mem_cons.mp hbefore
        rw [hshut]
        exact ih.mpr ⟨before, later, hrest, hbefore, hopen⟩

end Edges

namespace Run

/-- How a run goes on along edges that were looked at in a context, after a success: to the
target of the first open one, or to a halt when all of them are shut. -/
inductive TakesEdge (edges : List Edge) (context : Value) (r : StepResult) (after : Run) : Prop where
  /-- The run is at the target of an open edge, and every edge before that one is shut. -/
  | moves {before later : List Edge} {e : Edge} (split : edges = before ++ e :: later)
    (shut : ∀ x ∈ before, x.IsShut context) (opens : e.IsOpen context)
    (next : r.next = some e.target) (current : after.current = .text e.target)
    (phase : after.phase = .running)
  /-- The run has come to a halt, and every edge is shut. -/
  | halts (shut : ∀ x ∈ edges, x.IsShut context) (next : r.next = none)
    (current : after.current = .null) (phase : after.phase = .halted)

/-- A run that takes an edge leads nowhere exactly when no edge is open. -/
theorem TakesEdge.next_eq_none_iff {edges : List Edge} {context : Value} {r : StepResult}
    {after : Run} (h : after.TakesEdge edges context r) :
    r.next = none ↔ ∀ e ∈ edges, ¬ e.IsOpen context := by
  cases h with
  | @moves before later e split shut opens next current phase =>
    have he : e ∈ edges := split ▸ List.mem_append_right _ List.mem_cons_self
    exact ⟨fun hnone => by simp [next] at hnone, fun hclosed => absurd opens (hclosed e he)⟩
  | halts shut next current phase =>
    exact ⟨fun _ e he => (shut e he).not_isOpen, fun _ => next⟩

/-- However a run at an action of a valid flow that asks a service goes on from a success, it
takes an edge. -/
theorem Settles.takesEdge {f : Flow} (hf : ∀ r, f.Meets r) {run : Run} {a : Action}
    (ha : a ∈ f.actions) (hd : a.kind ≠ .decision) (hk : a.kind ≠ .completion) {context : Fields}
    {outcome : Except Failure StepResult} {settled : Settled}
    (h : run.Settles a context outcome settled) (ho : ∀ r, outcome = .ok r → a.Answers r)
    {r : StepResult} (hr : settled.answer = .ok r) (hs : r.status = .success) :
    settled.run.TakesEdge a.edges (.object (remember a.id { r with next := none } context)) r := by
  cases h with
  | fail failure =>
    obtain rfl := Except.ok.inj hr
    simp [(failure.result_refuses a.id).2.1] at hs
  | refuse he =>
    obtain rfl := Except.ok.inj hr
    simp [he] at hs
  | await hw =>
    obtain rfl := Except.ok.inj hr
    simp [hw] at hs
  | complete _ hc => exact absurd hc hk
  | escape _ _ _ => cases hr
  | @halt own _ _ _ hfol hnext =>
    obtain rfl := Except.ok.inj hr
    have hn : own.next = none := (ho own rfl).next_eq_none fun _ => hd
    have hsame : { own with next := none } = own := by rw [← hn]
    rw [hsame]
    have hshut := firstOpenEdge_eq_none_iff.mp (a.firstOpenEdge_of_halt hf ha hd hfol hnext)
    exact .halts (fun e he => exists_of_evaluateAll_eq_false (hshut e he)) hn rfl rfl
  | @moveTo own next _ _ hfol _ =>
    obtain rfl := Except.ok.inj hr
    have hn : own.next = none := (ho own rfl).next_eq_none fun _ => hd
    -- The success that the run remembers while it looks at the edges leads nowhere yet.
    have hsame : { own with next := none } = own := by rw [← hn]
    rw [Action.following_of_ne_decision hd] at hfol
    obtain ⟨found, hfound, hmap⟩ := map_eq_ok hfol
    obtain ⟨e, rfl, rfl⟩ := Option.map_eq_some_iff.mp hmap
    obtain ⟨before, later, hsplit, hbefore, hopen⟩ := firstOpenEdge_eq_some_iff.mp hfound
    show TakesEdge a.edges (.object (remember a.id { own with next := none } context)) _ _
    rw [hsame]
    exact .moves hsplit (fun x hx => exists_of_evaluateAll_eq_false (hbefore x hx))
      (evaluateAll_eq_true_iff.mp hopen) rfl rfl rfl

end Run

/-- After every sequence of calls, whatever their inputs and services, a step of a run of a
valid flow that succeeds at a contract call, a transfer or a request takes the first open edge
of that action, or halts if none is open. The edges are looked at in the context of the run
with the input merged in, which remembers the action and its success, the latter without
saying yet what comes next. -/
theorem Run.takes_first_open_edge {f : Flow} (hf : f.validated = .ok f) (context : Fields)
    (id : Value) (calls : List Call) :
    let run := (Run.start f context id).afterCalls calls
    ∀ a, run.currentAction = .ok (some a) →
      a.kind = .contractCall ∨ a.kind = .transfer ∨ a.kind = .http →
      ∀ input s r, (run.step input s).answer = .ok r → r.status = .success →
        ∃ own, run.context = .object own ∧
          let seen := Value.object
            (remember a.id { r with next := none } (Keyed.merge own input))
          (run.step input s).run.TakesEdge a.edges seen r ∧
            (r.next = none ↔ ∀ e ∈ a.edges, ¬ e.IsOpen seen) := by
  intro run a hcurrent hkind input s r hr hs
  have hmeets := f.validated_eq_ok_iff.mp hf
  have h := Run.afterCalls_onCourse hmeets context id calls
  obtain ⟨ha, own, hat⟩ := h.at_currentAction hmeets hcurrent
  have hd : a.kind ≠ .decision := by rcases hkind with h | h | h <;> simp [h]
  have hk : a.kind ≠ .completion := by rcases hkind with h | h | h <;> simp [h]
  obtain ⟨settled, hset, ho, hanswer, hrun⟩ := step_settles hat input s
  have htakes := hset.takesEdge hmeets ha hd hk ho (hanswer ▸ hr) hs
  rw [← hrun] at htakes
  exact ⟨own, hat.object, htakes, htakes.next_eq_none_iff⟩

/-- A flow that calls a contract and then has three edges: one asks where the call has led to,
one for a note of the user and the success of the call, and one for nothing. -/
def routingFlow : Flow where
  label := "Route"
  initial := "pay"
  actions :=
    [⟨"pay", "Pay", [⟨"again", [⟨"lastResult.nextNodeId", .equal, .text "again"⟩]⟩,
          ⟨"thanks", [⟨"note", .equal, .text "well done"⟩,
            ⟨"lastResult.status", .equal, .text "success"⟩]⟩,
          ⟨"done", []⟩],
        .contractCall ⟨"0x0000000000000000000000000000000000000000", [[]], "pay",
          ⟨"fuji", none⟩, none, []⟩⟩,
      ⟨"again", "Again", [], .completion ⟨"Again", "info"⟩⟩,
      ⟨"thanks", "Thanks", [], .completion ⟨"Thanks", "success"⟩⟩,
      ⟨"done", "Done", [], .completion ⟨"Paid", "success"⟩⟩]

/-- With a note in the input the call is followed by thanks. The edge before that one is shut,
as the success that is remembered while the edges are looked at leads nowhere yet. -/
theorem Run.takes_edge_of_note :
    let run := (Run.start routingFlow [] (.text "r")).afterCalls []
    let input : Fields := [("note", .text "well done")]
    routingFlow.validated = .ok routingFlow ∧
      ∃ a r, run.currentAction = .ok (some a) ∧ a.kind = .contractCall ∧
        (run.step input .quiet).answer = .ok r ∧ r.status = .success ∧ r.next = some "thanks" ∧
        ∃ own, run.context = .object own ∧
          let seen := Value.object
            (remember a.id { r with next := none } (Keyed.merge own input))
          (run.step input .quiet).run.TakesEdge a.edges seen r ∧
            (r.next = none ↔ ∀ e ∈ a.edges, ¬ e.IsOpen seen) := by
  intro run input
  have hvalid : routingFlow.validated = .ok routingFlow := by cbv
  have hanswer : (run.step input .quiet).answer = .ok { StepResult.succeeded "pay"
      [("txHandle", .text "0xfeed"), ("params", .list [])] with next := some "thanks" } := by cbv
  exact ⟨hvalid, _, _, rfl, rfl, hanswer, rfl, rfl,
    Run.takes_first_open_edge hvalid [] (.text "r") [] _ rfl (.inl rfl) input .quiet _ hanswer rfl⟩

end ActionFlow
