import ActionFlow.Proofs.Run.Calls
import ActionFlow.Proofs.Validation.Requirements
import Mathlib.Data.List.Chain

/-!
# The history of a run

The history of a run of a valid flow is a walk through its graph. Each entry is about the
action at which the entry before it left the run, and the last entry alone tells where the
run stands now: its phase and its position are a function of the history.
-/

namespace ActionFlow

/-- What an entry of a history may say of its action: a success leads to one of the
successors of the action, or nowhere if the action is no decision; a failure leads nowhere;
and only a decision waits for the user. -/
def Flow.Admits (f : Flow) (e : StepResult) : Prop :=
  ∃ a ∈ f.actions, a.id = e.actionId ∧
    match e.status, e.next with
    | .success, some next => next ∈ a.successors
    | .success, none => a.kind ≠ .decision
    | .error, next => next = none
    | .waiting, next => next = none ∧ a.kind = .decision
    | .skipped, _ => False

/-- An entry leads to another: after a success the next entry is about the action that the
success names, after a failure or a question about the same action. -/
def StepResult.LeadsTo (e later : StepResult) : Prop :=
  match e.status with
  | .success => e.next = some later.actionId
  | .error => later.actionId = e.actionId
  | .waiting => later.actionId = e.actionId
  | .skipped => False

/-- A history walks through the graph of a flow. -/
structure Flow.IsWalk (f : Flow) (history : List StepResult) : Prop where
  /-- The first entry is about the initial action. -/
  starts : ∀ e ∈ history.head?, e.actionId = f.initial
  /-- Every entry is one that its action can leave. -/
  admitted : ∀ e ∈ history, f.Admits e
  /-- Each entry leads to the next. -/
  linked : history.IsChain StepResult.LeadsTo

/-- The phase and the position in which an entry leaves a run. -/
def Flow.standingAfter (f : Flow) (e : StepResult) : Phase × Value :=
  match e.status, e.next with
  | .waiting, _ => (.waitingForInput, .text e.actionId)
  | .success, some next => (.running, .text next)
  | .success, none =>
    (if (f.action? e.actionId).map Action.kind = some .completion then .completed else .halted,
      .null)
  | _, _ => (.running, .text e.actionId)

/-- The phase and the position that a history tells. -/
def Flow.standing (f : Flow) (history : List StepResult) : Phase × Value :=
  match history.getLast? with
  | none => (.running, .text f.initial)
  | some e => f.standingAfter e

/-- A run of a flow that is where its history says, on a walk, at a connected action or at
its end. -/
structure Run.OnCourse (f : Flow) (run : Run) : Prop where
  /-- It is a run of the flow. -/
  flow_eq : run.flow = f
  /-- Its context is an object. -/
  object : ∃ context, run.context = .object context
  /-- Its history is a walk. -/
  walk : f.IsWalk run.history
  /-- Its history tells where it stands. -/
  standing : (run.phase, run.current) = f.standing run.history
  /-- It has come to its end and is nowhere, or it is at a connected action. -/
  position : run.isFinished = true ∧ run.current = .null ∨
    run.isFinished = false ∧ ∃ id, run.current = .text id ∧ f.Connected id

/-- A further entry decides where the run stands. -/
theorem Flow.standing_concat (f : Flow) (history : List StepResult) (e : StepResult) :
    f.standing (history ++ [e]) = f.standingAfter e := by
  simp only [standing, List.getLast?_append, List.getLast?_singleton, Option.some_or]

/-- A walk goes on with an entry about the action at which it stands. -/
theorem Flow.IsWalk.concat {f : Flow} {history : List StepResult} (h : f.IsWalk history)
    {e : StepResult} (hs : .text e.actionId = (f.standing history).2)
    (he : f.Admits e) : f.IsWalk (history ++ [e]) := by
  have hlead : ∀ last ∈ history.getLast?, last.LeadsTo e := by
    intro last hl
    obtain ⟨a, -, -, hcase⟩ := h.admitted last (List.mem_of_getLast? hl)
    rw [standing, hl] at hs
    dsimp only [standingAfter] at hs
    unfold StepResult.LeadsTo
    cases hst : last.status with
    | success =>
      cases hn : last.next with
      | some next => simpa [hst, hn] using hs.symm
      | none => simp [hst, hn] at hs
    | error => simpa [hst] using hs
    | waiting => simpa [hst] using hs
    | skipped => simp [hst] at hcase
  refine ⟨?_, ?_, ?_⟩
  · cases history with
    | nil => simpa [standing] using hs
    | cons first rest => exact h.starts
  · intro x hx
    rcases List.mem_append.mp hx with hx | hx
    · exact h.admitted x hx
    · obtain rfl := List.mem_singleton.mp hx
      exact he
  · refine h.linked.append (List.isChain_singleton e) fun last hl x hx => ?_
    obtain rfl : e = x := by simpa using hx
    exact hlead last hl

/-- What an action links to is one of the ids that it names. -/
theorem Action.LinksTo.names {a : Action} {target : String} (h : a.LinksTo target) :
    a.Names target := by
  cases h with
  | option hd ho => exact .inr ⟨_, hd, _, ho, rfl⟩
  | edge _ he => exact .inl ⟨_, he, rfl⟩

/-- The first open edge is one of the edges. -/
theorem firstOpenEdge_mem {context : Value} {edges : List Edge} {e : Edge}
    (h : firstOpenEdge context edges = .ok (some e)) : e ∈ edges := by
  induction edges with
  | nil => cases h
  | cons first rest ih =>
    unfold firstOpenEdge at h
    split at h
    · cases h
    · obtain rfl := Option.some.inj (Except.ok.inj h)
      exact List.mem_cons_self
    · exact List.mem_cons_of_mem _ (ih h)

/-- An action that is no decision is followed by the target of its first open edge. -/
theorem Action.following_of_ne_decision {a : Action} (hk : a.kind ≠ .decision) (context : Value)
    (r : StepResult) :
    a.following context r = (firstOpenEdge context a.edges).map fun e => e.map (·.target) := by
  unfold following
  split
  · next d hd => exact absurd (by rw [kind, hd]; rfl) hk
  · rfl

/-- What follows an action is something that it links to. -/
theorem Action.Answers.following_links {a : Action} {r : StepResult} (h : a.Answers r)
    (hs : r.status = .success) {context : Value} {next : String}
    (hf : a.following context r = .ok (some next)) : a.LinksTo next := by
  cases h with
  | asks _ _ hw _ => simp [hs] at hw
  | refuses _ _ he _ _ => simp [hs] at he
  | chooses ht ho _ _ hn =>
    simp only [following, ht, hn, Except.ok.injEq, Option.some.injEq] at hf
    exact hf ▸ .option ht ho
  | done hk _ _ _ =>
    rw [following_of_ne_decision hk] at hf
    obtain ⟨found, hfound, hmap⟩ := map_eq_ok hf
    obtain ⟨e, rfl, rfl⟩ := Option.map_eq_some_iff.mp hmap
    exact .edge hk (firstOpenEdge_mem hfound)

/-- The result of a failure says that the action failed, and leads nowhere. -/
theorem Failure.result_refuses (id : String) (failure : Failure) :
    (failure.result id).actionId = id ∧ (failure.result id).status = .error ∧
      (failure.result id).next = none := by
  unfold result
  split <;> exact ⟨rfl, rfl, rfl⟩

/-- In a valid flow a link leads from a connected action to a connected one. -/
theorem Flow.Connected.of_linksTo {f : Flow} (hf : ∀ r, f.Meets r) {a : Action}
    (ha : a ∈ f.actions) (hid : f.Connected a.id) {target : String} (hl : a.LinksTo target) :
    f.Connected target := by
  obtain ⟨b, hb⟩ := exists_standsFor_iff.mpr (hf .linksLead a ha target hl.names)
  exact .link hid (standsFor_of_nodup (hf .ownIds).2 ha) hl hb

/-- In a valid flow no link leads to the empty id. -/
theorem Action.LinksTo.ne_empty {f : Flow} (hf : ∀ r, f.Meets r) {a : Action}
    (ha : a ∈ f.actions) {target : String} (hl : a.LinksTo target) : target ≠ "" := by
  obtain ⟨b, hb, rfl⟩ := hf .linksLead a ha target hl.names
  exact (hf .ownIds).1 b hb

/-- In a valid flow a decision that takes an option is followed by an action. -/
theorem Action.Answers.ne_decision_of_halt {f : Flow} (hf : ∀ r, f.Meets r) {a : Action}
    (ha : a ∈ f.actions) {r : StepResult} (h : a.Answers r) (hs : r.status = .success)
    {context : Value} {next : Option String} (hfol : a.following context r = .ok next)
    (hnext : next = none ∨ next = some "") : a.kind ≠ .decision := by
  cases h with
  | asks _ _ hw _ => simp [hs] at hw
  | refuses _ _ he _ _ => simp [hs] at he
  | chooses ht ho _ _ hn =>
    simp only [following, ht, hn, Except.ok.injEq] at hfol
    have hne := (LinksTo.option ht ho).ne_empty hf ha
    rcases hnext with rfl | rfl
    · cases hfol
    · exact absurd (Option.some.inj hfol) hne
  | done hk _ _ _ => exact hk

namespace Run.OnCourse

variable {f : Flow} {run : Run}

/-- A run that is not at its end is at an action of the flow. -/
theorem exists_at (hf : ∀ r, f.Meets r) (h : run.OnCourse f) (hu : run.isFinished = false) :
    ∃ a context, run.At a context ∧ a ∈ f.actions ∧ run.current = .text a.id ∧
      f.Connected a.id := by
  obtain ⟨id, hcur, hid⟩ := (h.position.resolve_left (by simp [hu])).2
  obtain ⟨a, ha⟩ := hid.standsFor
  obtain ⟨context, hc⟩ := h.object
  have hne : a.id ≠ "" := (hf .ownIds).1 a ha.mem
  have haid := ha.1
  subst haid
  have htruthy : run.current.isTruthy = true := by simp [hcur, Value.isTruthy, hne]
  refine ⟨a, context, ⟨hu, htruthy, ?_, hc⟩, ha.mem, hcur, hid⟩
  unfold currentAction
  rw [if_neg (by simp [htruthy]), hcur]
  simp only [h.flow_eq, Flow.action?, findAction?_eq_some_iff.mpr ha]

/-- A run on course that stands for an action is at that action. -/
theorem at_currentAction (hf : ∀ r, f.Meets r) (h : run.OnCourse f) {a : Action}
    (ha : run.currentAction = .ok (some a)) :
    a ∈ f.actions ∧ ∃ context, run.At a context := by
  have hu : run.isFinished = false := by
    rcases h.position with ⟨-, hnull⟩ | ⟨hu, -⟩
    · simp [currentAction, hnull, Value.isTruthy] at ha
    · exact hu
  obtain ⟨b, context, hat, hb, -, -⟩ := h.exists_at hf hu
  obtain rfl : b = a := Option.some.inj (Except.ok.inj (hat.action.symm.trans ha))
  exact ⟨hb, context, hat⟩

/-- A run that stands where an entry about a connected action says has come to its end and
is nowhere, or is at a connected action. -/
theorem position_after (hf : ∀ r, f.Meets r) {e : StepResult} (hid : f.Connected e.actionId)
    (hentry : f.Admits e) (hstanding : (run.phase, run.current) = f.standingAfter e) :
    run.isFinished = true ∧ run.current = .null ∨
      run.isFinished = false ∧ ∃ id, run.current = .text id ∧ f.Connected id := by
  obtain ⟨a, ha, haid, hcase⟩ := hentry
  unfold Flow.standingAfter at hstanding
  unfold isFinished
  cases hs : e.status with
  | success =>
    cases hn : e.next with
    | some next =>
      simp only [hs, hn, Prod.mk.injEq] at hstanding hcase
      rw [hstanding.1, hstanding.2]
      have hl := (a.mem_successors_iff next).mp hcase
      exact .inr ⟨rfl, next, rfl, .of_linksTo hf ha (haid ▸ hid) hl⟩
    | none =>
      simp only [hs, hn, Prod.mk.injEq] at hstanding
      rw [hstanding.1, hstanding.2]
      refine .inl ⟨?_, rfl⟩
      split <;> rfl
  | error =>
    simp only [hs, Prod.mk.injEq] at hstanding
    rw [hstanding.1, hstanding.2]
    exact .inr ⟨rfl, e.actionId, rfl, hid⟩
  | waiting =>
    simp only [hs, Prod.mk.injEq] at hstanding
    rw [hstanding.1, hstanding.2]
    exact .inr ⟨rfl, e.actionId, rfl, hid⟩
  | skipped => simp [hs] at hcase

/-- A run that records an entry about its action, and then stands where the entry says,
stays on course. -/
theorem record (hf : ∀ r, f.Meets r) (h : run.OnCourse f) {a : Action}
    (hcur : run.current = .text a.id) (hid : f.Connected a.id) {e : StepResult}
    (he : e.actionId = a.id) (hentry : f.Admits e) {after : Run} (hflow : after.flow = run.flow)
    (hobject : ∃ context, after.context = .object context)
    (hhistory : after.history = run.history ++ [e])
    (hstanding : (after.phase, after.current) = f.standingAfter e) : after.OnCourse f := by
  have hs : .text e.actionId = (f.standing run.history).2 := by
    rw [he, ← hcur, ← h.standing]
  refine ⟨hflow.trans h.flow_eq, hobject, ?_, ?_, position_after hf (he ▸ hid) hentry hstanding⟩
  · rw [hhistory]
    exact h.walk.concat hs hentry
  · rw [hhistory, f.standing_concat, hstanding]

/-- However a run at a connected action settles an answer of that action, or a failure, it
stays on course. -/
theorem settles (hf : ∀ r, f.Meets r) (h : run.OnCourse f) {a : Action} (ha : a ∈ f.actions)
    (hcur : run.current = .text a.id) (hid : f.Connected a.id) {context : Fields}
    {outcome : Except Failure StepResult} (ho : ∀ r, outcome = .ok r → a.Answers r)
    {settled : Settled} (hset : run.Settles a context outcome settled) :
    settled.run.OnCourse f := by
  have haction : f.action? a.id = some a :=
    findAction?_eq_some_iff.mpr (standsFor_of_nodup (hf .ownIds).2 ha)
  -- Only an escape records nothing. Every other way records one entry, and what is left to
  -- show is that the action admits the entry and that the run stands where it says.
  cases hset with
  | fail failure =>
    obtain ⟨he, hs, hn⟩ := failure.result_refuses a.id
    refine h.record hf hcur hid he ⟨a, ha, he.symm, ?_⟩ rfl ⟨_, rfl⟩ rfl ?_
    · simp only [hs, hn]
    · simp only [Flow.standingAfter, hs, he]
      exact congrArg _ hcur
  | @refuse r hs =>
    have hr := ho r rfl
    have hn := hr.next_eq_none (by simp [hs])
    refine h.record hf hcur hid hr.actionId_eq ⟨a, ha, hr.actionId_eq.symm, ?_⟩ rfl ⟨_, rfl⟩ rfl ?_
    · simp only [hs, hn]
    · simp only [Flow.standingAfter, hs, hr.actionId_eq]
      exact congrArg _ hcur
  | @await r hs =>
    have hr := ho r rfl
    have hn := hr.next_eq_none (by simp [hs])
    refine h.record hf hcur hid hr.actionId_eq ⟨a, ha, hr.actionId_eq.symm, ?_⟩ rfl ⟨_, rfl⟩ rfl ?_
    · simpa only [hs, hn, true_and] using hr.kind_of_waiting hs
    · simp only [Flow.standingAfter, hs, hr.actionId_eq]
      exact congrArg _ hcur
  | @complete r hs hk =>
    have hr := ho r rfl
    have hne : a.kind ≠ .decision := by simp [hk]
    have hn := hr.next_eq_none fun _ => hne
    refine h.record hf hcur hid hr.actionId_eq ⟨a, ha, hr.actionId_eq.symm, ?_⟩ rfl ⟨_, rfl⟩ rfl ?_
    · simpa only [hs, hn] using hne
    · simp only [Flow.standingAfter, hs, hn, hr.actionId_eq, haction, Option.map_some, hk, if_true]
      rfl
  | escape _ _ _ => exact ⟨h.flow_eq, ⟨_, rfl⟩, h.walk, h.standing, h.position⟩
  | @halt r next hs hk hfol hnext =>
    have hr := ho r rfl
    have hne := hr.ne_decision_of_halt hf ha hs hfol hnext
    have hn := hr.next_eq_none fun _ => hne
    refine h.record hf hcur hid hr.actionId_eq ⟨a, ha, hr.actionId_eq.symm, ?_⟩ rfl ⟨_, rfl⟩ rfl ?_
    · simpa only [hs, hn] using hne
    · simp only [Flow.standingAfter, hs, hn, hr.actionId_eq, haction, Option.map_some,
        Option.some.injEq, hk, if_false]
      rfl
  | @moveTo r next hs hk hfol hnext =>
    have hr := ho r rfl
    refine h.record (e := { r with next := some next }) hf hcur hid hr.actionId_eq
      ⟨a, ha, hr.actionId_eq.symm, ?_⟩ rfl ⟨_, rfl⟩ rfl ?_
    · simpa only [hs] using (a.mem_successors_iff next).mpr (hr.following_links hs hfol)
    · simp only [Flow.standingAfter, hs]
      rfl

/-- A step keeps a run on course. -/
theorem step (hf : ∀ r, f.Meets r) (h : run.OnCourse f) (input : Fields) (s : Services) :
    (run.step input s).run.OnCourse f := by
  cases hu : run.isFinished with
  | true =>
    rw [(step_idle (.inl hu) input s).2]
    exact h
  | false =>
    obtain ⟨a, context, hat, ha, hcur, hid⟩ := h.exists_at hf hu
    obtain ⟨settled, hset, ho, -, hrun⟩ := step_settles hat input s
    rw [hrun]
    exact h.settles hf ha hcur hid ho hset

end Run.OnCourse

/-- A run that begins is on course. -/
theorem Run.start_onCourse {f : Flow} (hf : ∀ r, f.Meets r) (context : Fields) (id : Value) :
    (Run.start f context id).OnCourse f := by
  obtain ⟨a, ha⟩ := exists_standsFor_iff.mpr (hf .initialPresent)
  refine ⟨rfl, ⟨context, rfl⟩, ⟨by simp [start], by simp [start], .nil⟩, rfl, ?_⟩
  exact .inr ⟨rfl, f.initial, rfl, .initial ha⟩

/-- A run of a valid flow is on course after every sequence of calls. -/
theorem Run.afterCalls_onCourse {f : Flow} (hf : ∀ r, f.Meets r) (context : Fields) (id : Value)
    (calls : List Call) : ((Run.start f context id).afterCalls calls).OnCourse f :=
  afterCalls_induction (fun _ input s h => h.step hf input s) (start_onCourse hf context id) calls

/-- However a run goes on, it adds at most one entry to the history, at its end. -/
theorem Run.Settles.history {run : Run} {a : Action} {context : Fields}
    {outcome : Except Failure StepResult} {settled : Settled}
    (h : run.Settles a context outcome settled) :
    ∃ added, settled.run.history = run.history ++ added ∧ added.length ≤ 1 := by
  cases h with
  | escape _ _ _ => exact ⟨[], (List.append_nil _).symm, Nat.zero_le 1⟩
  | _ => exact ⟨[_], rfl, Nat.le_refl 1⟩

/-- A step adds at most one entry to the history, at its end. -/
theorem Run.step_history (run : Run) (input : Fields) (s : Services) :
    ∃ added, (run.step input s).run.history = run.history ++ added ∧ added.length ≤ 1 := by
  exact step_of_settles
    (P := fun after => ∃ added, after.history = run.history ++ added ∧ added.length ≤ 1)
    ⟨[], (List.append_nil _).symm, Nat.zero_le 1⟩ (fun _ _ _ _ hset => hset.history) input s

/-- Calls keep what the history holds. -/
theorem Run.history_prefix (run : Run) (calls : List Call) :
    run.history <+: (run.afterCalls calls).history := by
  refine afterCalls_induction (P := fun after => run.history <+: after.history) ?_
    (List.prefix_refl _) calls
  intro after input s h
  obtain ⟨added, hadded, -⟩ := after.step_history input s
  rw [hadded]
  exact h.trans (List.prefix_append _ _)

/-- After every sequence of calls, whatever their inputs and services, the history of a run
of a valid flow is a walk through the graph of the flow, and the phase and the position of
the run are those that the history tells. Further calls only add to the history. -/
theorem Run.history_tells_run {f : Flow} (hf : f.validated = .ok f) (context : Fields)
    (id : Value) (calls : List Call) :
    let run := (Run.start f context id).afterCalls calls
    f.IsWalk run.history ∧ (run.phase, run.current) = f.standing run.history ∧
      ∀ more, run.history <+: (run.afterCalls more).history := by
  have h := Run.afterCalls_onCourse (f.validated_eq_ok_iff.mp hf) context id calls
  exact ⟨h.walk, h.standing, fun more => Run.history_prefix _ more⟩

/-- A user who tips after being asked leaves a walk through all actions, and the run at its
end. -/
theorem Run.history_tells_tip :
    let calls : List Call :=
      [⟨[], .quiet⟩, ⟨[("userChoice", .text "yes")], .quiet⟩, ⟨[], .quiet⟩, ⟨[], .quiet⟩]
    let run := (Run.start sampleFlow [] (.text "r")).afterCalls calls
    sampleFlow.validated = .ok sampleFlow ∧
      run.history.map (·.actionId) = ["ask", "ask", "pay", "done"] ∧ run.phase = .completed ∧
      sampleFlow.IsWalk run.history ∧
      (run.phase, run.current) = sampleFlow.standing run.history ∧
      ∀ more, run.history <+: (run.afterCalls more).history :=
  ⟨sampleFlow_validated, rfl, rfl, Run.history_tells_run sampleFlow_validated [] (.text "r") _⟩

end ActionFlow
