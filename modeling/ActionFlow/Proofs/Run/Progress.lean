import ActionFlow.Proofs.Run.History
import Mathlib.Data.List.Nodup

/-!
# Progress of a run

A run of a valid flow never gets lost. As long as it is not at its end, it is at a reachable
action, the only one of its id, and the next step carries that action out. It comes to its
end at a completion, or halts at an action of another kind none of whose edges is open, and
from then on nothing changes any more.
-/

namespace ActionFlow

/-- Where a run of a flow is: nowhere once it has come to its end, and before that at a
reachable action, the only one of its id. -/
def Run.Placed (run : Run) (f : Flow) : Prop :=
  run.isFinished = true ∧ run.current = .null ∨
    run.isFinished = false ∧ ∃ a, run.current = .text a.id ∧ a.id ∈ f.reachable ∧
      f.actions.filter (·.id == a.id) = [a]

/-- A step that carries out the action at which the run is. -/
structure Run.CarriesOut (run : Run) (a : Action) (input : Fields) (s : Services) : Prop where
  /-- The run goes on from what comes of the action. -/
  settled : ∃ context, run.context = .object context ∧
    ∃ settled, run.Settles a (Keyed.merge context input) (run.outcome a context input s) settled ∧
      (run.step input s).answer = settled.answer ∧ (run.step input s).run = settled.run
  /-- That an action is not there is said only if the action, carried out, fails in these
  words. -/
  reported : ∀ id, (run.step input s).answer = .ok (actionNotFound id) →
    ∃ context, run.context = .object context ∧
      ∃ failure, run.outcome a context input s = .error failure ∧
        failure.message = "Action '" ++ id ++ "' not found"
  /-- Only a completion completes the run. -/
  completes : (run.step input s).run.phase = .completed → a.kind = .completion
  /-- Only an action that asks for a request halts the run, when none of its edges is open. -/
  halts : (run.step input s).run.phase = .halted →
    (a.kind = .contractCall ∨ a.kind = .transfer ∨ a.kind = .http) ∧
      ∀ e ∈ a.edges, evaluateAll (run.step input s).run.context e.conditions = .ok false

/-- In a valid flow an action is the only one of its id. -/
theorem Flow.filter_id_eq {f : Flow} (hf : ∀ r, f.Meets r) {a : Action} (ha : a ∈ f.actions) :
    f.actions.filter (·.id == a.id) = [a] := by
  have hcount : (f.actions.filter (·.id == a.id)).length = 1 := by
    rw [← List.countP_eq_length_filter]
    have hmem : a.id ∈ f.actions.map (·.id) := List.mem_map_of_mem ha
    have h := List.count_eq_one_of_mem (hf .ownIds).2 hmem
    rwa [List.count, List.countP_map] at h
  obtain ⟨b, hb⟩ := List.length_eq_one_iff.mp hcount
  have hmem : a ∈ f.actions.filter (·.id == a.id) := List.mem_filter.mpr ⟨ha, by simp⟩
  rw [hb, List.mem_singleton] at hmem
  rw [hb, hmem]

/-- A run on course in a valid flow is nowhere or at a reachable action. -/
theorem Run.OnCourse.placed {f : Flow} {run : Run} (hf : ∀ r, f.Meets r) (h : run.OnCourse f) :
    run.Placed f := by
  rcases h.position with hend | ⟨hu, id, hcur, hid⟩
  · exact .inl hend
  · obtain ⟨a, ha⟩ := hid.standsFor
    have haid := ha.1
    subst haid
    exact .inr ⟨hu, a, hcur, (f.mem_reachable_iff _).mpr hid, f.filter_id_eq hf ha.mem⟩

/-- No edge is open when the conditions of every edge fail. -/
theorem firstOpenEdge_eq_none_iff {context : Value} {edges : List Edge} :
    firstOpenEdge context edges = .ok none ↔
      ∀ e ∈ edges, evaluateAll context e.conditions = .ok false := by
  induction edges with
  | nil => simp [firstOpenEdge]
  | cons first rest ih =>
    unfold firstOpenEdge
    rw [List.forall_mem_cons, ← ih]
    split
    · next h => simp [h]
    · next h => simp [h]
    · next h => simp [h]

/-- The result of a failure says that an action is not there only if the failure does. -/
theorem Failure.message_of_actionNotFound {failure : Failure} {own id : String}
    (h : failure.result own = Run.actionNotFound id) :
    failure.message = "Action '" ++ id ++ "' not found" := by
  have he := congrArg StepResult.error h
  unfold result at he
  split at he <;> exact Option.some.inj he

/-- The refusal of a choice does not say that an action is not there. -/
theorem refusal_ne_actionNotFound (choice id : String) :
    "Invalid choice: " ++ choice ≠ "Action '" ++ id ++ "' not found" := by
  intro h
  have hhead := congrArg (fun text => text.toList.head?) h
  simp only [String.toList_append, List.head?_append] at hhead
  cases hhead

/-- A run goes on with the answer that an action is not there only after a failure that says
so. -/
theorem Run.Settles.failure_of_actionNotFound {run : Run} {a : Action} {context : Fields}
    {outcome : Except Failure StepResult} {settled : Settled}
    (h : run.Settles a context outcome settled) (ho : ∀ r, outcome = .ok r → a.Answers r)
    {id : String} (hid : settled.answer = .ok (actionNotFound id)) :
    ∃ failure, outcome = .error failure ∧
      failure.message = "Action '" ++ id ++ "' not found" := by
  -- Only a failure and a refused choice are answers of status error.
  have hstatus : ∀ r : StepResult, settled.answer = .ok r → r.status = .error := by
    intro r hr
    obtain rfl := Except.ok.inj (hid.symm.trans hr)
    rfl
  cases h with
  | fail failure => exact ⟨failure, rfl, failure.message_of_actionNotFound (Except.ok.inj hid)⟩
  | refuse _ =>
    obtain rfl := Except.ok.inj hid
    cases ho _ rfl with
    | refuses _ _ _ _ he => exact absurd (Option.some.inj he).symm (refusal_ne_actionNotFound _ _)
    | asks _ _ hw _ => cases hw
    | chooses _ _ _ hw _ => cases hw
    | done _ _ hw _ => cases hw
  | await hs => simp [hstatus _ rfl] at hs
  | complete hs _ => simp [hstatus _ rfl] at hs
  | escape _ _ _ => cases hid
  | halt hs _ _ _ => simp [hstatus _ rfl] at hs
  | moveTo hs _ _ _ =>
    have he := hstatus _ rfl
    simp [hs] at he

/-- A run that was not completed is completed by a completion. -/
theorem Run.Settles.kind_of_completed {run : Run} {a : Action} {context : Fields}
    {outcome : Except Failure StepResult} {settled : Settled}
    (h : run.Settles a context outcome settled) (hu : run.phase ≠ .completed)
    (hc : settled.run.phase = .completed) : a.kind = .completion := by
  cases h with
  | complete _ hk => exact hk
  | escape _ _ _ => exact absurd hc hu
  | _ => cases hc

/-- In a valid flow nothing follows an action that is no decision when no edge is open. -/
theorem Action.firstOpenEdge_of_halt {f : Flow} (hf : ∀ r, f.Meets r) {a : Action}
    (ha : a ∈ f.actions) (hk : a.kind ≠ .decision) {context : Value} {r : StepResult}
    {next : Option String} (hfol : a.following context r = .ok next)
    (hnext : next = none ∨ next = some "") : firstOpenEdge context a.edges = .ok none := by
  rw [following_of_ne_decision hk] at hfol
  obtain ⟨found, hfound, hmap⟩ := map_eq_ok hfol
  cases found with
  | none => exact hfound
  | some e =>
    have hne := (LinksTo.edge hk (firstOpenEdge_mem hfound)).ne_empty hf ha
    simp only [Option.map_some] at hmap
    rcases hnext with rfl | rfl
    · cases hmap
    · exact absurd (Option.some.inj hmap) hne

/-- A run of a valid flow that was not halted is halted by an action that asks for a request
and has no open edge. -/
theorem Run.Settles.edges_of_halted {f : Flow} (hf : ∀ r, f.Meets r) {run : Run} {a : Action}
    (ha : a ∈ f.actions) {context : Fields} {outcome : Except Failure StepResult}
    {settled : Settled} (h : run.Settles a context outcome settled)
    (ho : ∀ r, outcome = .ok r → a.Answers r) (hu : run.phase ≠ .halted)
    (hc : settled.run.phase = .halted) :
    (a.kind = .contractCall ∨ a.kind = .transfer ∨ a.kind = .http) ∧
      ∀ e ∈ a.edges, evaluateAll settled.run.context e.conditions = .ok false := by
  cases h with
  | halt hs hk hfol hnext =>
    have hne := (ho _ rfl).ne_decision_of_halt hf ha hs hfol hnext
    refine ⟨?_, firstOpenEdge_eq_none_iff.mp (a.firstOpenEdge_of_halt hf ha hne hfol hnext)⟩
    cases hkind : a.kind with
    | contractCall => exact .inl rfl
    | transfer => exact .inr (.inl rfl)
    | http => exact .inr (.inr rfl)
    | decision => exact absurd hkind hne
    | completion => exact absurd hkind hk
  | escape _ _ _ => exact absurd hc hu
  | _ => cases hc

/-- A step at an action of a valid flow carries the action out. -/
theorem Run.At.carriesOut {f : Flow} (hf : ∀ r, f.Meets r) {run : Run} {a : Action}
    {context : Fields} (h : run.At a context) (ha : a ∈ f.actions) (input : Fields)
    (s : Services) : run.CarriesOut a input s := by
  obtain ⟨settled, hset, ho, hanswer, hrun⟩ := step_settles h input s
  have hphase : run.phase ≠ .completed ∧ run.phase ≠ .halted := by
    simpa [isFinished, not_or] using h.unfinished
  refine ⟨⟨context, h.object, settled, hset, hanswer, hrun⟩, fun id hid => ?_, fun hc => ?_,
    fun hc => ?_⟩
  · rw [hanswer] at hid
    exact ⟨context, h.object, hset.failure_of_actionNotFound ho hid⟩
  · rw [hrun] at hc
    exact hset.kind_of_completed hphase.1 hc
  · rw [hrun] at hc ⊢
    exact hset.edges_of_halted hf ha ho hphase.2 hc

/-- After every sequence of calls, whatever their inputs and services, a run of a valid flow
is at its end and nowhere, or at a reachable action that is the only one of its id. At its
end nothing changes any more; before, every step carries out the action at which the run
is. -/
theorem Run.never_lost {f : Flow} (hf : f.validated = .ok f) (context : Fields) (id : Value)
    (calls : List Call) :
    let run := (Run.start f context id).afterCalls calls
    run.Placed f ∧
      (run.isFinished = true → ∀ input s, (run.step input s).answer = .ok nothingToDo ∧
        (run.step input s).run = run) ∧
      (run.isFinished = false → ∀ input s, ∃ a ∈ f.actions, run.current = .text a.id ∧
        run.CarriesOut a input s) := by
  have hmeets := f.validated_eq_ok_iff.mp hf
  have h := Run.afterCalls_onCourse hmeets context id calls
  refine ⟨h.placed hmeets, fun hend input s => step_idle (.inl hend) input s,
    fun hu input s => ?_⟩
  obtain ⟨a, at', hat, ha, hcur, -⟩ := h.exists_at hmeets hu
  exact ⟨a, ha, hcur, hat.carriesOut hmeets ha input s⟩

/-- A run in which the user has tipped is at the completion, and not lost. -/
theorem Run.never_lost_tipping :
    let calls : List Call := [⟨[("userChoice", .text "yes")], .quiet⟩, ⟨[], .quiet⟩]
    let run := (Run.start sampleFlow [] (.text "r")).afterCalls calls
    sampleFlow.validated = .ok sampleFlow ∧ run.isFinished = false ∧
      run.current = .text "done" ∧ run.Placed sampleFlow ∧
      (run.isFinished = true → ∀ input s, (run.step input s).answer = .ok nothingToDo ∧
        (run.step input s).run = run) ∧
      (run.isFinished = false → ∀ input s, ∃ a ∈ sampleFlow.actions, run.current = .text a.id ∧
        run.CarriesOut a input s) :=
  ⟨sampleFlow_validated, rfl, rfl, Run.never_lost sampleFlow_validated [] (.text "r") _⟩

end ActionFlow
