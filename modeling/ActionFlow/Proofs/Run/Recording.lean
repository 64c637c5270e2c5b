import ActionFlow.Proofs.Run.Progress
import ActionFlow.Proofs.Template.Lookups
import Mathlib

/-!
# What a step leaves on record

A step of a run of a valid flow answers, and what it answers is the one entry that it adds
to the history. The exception is told exactly: after an action that asked a service has
succeeded, a condition of its edges may fault. Then the step ends without an answer, nothing
is recorded, and the run is still at the action, although the service was asked. No condition
faults in a flow whose conditions name only indexes where they name digits.
-/

namespace ActionFlow

/-- What follows an action faults when the action is no decision and its edges do. -/
theorem Action.following_eq_error_iff {a : Action} {context : Value} {r : StepResult}
    {fault : IndexFault} :
    a.following context r = .error fault ↔
      a.kind ≠ .decision ∧ firstOpenEdge context a.edges = .error fault := by
  by_cases hk : a.kind = .decision
  · have hok : a.following context r = .ok r.next := by
      cases ht : a.task with
      | decision d => simp only [following, ht]
      | _ => simp [kind, Task.kind, ht] at hk
    simp [hok, hk]
  · rw [following_of_ne_decision hk]
    cases firstOpenEdge context a.edges <;> simp [Except.map, hk]

namespace Run

/-- A step that answers, and adds what it answers to the history as one entry about the
action. -/
def Records (run : Run) (a : Action) (input : Fields) (s : Services) : Prop :=
  ∃ r, (run.step input s).answer = .ok r ∧ r.actionId = a.id ∧
    (run.step input s).run.history = run.history ++ [r]

/-- The action, which is no decision and no completion, succeeds, and after that a condition
of its edges faults. -/
def FaultsAfter (run : Run) (a : Action) (input : Fields) (s : Services) (fault : IndexFault) :
    Prop :=
  ∃ context r, run.context = .object context ∧ run.outcome a context input s = .ok r ∧
    a.kind ≠ .decision ∧ a.kind ≠ .completion ∧
    firstOpenEdge (.object (remember a.id r (Keyed.merge context input))) a.edges = .error fault

/-- However a run goes on without a fault, it answers with the entry that it records. -/
theorem Settles.records {run : Run} {a : Action} {context : Fields}
    {outcome : Except Failure StepResult} {settled : Settled}
    (h : run.Settles a context outcome settled) (ho : ∀ r, outcome = .ok r → a.Answers r) :
    (∃ r, settled.answer = .ok r ∧ r.actionId = a.id ∧
        settled.run.history = run.history ++ [r]) ∨
      ∃ r fault, outcome = .ok r ∧ r.status = .success ∧ a.kind ≠ .completion ∧
        a.following (.object (remember a.id r context)) r = .error fault ∧
        settled = ⟨.error (.condition fault),
          { run with context := .object (remember a.id r context) }, []⟩ := by
  cases h with
  | fail failure => exact .inl ⟨_, rfl, (failure.result_refuses a.id).1, rfl⟩
  | escape hs hk hf => exact .inr ⟨_, _, rfl, hs, hk, hf, rfl⟩
  | _ => exact .inl ⟨_, rfl, (ho _ rfl).actionId_eq, rfl⟩

/-- A step at an action records its answer, unless a condition faults after the action. -/
theorem At.records {run : Run} {a : Action} {context : Fields} (h : run.At a context)
    {input : Fields} {s : Services} (hfault : ¬ ∃ fault, run.FaultsAfter a input s fault) :
    run.Records a input s := by
  obtain ⟨settled, hset, ho, hanswer, hrun⟩ := step_settles h input s
  rcases hset.records ho with ⟨r, hr, hid, hhistory⟩ | ⟨r, fault, hr, -, hk, hf, -⟩
  · exact ⟨r, hanswer.trans hr, hid, hrun ▸ hhistory⟩
  · obtain ⟨hd, hedge⟩ := Action.following_eq_error_iff.mp hf
    exact absurd ⟨fault, context, r, h.object, hr, hd, hk, hedge⟩ hfault

end Run

end ActionFlow
