import ActionFlow.Proofs.Run.History
import Mathlib.Data.List.Count
import Mathlib.Data.List.Nodup
import Mathlib.Data.List.Perm.Subperm
import Mathlib.Logic.Relation

/-!
# Flows without cycles

In a flow whose links have no cycle, every action succeeds at most once. The history is a
walk: between any two of its entries there is a chain of links, and a chain of one link at
least if the earlier entry is a success. Two successes of one action would close a cycle.
Failures and questions in between stay at their action and change nothing in this, however
many there are.
-/

namespace ActionFlow

/-- A link leads from the action of one id to another id. -/
def Flow.Leads (f : Flow) (id target : String) : Prop :=
  ∃ a ∈ f.actions, a.id = id ∧ a.LinksTo target

/-- No chain of links leads from an id back to it. -/
def Flow.Acyclic (f : Flow) : Prop := ∀ id, ¬ Relation.TransGen f.Leads id id

/-- A flow has no cycle when its ids have heights that every link goes down. -/
theorem Flow.acyclic_of_height {f : Flow} (height : String → Nat)
    (h : ∀ a ∈ f.actions, ∀ target ∈ a.successors, height target < height a.id) : f.Acyclic := by
  have hdown : ∀ id target, Relation.TransGen f.Leads id target → height target < height id := by
    intro id target hchain
    induction hchain with
    | single hlead =>
      obtain ⟨a, ha, rfl, hl⟩ := hlead
      exact h a ha _ ((a.mem_successors_iff _).mpr hl)
    | tail _ hlead ih =>
      obtain ⟨a, ha, rfl, hl⟩ := hlead
      exact (h a ha _ ((a.mem_successors_iff _).mpr hl)).trans ih
  exact fun id hcycle => Nat.lt_irrefl _ (hdown id id hcycle)

/-- A later entry of a history lies further on: links lead from the action of the earlier
entry to its action, and at least one of them if the earlier entry is a success. -/
def Flow.FurtherOn (f : Flow) (e later : StepResult) : Prop :=
  Relation.ReflTransGen f.Leads e.actionId later.actionId ∧
    (e.status = .success → Relation.TransGen f.Leads e.actionId later.actionId)

/-- What lies further on from an entry that lies further on lies further on. -/
theorem Flow.FurtherOn.trans {f : Flow} {e middle later : StepResult} (h : f.FurtherOn e middle)
    (hlater : f.FurtherOn middle later) : f.FurtherOn e later :=
  ⟨h.1.trans hlater.1, fun hs => (h.2 hs).trans_left hlater.1⟩

instance (f : Flow) : Trans f.FurtherOn f.FurtherOn f.FurtherOn := ⟨Flow.FurtherOn.trans⟩

/-- An entry that its action can leave and that leads to another has it further on. -/
theorem StepResult.LeadsTo.furtherOn {f : Flow} {e later : StepResult} (h : e.LeadsTo later)
    (he : f.Admits e) : f.FurtherOn e later := by
  obtain ⟨a, ha, hid, hcase⟩ := he
  unfold LeadsTo at h
  unfold Flow.FurtherOn
  cases hs : e.status with
  | success =>
    simp only [hs] at h
    simp only [hs, h] at hcase
    have hlead : f.Leads e.actionId later.actionId :=
      ⟨a, ha, hid, (a.mem_successors_iff _).mp hcase⟩
    exact ⟨.single hlead, fun _ => .single hlead⟩
  | error =>
    simp only [hs] at h
    exact ⟨h ▸ .refl, fun he => by cases he⟩
  | waiting =>
    simp only [hs] at h
    exact ⟨h ▸ .refl, fun he => by cases he⟩
  | skipped => simp [hs] at h

/-- Any later entry of a walk lies further on. -/
theorem Flow.IsWalk.pairwise {f : Flow} {history : List StepResult} (h : f.IsWalk history) :
    history.Pairwise f.FurtherOn := by
  have hchain : history.IsChain f.FurtherOn :=
    h.linked.imp_of_mem_imp fun e _ he _ hlead => hlead.furtherOn (h.admitted e he)
  exact List.isChain_iff_pairwise.mp hchain

/-- The ids of the actions that succeeded, in the order of the history. -/
def succeededIds (history : List StepResult) : List String :=
  (history.filter (·.status = .success)).map (·.actionId)

/-- An id occurs among them as often as its action has succeeded. -/
theorem count_succeededIds (history : List StepResult) (actionId : String) :
    (succeededIds history).count actionId =
      history.countP fun e => e.actionId = actionId ∧ e.status = .success := by
  unfold succeededIds
  rw [List.count, List.countP_map, List.countP_filter]
  exact List.countP_congr fun e _ => by simp

/-- There are as many of them as successes. -/
theorem length_succeededIds (history : List StepResult) :
    (succeededIds history).length = history.countP (·.status = .success) := by
  unfold succeededIds
  rw [List.length_map, List.countP_eq_length_filter]

/-- Without cycles the successes of a walk are about different actions. -/
theorem Flow.IsWalk.succeededIds_nodup {f : Flow} (hacyclic : f.Acyclic)
    {history : List StepResult} (h : f.IsWalk history) : (succeededIds history).Nodup := by
  unfold succeededIds List.Nodup
  rw [List.pairwise_map, List.pairwise_filter]
  refine h.pairwise.imp fun {e later} hfurther hs _ hsame => ?_
  have hcycle := hfurther.2 (by simpa using hs)
  rw [← hsame] at hcycle
  exact hacyclic _ hcycle

/-- The successes of a walk are about actions of the flow. -/
theorem Flow.IsWalk.succeededIds_subset {f : Flow} {history : List StepResult}
    (h : f.IsWalk history) : succeededIds history ⊆ f.actions.map (·.id) := by
  intro id hid
  obtain ⟨e, he, rfl⟩ := List.mem_map.mp hid
  obtain ⟨a, ha, haid, -⟩ := h.admitted e (List.mem_of_mem_filter he)
  exact haid ▸ List.mem_map_of_mem ha

/-- In a valid flow without cycles, after every sequence of calls, whatever the context at the
start, the inputs and the services, every action has succeeded at most once, and there are at
most as many successes as actions. -/
theorem Run.succeeds_once {f : Flow} (hf : f.validated = .ok f) (hacyclic : f.Acyclic)
    (context : Fields) (id : Value) (calls : List Call) :
    let run := (Run.start f context id).afterCalls calls
    (∀ actionId, run.history.countP (fun e => e.actionId = actionId ∧ e.status = .success) ≤ 1) ∧
      run.history.countP (·.status = .success) ≤ f.actions.length := by
  have hwalk := (Run.afterCalls_onCourse (f.validated_eq_ok_iff.mp hf) context id calls).walk
  have hnodup := hwalk.succeededIds_nodup hacyclic
  refine ⟨fun actionId => ?_, ?_⟩
  · rw [← count_succeededIds]
    exact List.nodup_iff_count_le_one.mp hnodup actionId
  · rw [← length_succeededIds, ← f.actions.length_map (·.id)]
    exact (List.subperm_of_subset hnodup hwalk.succeededIds_subset).length_le

/-- The small flow goes down from asking to paying to the end. -/
theorem sampleFlow_acyclic : sampleFlow.Acyclic :=
  Flow.acyclic_of_height
    (fun id => if id = "ask" then 2 else if id = "pay" then 1 else 0) (by decide)

/-- A user who is asked twice, chooses something else, and tips, pays once. -/
theorem Run.pays_once :
    let calls : List Call := [⟨[], .quiet⟩, ⟨[("userChoice", .text "what")], .quiet⟩,
      ⟨[("userChoice", .text "yes")], .quiet⟩, ⟨[], .quiet⟩, ⟨[], .quiet⟩]
    let run := (Run.start sampleFlow [] (.text "r")).afterCalls calls
    sampleFlow.validated = .ok sampleFlow ∧ sampleFlow.Acyclic ∧
      run.history.map (·.actionId) = ["ask", "ask", "ask", "pay", "done"] ∧
      (∀ actionId, run.history.countP
        (fun e => e.actionId = actionId ∧ e.status = .success) ≤ 1) ∧
      run.history.countP (·.status = .success) ≤ sampleFlow.actions.length :=
  ⟨sampleFlow_validated, sampleFlow_acyclic, rfl,
    Run.succeeds_once sampleFlow_validated sampleFlow_acyclic [] (.text "r") _⟩

end ActionFlow
