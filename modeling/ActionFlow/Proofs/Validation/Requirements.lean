import ActionFlow.Proofs.Graph.Reachability
import ActionFlow.Proofs.Validation.Checks
import Mathlib.Data.List.Basic

/-!
# What validation requires of a flow

A flow is valid when it meets nine requirements. They are stated here without the checks:
reachability is the existence of a finite chain of links. Validation accepts exactly the
flows that meet all of them, and of any other flow it reports the first requirement that
is not met, with the first offender in the order of the document.
-/

namespace ActionFlow

/-- What validation requires of a flow. -/
inductive Requirement where
  /-- There is an action. -/
  | someAction
  /-- There are not too many actions. -/
  | notTooMany
  /-- An initial action is named. -/
  | initialNamed
  /-- The initial action is there. -/
  | initialPresent
  /-- Every action has an id of its own. -/
  | ownIds
  /-- Every link leads to an action. -/
  | linksLead
  /-- Every action is connected with the initial one. -/
  | allConnected
  /-- The flow has a label. -/
  | labelled
  /-- Every action is complete for its kind. -/
  | actionsComplete
deriving DecidableEq, Repr

/-- All requirements, the most fundamental one first. -/
def Requirement.all : List Requirement :=
  [.someAction, .notTooMany, .initialNamed, .initialPresent, .ownIds, .linksLead, .allConnected,
    .labelled, .actionsComplete]

/-- Every id that an action names: the targets of its edges, even of those that a decision
never takes, and the targets of the options of a decision. -/
def Action.Names (a : Action) (target : String) : Prop :=
  (∃ e ∈ a.edges, e.target = target) ∨
    ∃ d, a.task = .decision d ∧ ∃ o ∈ d.options, o.target = target

/-- Some action carries an id. -/
def Flow.Has (f : Flow) (id : String) : Prop := ∃ a ∈ f.actions, a.id = id

/-- Every action has an id, and no two have the same. -/
def OwnIds (actions : List Action) : Prop :=
  (∀ a ∈ actions, a.id ≠ "") ∧ (actions.map (·.id)).Nodup

/-- What it means that a flow meets a requirement. -/
def Flow.Meets (f : Flow) : Requirement → Prop
  | .someAction => 1 ≤ f.actions.length
  | .notTooMany => f.actions.length ≤ 1000
  | .initialNamed => f.initial ≠ ""
  | .initialPresent => f.Has f.initial
  | .ownIds => OwnIds f.actions
  | .linksLead => ∀ a ∈ f.actions, ∀ target, a.Names target → f.Has target
  | .allConnected => ∀ a ∈ f.actions, f.Connected a.id
  | .labelled => f.label ≠ ""
  | .actionsComplete => ∀ a ∈ f.actions, a.check = .ok ()

open Classical in
/-- The ids of the actions that are not connected with the initial one, in the order of the
document. -/
noncomputable def Flow.strayIds (f : Flow) : List String :=
  (f.actions.map (·.id)).filter fun id => ¬ f.Connected id

/-- The failure that is reported of a requirement that is not met. Where single actions
offend, it is that of the first of them; of its names the first that leads nowhere. -/
def Flow.Reports (f : Flow) (failure : ValidationFailure) : Requirement → Prop
  | .someAction => failure = .invalid .noActions
  | .notTooMany => failure = .invalid (.tooManyActions f.actions.length)
  | .initialNamed => failure = .invalid .noInitial
  | .initialPresent => failure = .invalid (.initialUnknown f.initial)
  | .ownIds => ∃ before a after, f.actions = before ++ a :: after ∧ OwnIds before ∧
      (a.id = "" ∧ failure = .invalid .actionWithoutId ∨
        a.id ≠ "" ∧ a.id ∈ before.map (·.id) ∧ failure = .invalid (.duplicateId a.id))
  | .linksLead => ∃ before a after, f.actions = before ++ a :: after ∧
      (∀ b ∈ before, ∀ target, b.Names target → f.Has target) ∧
      ∃ led target rest, a.referenced = led ++ target :: rest ∧ (∀ id ∈ led, f.Has id) ∧
        ¬ f.Has target ∧ failure = .invalid (.unknownTarget a.id target)
  | .allConnected => failure = .invalid (.unreachable f.strayIds)
  | .labelled => failure = .invalid .noLabel
  | .actionsComplete => ∃ before a after, f.actions = before ++ a :: after ∧
      (∀ b ∈ before, b.check = .ok ()) ∧ a.check = .error failure

/-- The check behind a requirement. -/
def Flow.checkOf (f : Flow) : Requirement → Check
  | .someAction => refuseIf f.actions.isEmpty .noActions
  | .notTooMany => refuseIf (maxActions < f.actions.length) (.tooManyActions f.actions.length)
  | .initialNamed => refuseIf (f.initial == "") .noInitial
  | .initialPresent => refuseIf (!f.actions.any (·.id == f.initial)) (.initialUnknown f.initial)
  | .ownIds => checkIds f.actions
  | .linksLead => checkTargets f.actions
  | .allConnected => refuseIf (!f.unreachableIds.isEmpty) (.unreachable f.unreachableIds)
  | .labelled => refuseIf (f.label == "") .noLabel
  | .actionsComplete => checkEach Action.check f.actions

/-- Validation goes through the requirements in their order. -/
theorem Flow.check_eq_checkEach (f : Flow) : f.check = checkEach f.checkOf Requirement.all := by
  have hlast : ∀ c : Check, (c >>= fun _ => .ok ()) = c := fun c => by cases c <;> rfl
  simp only [check, Requirement.all, checkEach, checkOf, hlast]

/-- The ids that an action refers to are those that it names. -/
theorem Action.mem_referenced_iff (a : Action) (target : String) :
    target ∈ a.referenced ↔ a.Names target := by
  unfold referenced Names edgeTargets
  split
  · next d hd =>
    simp only [List.mem_append, List.mem_map, hd, Task.decision.injEq, exists_eq_left', or_comm]
  · next hd =>
    have hn : ¬ ∃ d, a.task = .decision d ∧ ∃ o ∈ d.options, o.target = target := by
      rintro ⟨d, hd', -⟩
      exact hd d hd'
    simp only [List.mem_map, hn, or_false]

/-- An id is among those of the actions when some action carries it. -/
theorem Flow.mem_ids_iff (f : Flow) (id : String) : id ∈ f.actions.map (·.id) ↔ f.Has id :=
  List.mem_map

/-- An action is refused for its id when it has none, or shares it with one before it. -/
theorem idCheck_eq_ok_iff (seen : List String) (a : Action) :
    (do refuseIf (a.id == "") .actionWithoutId
        refuseIf (seen.contains a.id) (.duplicateId a.id) : Check) = .ok () ↔
      a.id ≠ "" ∧ a.id ∉ seen := by
  rw [Check.bind_eq_ok_iff, refuseIf_eq_ok_iff, refuseIf_eq_ok_iff]
  simp

/-- The ids pass when every action has one of its own. -/
theorem checkIds_eq_ok_iff (actions : List Action) : checkIds actions = .ok () ↔ OwnIds actions := by
  unfold checkIds OwnIds
  rw [checkWithSeen_eq_ok_iff idCheck_eq_ok_iff]
  simp

/-- The first action without an id of its own is the one whose failure is reported. -/
theorem checkIds_eq_error_iff {actions : List Action} {failure : ValidationFailure} :
    checkIds actions = .error failure ↔
      ∃ before a after, actions = before ++ a :: after ∧ OwnIds before ∧
        (a.id = "" ∧ failure = .invalid .actionWithoutId ∨
          a.id ≠ "" ∧ a.id ∈ before.map (·.id) ∧ failure = .invalid (.duplicateId a.id)) := by
  have hids : ∀ before, checkWithSeen _ _ [] before = .ok () ↔ OwnIds before :=
    checkIds_eq_ok_iff
  unfold checkIds
  simp only [checkWithSeen_eq_error_iff, hids, Check.bind_eq_error_iff, refuseIf_eq_error_iff,
    refuseIf_eq_ok_iff]
  simp

/-- The names of an action pass when all of them lead to actions. -/
theorem namesCheck_eq_ok_iff (f : Flow) (a : Action) :
    checkEach (fun target => refuseIf (!(f.actions.map (·.id)).contains target)
      (.unknownTarget a.id target)) a.referenced = .ok () ↔
      ∀ target, a.Names target → f.Has target := by
  rw [checkEach_eq_ok_iff]
  simp only [refuseIf_eq_ok_iff, Bool.not_eq_false', List.contains_iff_mem, f.mem_ids_iff,
    a.mem_referenced_iff]

/-- The ids that the search leaves out are those of the unconnected actions. -/
theorem Flow.unreachableIds_eq_strayIds (f : Flow) : f.unreachableIds = f.strayIds := by
  classical
  refine List.filter_congr fun id _ => ?_
  rw [Bool.eq_iff_iff, Bool.not_eq_true', decide_eq_true_iff, ← f.mem_reachable_iff id,
    ← List.contains_iff_mem, Bool.not_eq_true]

/-- No ids are stray when all actions are connected. -/
theorem Flow.strayIds_eq_nil_iff (f : Flow) :
    f.strayIds = [] ↔ ∀ a ∈ f.actions, f.Connected a.id := by
  unfold strayIds
  rw [List.filter_eq_nil_iff]
  simp

/-- The check behind a requirement passes exactly when the flow meets it. -/
theorem Flow.checkOf_eq_ok_iff (f : Flow) (r : Requirement) :
    f.checkOf r = .ok () ↔ f.Meets r := by
  cases r with
  | someAction =>
    unfold checkOf Meets
    rw [refuseIf_eq_ok_iff, List.isEmpty_eq_false_iff, ← List.length_pos_iff]
    exact Iff.rfl
  | notTooMany =>
    unfold checkOf Meets maxActions
    rw [refuseIf_eq_ok_iff, decide_eq_false_iff_not, Nat.not_lt]
  | initialNamed =>
    unfold checkOf Meets
    rw [refuseIf_eq_ok_iff, beq_eq_false_iff_ne]
  | initialPresent =>
    unfold checkOf Meets Has
    rw [refuseIf_eq_ok_iff, Bool.not_eq_false', List.any_eq_true]
    simp only [beq_iff_eq]
  | ownIds => exact checkIds_eq_ok_iff f.actions
  | linksLead =>
    unfold checkOf Meets checkTargets
    rw [checkEach_eq_ok_iff]
    exact forall₂_congr fun a _ => namesCheck_eq_ok_iff f a
  | allConnected =>
    unfold checkOf Meets
    rw [refuseIf_eq_ok_iff, Bool.not_eq_false', List.isEmpty_iff, f.unreachableIds_eq_strayIds,
      f.strayIds_eq_nil_iff]
  | labelled =>
    unfold checkOf Meets
    rw [refuseIf_eq_ok_iff, beq_eq_false_iff_ne]
  | actionsComplete => exact checkEach_eq_ok_iff

/-- The links fail at the first action that names an id which leads nowhere. -/
theorem checkTargets_eq_error_iff (f : Flow) (failure : ValidationFailure) :
    checkTargets f.actions = .error failure ↔ f.Reports failure .linksLead := by
  have hname : ∀ id, (!(f.actions.map (·.id)).contains id) = true ↔ ¬ f.Has id := fun id => by
    rw [Bool.not_eq_true', ← Bool.not_eq_true, List.contains_iff_mem, f.mem_ids_iff]
  unfold checkTargets Flow.Reports
  rw [checkEach_eq_error_iff]
  refine exists₃_congr fun before a after => and_congr_right fun _ => and_congr ?_ ?_
  · exact forall₂_congr fun b _ => namesCheck_eq_ok_iff f b
  · rw [checkEach_eq_error_iff]
    simp only [refuseIf_eq_ok_iff, refuseIf_eq_error_iff, hname, Bool.not_eq_false',
      List.contains_iff_mem, f.mem_ids_iff]

/-- The check behind a requirement fails as it is told of that requirement. -/
theorem Flow.checkOf_eq_error_iff (f : Flow) (r : Requirement) (failure : ValidationFailure) :
    f.checkOf r = .error failure ↔ ¬ f.Meets r ∧ f.Reports failure r := by
  have hone : ∀ (bad : Bool) (problem : FlowProblem), refuseIf bad problem = .error failure ↔
      ¬ refuseIf bad problem = .ok () ∧ failure = .invalid problem := by
    intro bad problem
    rw [refuseIf_eq_ok_iff, refuseIf_eq_error_iff, Bool.not_eq_false]
  have hmany : (f.checkOf r = .error failure ↔ f.Reports failure r) →
      (f.checkOf r = .error failure ↔ ¬ f.checkOf r = .ok () ∧ f.Reports failure r) :=
    fun h => ⟨fun he => ⟨fun hk => by simp [hk] at he, h.mp he⟩, fun he => h.mpr he.2⟩
  rw [← f.checkOf_eq_ok_iff]
  cases r with
  | someAction => exact hone _ _
  | notTooMany => exact hone _ _
  | initialNamed => exact hone _ _
  | initialPresent => exact hone _ _
  | ownIds => exact hmany checkIds_eq_error_iff
  | linksLead => exact hmany (checkTargets_eq_error_iff f failure)
  | allConnected =>
    have h := hone (!f.unreachableIds.isEmpty) (.unreachable f.unreachableIds)
    unfold Reports
    rw [← f.unreachableIds_eq_strayIds]
    exact h
  | labelled => exact hone _ _
  | actionsComplete => exact hmany checkEach_eq_error_iff

/-- A flow passes validation as it is when its checks pass. -/
theorem Flow.validated_eq_ok_iff (f : Flow) : f.validated = .ok f ↔ ∀ r, f.Meets r := by
  have hall : ∀ r, r ∈ Requirement.all := fun r => by cases r <;> decide
  have hcheck : f.check = .ok () ↔ ∀ r, f.Meets r := by
    rw [f.check_eq_checkEach, checkEach_eq_ok_iff]
    exact ⟨fun h r => (f.checkOf_eq_ok_iff r).mp (h r (hall r)),
      fun h r _ => (f.checkOf_eq_ok_iff r).mpr (h r)⟩
  rw [← hcheck]
  unfold validated
  cases f.check <;> simp

/-- A flow that does not pass fails with the failure of its checks. -/
theorem Flow.validated_eq_error_iff (f : Flow) (failure : ValidationFailure) :
    f.validated = .error failure ↔ f.check = .error failure := by
  unfold validated
  cases f.check <;> simp

/-- Validation is sound and complete: it accepts exactly the flows that meet all
requirements, as they are, and of any other flow it reports the first requirement in order
that is not met, in the way that is told of it. -/
theorem Flow.validated_iff_meets (f : Flow) :
    (f.validated = .ok f ↔ ∀ r, f.Meets r) ∧
      ∀ failure, f.validated = .error failure ↔
        ∃ before r after, Requirement.all = before ++ r :: after ∧
          (∀ q ∈ before, f.Meets q) ∧ ¬ f.Meets r ∧ f.Reports failure r := by
  refine ⟨f.validated_eq_ok_iff, fun failure => ?_⟩
  rw [f.validated_eq_error_iff, f.check_eq_checkEach, checkEach_eq_error_iff]
  simp only [f.checkOf_eq_ok_iff, f.checkOf_eq_error_iff]

/-- A small flow: it asks whether to tip, calls a contract if so, and ends. -/
def sampleFlow : Flow where
  label := "Tip"
  initial := "ask"
  actions :=
    [⟨"ask", "Ask", [],
        .decision ⟨"Tip?", none, [⟨"Yes", "yes", "pay"⟩, ⟨"No", "no", "done"⟩]⟩⟩,
      ⟨"pay", "Pay", [⟨"done", []⟩],
        .contractCall ⟨"0x0000000000000000000000000000000000000000", [[]], "tip",
          ⟨"fuji", none⟩, none, []⟩⟩,
      ⟨"done", "Done", [], .completion ⟨"Thanks", "success"⟩⟩]

/-- The small flow is valid. -/
theorem sampleFlow_validated : sampleFlow.validated = .ok sampleFlow := by cbv

end ActionFlow
