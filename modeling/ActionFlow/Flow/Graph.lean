import ActionFlow.Flow.Document

/-!
# The graph of a flow

Actions are the nodes of a graph; an action leads to the actions that can come next. A
decision leads where its options lead, whatever edges it has, and every other action
leads where its edges lead. An id that several actions carry stands for the last of them.
Reachability is a search from the initial action that ends because every round either
takes an id from the queue or meets a new action.
-/

namespace ActionFlow

/-- The ids of the edge targets of an action. -/
def Action.edgeTargets (a : Action) : List String := a.edges.map (·.target)

/-- The ids of the actions that can come next. -/
def Action.successors (a : Action) : List String :=
  match a.task with
  | .decision d => d.options.map (·.target)
  | _ => a.edgeTargets

/-- Every id that an action names, with the edges that a decision never takes. -/
def Action.referenced (a : Action) : List String :=
  match a.task with
  | .decision d => d.options.map (·.target) ++ a.edgeTargets
  | _ => a.edgeTargets

/-- The action that an id stands for: the last one that carries it. -/
def findAction? (actions : List Action) (id : String) : Option Action :=
  actions.reverse.find? (·.id == id)

/-- The action that an id stands for in a flow. -/
def Flow.action? (f : Flow) (id : String) : Option Action := findAction? f.actions id

/-- The number of actions that a search has not visited. -/
def unvisited (actions : List Action) (visited : List String) : Nat :=
  actions.countP fun a => !visited.contains a.id

/-- An action found under an id carries that id. -/
theorem findAction?_id {actions : List Action} {id : String} {a : Action}
    (found : findAction? actions id = some a) : a.id = id := by
  simpa using List.find?_some found

/-- An action found under an id is one of the actions. -/
theorem findAction?_mem {actions : List Action} {id : String} {a : Action}
    (found : findAction? actions id = some a) : a ∈ actions := by
  simpa using List.mem_of_find?_eq_some found

/-- Visiting a further id never adds to what is unvisited. -/
theorem unvisited_cons_le (actions : List Action) (visited : List String) (id : String) :
    unvisited actions (id :: visited) ≤ unvisited actions visited := by
  refine List.countP_mono_left fun a _ fresh => ?_
  rw [List.contains_cons, Bool.not_or, Bool.and_eq_true] at fresh
  exact fresh.2

/-- Visiting the id of an action for the first time leaves fewer unvisited. -/
theorem unvisited_cons_lt {actions : List Action} {visited : List String} {a : Action}
    (present : a ∈ actions) (fresh : visited.contains a.id = false) :
    unvisited actions (a.id :: visited) < unvisited actions visited := by
  induction actions with
  | nil => simp at present
  | cons b rest ih =>
    have le := unvisited_cons_le rest visited a.id
    have split := fun seen : List String =>
      List.countP_cons (p := fun a : Action => !seen.contains a.id) (a := b) (l := rest)
    unfold unvisited at le ih ⊢
    rw [split, split]
    rcases List.mem_cons.mp present with rfl | later
    · have now : (a.id :: visited).contains a.id = true := by
        rw [List.contains_cons, beq_self_eq_true, Bool.true_or]
      rw [now, fresh]
      simp only [Bool.not_true, Bool.false_eq_true, if_false, Bool.not_false, if_true]
      omega
    · have lt := ih later
      rw [List.contains_cons (a := a.id)]
      cases visited.contains b.id <;> cases b.id == a.id <;>
        simp only [Bool.or_true, Bool.or_false, Bool.not_true, Bool.not_false, if_true,
          Bool.false_eq_true, if_false] <;> omega

/-- The ids visited by a search that goes on from a queue. -/
def visitAll (actions : List Action) (visited queue : List String) : List String :=
  match queue with
  | [] => visited
  | id :: rest =>
    if _seen : visited.contains id then visitAll actions visited rest
    else
      match _found : findAction? actions id with
      | none => visitAll actions visited rest
      | some a => visitAll actions (id :: visited) (rest ++ a.successors)
termination_by (unvisited actions visited, queue.length)
decreasing_by
  · exact Prod.Lex.right _ (by simp)
  · exact Prod.Lex.right _ (by simp)
  · have carries := findAction?_id _found
    refine Prod.Lex.left _ _ ?_
    rw [← carries]
    exact unvisited_cons_lt (findAction?_mem _found) (by simpa [carries] using _seen)

/-- The ids of the actions that can be reached from the initial one. -/
def Flow.reachable (f : Flow) : List String := visitAll f.actions [] [f.initial]

end ActionFlow
