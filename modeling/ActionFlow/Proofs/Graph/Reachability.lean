import ActionFlow.Flow.Graph

/-!
# Reachability in the graph of a flow

Links between actions are told by a relation, and so are the ids that a finite chain of
links reaches from the initial action. Neither looks at the search. The search visits
exactly the ids of that relation, on every flow: with cycles, with links that lead
nowhere, and with ids that several actions carry.
-/

namespace ActionFlow

/-- An action links to what it can lead to: a decision to the targets of its options,
whatever edges it has, and every other action to the targets of its edges. -/
inductive Action.LinksTo (a : Action) : String → Prop where
  /-- An option of a decision. -/
  | option {d : Decision} {o : Choice} (hd : a.task = .decision d) (ho : o ∈ d.options) :
    a.LinksTo o.target
  /-- An edge of any other action. -/
  | edge {e : Edge} (hk : a.kind ≠ .decision) (he : e ∈ a.edges) : a.LinksTo e.target

/-- An id stands for the last of the actions that carry it. -/
def StandsFor (actions : List Action) (id : String) (a : Action) : Prop :=
  a.id = id ∧ ∃ before after, actions = before ++ a :: after ∧ ∀ b ∈ after, b.id ≠ id

/-- The ids that the initial action is connected with: its own, and those that a link from
a connected action names. Every id on the way stands for an action. -/
inductive Flow.Connected (f : Flow) : String → Prop where
  /-- The initial action. -/
  | initial {a : Action} (ha : StandsFor f.actions f.initial a) : f.Connected f.initial
  /-- One link further. -/
  | link {id target : String} {a b : Action} (hid : f.Connected id)
    (ha : StandsFor f.actions id a) (hl : a.LinksTo target) (hb : StandsFor f.actions target b) :
    f.Connected target

/-- The successors of an action are what it links to. -/
theorem Action.mem_successors_iff (a : Action) (target : String) :
    target ∈ a.successors ↔ a.LinksTo target := by
  constructor
  · intro h
    unfold successors at h
    split at h
    · next d hd =>
      obtain ⟨o, ho, rfl⟩ := List.mem_map.mp h
      exact .option hd ho
    · next hd =>
      obtain ⟨e, he, rfl⟩ := List.mem_map.mp h
      refine .edge (fun hk => ?_) he
      cases ht : a.task with
      | decision d => exact hd d ht
      | _ => simp [kind, Task.kind, ht] at hk
  · intro h
    cases h with
    | option hd ho => simpa only [successors, hd] using List.mem_map_of_mem ho
    | edge hk he =>
      have hm := List.mem_map_of_mem (f := Edge.target) he
      cases ht : a.task with
      | decision d => exact absurd (by rw [kind, ht]; rfl) hk
      | _ => simpa only [successors, ht, edgeTargets] using hm

/-- An action that an id stands for is one of the actions. -/
theorem StandsFor.mem {actions : List Action} {id : String} {a : Action}
    (h : StandsFor actions id a) : a ∈ actions := by
  obtain ⟨-, before, after, rfl, -⟩ := h
  exact List.mem_append_right _ List.mem_cons_self

/-- Looking an id up gives the action that it stands for. -/
theorem findAction?_eq_some_iff {actions : List Action} {id : String} {a : Action} :
    findAction? actions id = some a ↔ StandsFor actions id a := by
  unfold findAction? StandsFor
  rw [List.find?_eq_some_iff_append]
  simp only [beq_iff_eq, Bool.not_eq_true', beq_eq_false_iff_ne]
  refine and_congr_right fun _ => ⟨?_, ?_⟩
  · rintro ⟨front, back, hl, hf⟩
    refine ⟨back.reverse, front.reverse, ?_, fun b hb => hf b (List.mem_reverse.mp hb)⟩
    rw [← List.reverse_reverse actions, hl]
    simp
  · rintro ⟨before, after, rfl, ha⟩
    exact ⟨after.reverse, before.reverse, by simp, fun b hb => ha b (List.mem_reverse.mp hb)⟩

/-- An id stands for an action as soon as one of them carries it. -/
theorem exists_standsFor_iff {actions : List Action} {id : String} :
    (∃ a, StandsFor actions id a) ↔ ∃ a ∈ actions, a.id = id := by
  constructor
  · rintro ⟨a, ha⟩
    exact ⟨a, ha.mem, ha.1⟩
  · rintro ⟨a, ha, hid⟩
    cases h : findAction? actions id with
    | some b => exact ⟨b, findAction?_eq_some_iff.mp h⟩
    | none =>
      have hn := List.find?_eq_none.mp h a (List.mem_reverse.mpr ha)
      simp [hid] at hn

/-- Where no two actions share an id, an id stands for the only action that carries it. -/
theorem standsFor_of_nodup {actions : List Action} (hn : (actions.map (·.id)).Nodup)
    {a : Action} (ha : a ∈ actions) : StandsFor actions a.id a := by
  obtain ⟨before, after, rfl⟩ := List.append_of_mem ha
  refine ⟨rfl, before, after, rfl, fun b hb hid => ?_⟩
  rw [List.map_append, List.map_cons, List.nodup_append] at hn
  exact (List.nodup_cons.mp hn.2.1).1 (hid ▸ List.mem_map_of_mem hb)

/-- What a connected id stands for. -/
theorem Flow.Connected.standsFor {f : Flow} {id : String} (h : f.Connected id) :
    ∃ a, StandsFor f.actions id a := by
  cases h with
  | initial ha => exact ⟨_, ha⟩
  | link _ _ _ hb => exact ⟨_, hb⟩

/-- The search forgets no id that it has visited. -/
theorem subset_visitAll (actions : List Action) (visited queue : List String) :
    visited ⊆ visitAll actions visited queue := by
  fun_induction visitAll actions visited queue with
  | case1 visited => exact List.Subset.refl _
  | case2 visited id rest _ ih => exact ih
  | case3 visited id rest _ _ ih => exact ih
  | case4 visited id rest _ a _ ih => exact List.Subset.trans (List.subset_cons_self _ _) ih

/-- The search visits only ids with a property that holds of what is already visited and
of the actions in the queue, and that links between actions hand on. -/
theorem visitAll_sound {actions : List Action} {visited queue : List String}
    {P : String → Prop} (hv : ∀ id ∈ visited, P id)
    (hq : ∀ id ∈ queue, ∀ a, findAction? actions id = some a → P id)
    (hl : ∀ id a target b, P id → findAction? actions id = some a → target ∈ a.successors →
      findAction? actions target = some b → P target) :
    ∀ id ∈ visitAll actions visited queue, P id := by
  fun_induction visitAll actions visited queue with
  | case1 visited => exact hv
  | case2 visited id rest _ ih => exact ih hv fun x hx => hq x (List.mem_cons_of_mem _ hx)
  | case3 visited id rest _ _ ih => exact ih hv fun x hx => hq x (List.mem_cons_of_mem _ hx)
  | case4 visited id rest _ a hf ih =>
    have hid : P id := hq id List.mem_cons_self a hf
    refine ih (fun x hx => ?_) (fun x hx b hb => ?_)
    · rcases List.mem_cons.mp hx with rfl | hx
      · exact hid
      · exact hv x hx
    · rcases List.mem_append.mp hx with hx | hx
      · exact hq x (List.mem_cons_of_mem _ hx) b hb
      · exact hl id a x b hid hf hx hb

/-- The search visits every action that waits in its queue. -/
theorem queue_visited {actions : List Action} {visited queue : List String} {id : String}
    {a : Action} (hq : id ∈ queue) (ha : findAction? actions id = some a) :
    id ∈ visitAll actions visited queue := by
  fun_induction visitAll actions visited queue with
  | case1 visited => exact absurd hq List.not_mem_nil
  | case2 visited x rest hs ih =>
    rcases List.mem_cons.mp hq with rfl | hq
    · exact subset_visitAll actions visited rest (List.contains_iff_mem.mp hs)
    · exact ih hq
  | case3 visited x rest _ hf ih =>
    rcases List.mem_cons.mp hq with rfl | hq
    · simp [hf] at ha
    · exact ih hq
  | case4 visited x rest _ b _ ih =>
    rcases List.mem_cons.mp hq with rfl | hq
    · exact subset_visitAll _ _ _ List.mem_cons_self
    · exact ih (List.mem_append_left _ hq)

/-- What the search has still to do: every link between actions that begins at a visited
id ends at a visited id or at one in the queue. -/
def Frontier (actions : List Action) (visited queue : List String) : Prop :=
  ∀ id ∈ visited, ∀ a, findAction? actions id = some a → ∀ target ∈ a.successors,
    ∀ b, findAction? actions target = some b → target ∈ visited ∨ target ∈ queue

/-- An id that has been visited, or stands for nothing, can leave the queue. -/
theorem Frontier.skip {actions : List Action} {visited rest : List String} {id : String}
    (hf : Frontier actions visited (id :: rest))
    (hid : id ∈ visited ∨ findAction? actions id = none) : Frontier actions visited rest := by
  intro x hx a ha target ht b hb
  rcases hf x hx a ha target ht b hb with hm | hm
  · exact .inl hm
  · rcases List.mem_cons.mp hm with rfl | hm
    · exact .inl (hid.resolve_right (by simp [hb]))
    · exact .inr hm

/-- Visiting an action puts all its links into the queue. -/
theorem Frontier.visit {actions : List Action} {visited rest : List String} {id : String}
    {a : Action} (hf : Frontier actions visited (id :: rest))
    (ha : findAction? actions id = some a) :
    Frontier actions (id :: visited) (rest ++ a.successors) := by
  intro x hx c hc target ht b hb
  rcases List.mem_cons.mp hx with rfl | hx
  · obtain rfl := Option.some.inj (hc.symm.trans ha)
    exact .inr (List.mem_append_right _ ht)
  · rcases hf x hx c hc target ht b hb with hm | hm
    · exact .inl (List.mem_cons_of_mem _ hm)
    · rcases List.mem_cons.mp hm with rfl | hm
      · exact .inl List.mem_cons_self
      · exact .inr (List.mem_append_left _ hm)

/-- The search ends with a set of ids that no link between actions leaves. -/
theorem visitAll_closed {actions : List Action} {visited queue : List String}
    (hf : Frontier actions visited queue) {id target : String} {a b : Action}
    (hid : id ∈ visitAll actions visited queue) (ha : findAction? actions id = some a)
    (ht : target ∈ a.successors) (hb : findAction? actions target = some b) :
    target ∈ visitAll actions visited queue := by
  fun_induction visitAll actions visited queue with
  | case1 visited => exact (hf id hid a ha target ht b hb).resolve_right List.not_mem_nil
  | case2 visited x rest hs ih => exact ih (hf.skip (.inl (List.contains_iff_mem.mp hs))) hid
  | case3 visited x rest _ hn ih => exact ih (hf.skip (.inr hn)) hid
  | case4 visited x rest _ c hc ih => exact ih (hf.visit hc) hid

/-- The search from the initial action visits exactly the connected ids. -/
theorem Flow.mem_reachable_iff (f : Flow) (id : String) : id ∈ f.reachable ↔ f.Connected id := by
  constructor
  · refine visitAll_sound (P := f.Connected) (fun x hx => absurd hx List.not_mem_nil) ?_ ?_ id
    · intro x hx a ha
      obtain rfl := List.mem_singleton.mp hx
      exact .initial (findAction?_eq_some_iff.mp ha)
    · intro x a target b hx ha ht hb
      exact .link hx (findAction?_eq_some_iff.mp ha) ((a.mem_successors_iff target).mp ht)
        (findAction?_eq_some_iff.mp hb)
  · intro h
    induction h with
    | initial ha => exact queue_visited List.mem_cons_self (findAction?_eq_some_iff.mpr ha)
    | link _ ha hl hb ih =>
      refine visitAll_closed (fun x hx => absurd hx List.not_mem_nil) ih
        (findAction?_eq_some_iff.mpr ha) ((Action.mem_successors_iff _ _).mpr hl)
        (findAction?_eq_some_iff.mpr hb)

end ActionFlow
