import ActionFlow.Proofs.Graph.Reachability
import Mathlib.Data.List.Chain
import Mathlib.Data.List.Flatten

/-!
# The search for reachable actions, round by round

The search of a flow takes one id from the front of its queue in each round. Here a round is
a relation that leaves out of the queue what has been visited already, and the routes along
which an id is reached are lists of ids. Every round lessens the work that is left, so the
search ends, and it ends with the ids of the routes: on every flow, with cycles, with links
that lead nowhere, and with ids that several actions carry.
-/

namespace ActionFlow

/-- A search under way. -/
structure Search where
  /-- The ids that have been visited, the latest one first. -/
  visited : List String
  /-- The ids that wait, the next one first. -/
  queue : List String

namespace Search

/-- The ids of a list that have not been visited. -/
def unseen (visited ids : List String) : List String := ids.filter fun id => !visited.contains id

/-- A round of the search takes the id at the front of the queue. -/
inductive Round (actions : List Action) : Search → Search → Prop where
  /-- An id that has been visited, or that no action carries, is dropped. -/
  | skip {visited rest : List String} {id : String}
    (hid : id ∈ visited ∨ ∀ a ∈ actions, a.id ≠ id) :
    Round actions ⟨visited, id :: rest⟩ ⟨visited, rest⟩
  /-- Any other id is visited, and what its action leads to waits unless it has been visited. -/
  | visit {visited rest : List String} {id : String} {a : Action} (hv : id ∉ visited)
    (ha : StandsFor actions id a) :
    Round actions ⟨visited, id :: rest⟩
      ⟨id :: visited, rest ++ unseen (id :: visited) a.successors⟩

/-- A number of rounds, one after the other. -/
inductive Rounds (actions : List Action) : Nat → Search → Search → Prop where
  /-- No round. -/
  | nil (s : Search) : Rounds actions 0 s s
  /-- A round, and others after it. -/
  | cons {n : Nat} {s t u : Search} (first : Round actions s t) (others : Rounds actions n t u) :
    Rounds actions (n + 1) s u

/-- Whether a search ends with these ids after at most so many rounds: wherever its rounds
have led, they were no more than that, and some more of them visit just these ids and leave
nothing in the queue. -/
def EndsWith (actions : List Action) (limit : Nat) (s : Search) (found : List String) : Prop :=
  ∀ n t, Rounds actions n s t → n ≤ limit ∧ ∃ m, Rounds actions m t ⟨found, []⟩

/-- The number of links of the actions that have not been visited. -/
def openLinks (actions : List Action) (visited : List String) : Nat :=
  ((actions.filter fun a => !visited.contains a.id).flatMap Action.successors).length

/-- The work that is left: the ids that wait, and the links that can still add to them. -/
def work (actions : List Action) (s : Search) : Nat := s.queue.length + openLinks actions s.visited

end Search

/-- What has not been visited after one more visit is the rest of what had not been before. -/
theorem Search.unseen_cons (id : String) (visited ids : List String) :
    unseen (id :: visited) ids = (unseen visited ids).filter (· != id) := by
  unfold unseen
  rw [List.filter_filter]
  refine List.filter_congr fun x _ => ?_
  rw [List.contains_cons, Bool.not_or]
  rfl

section Rounds

variable {actions : List Action} {visited rest : List String} {id : String}

/-- An id that has been visited is dropped. -/
theorem visitAll_cons_of_mem (hid : id ∈ visited) :
    visitAll actions visited (id :: rest) = visitAll actions visited rest := by
  rw [visitAll, dif_pos (List.contains_iff_mem.mpr hid)]

/-- An id that stands for no action is dropped. -/
theorem visitAll_cons_of_eq_none (hid : findAction? actions id = none) :
    visitAll actions visited (id :: rest) = visitAll actions visited rest := by
  rw [visitAll]
  split
  · rfl
  · split
    · rfl
    · next hfound => simp [hid] at hfound

/-- An action that has not been visited is visited, and its successors wait. -/
theorem visitAll_cons_of_eq_some {a : Action} (hv : id ∉ visited)
    (hid : findAction? actions id = some a) :
    visitAll actions visited (id :: rest) =
      visitAll actions (id :: visited) (rest ++ a.successors) := by
  rw [visitAll, dif_neg (by simpa using hv)]
  split
  · next hnone => simp [hid] at hnone
  · next b hb =>
    obtain rfl := Option.some.inj (hid.symm.trans hb)
    rfl

/-- Visited ids at the front of the queue are dropped. -/
theorem visitAll_append_of_visited {front : List String} (hf : ∀ x ∈ front, x ∈ visited) :
    visitAll actions visited (front ++ rest) = visitAll actions visited rest := by
  induction front with
  | nil => rfl
  | cons x others ih =>
    obtain ⟨hx, hothers⟩ := List.forall_mem_cons.mp hf
    rw [List.cons_append, visitAll_cons_of_mem hx, ih hothers]

/-- A queue in which the first unseen id is known begins with visited ids. -/
theorem Search.unseen_eq_cons {queue others : List String}
    (h : unseen visited queue = id :: others) :
    ∃ front back, queue = front ++ id :: back ∧ (∀ x ∈ front, x ∈ visited) ∧
      unseen visited back = others := by
  obtain ⟨front, back, hqueue, hfront, -, hback⟩ := List.filter_eq_cons_iff.mp h
  exact ⟨front, back, hqueue, by simpa using hfront, hback⟩

/-- Queues that are alike but for visited ids lead to the same visits. -/
theorem visitAll_congr {queue other : List String}
    (h : Search.unseen visited other = Search.unseen visited queue) :
    visitAll actions visited other = visitAll actions visited queue := by
  -- The unseen ids stand in the same order in both queues: each round of the one search is
  -- matched by a round of the other, after some visited ids.
  fun_induction visitAll actions visited queue generalizing other with
  | case1 visited =>
    have hv : ∀ x ∈ other, x ∈ visited := by
      simpa [Search.unseen, List.filter_eq_nil_iff] using h
    rw [← List.append_nil other, visitAll_append_of_visited hv, visitAll]
  | case2 visited id rest hs ih =>
    have hid : Search.unseen visited (id :: rest) = Search.unseen visited rest :=
      List.filter_cons_of_neg (by simpa using hs)
    exact ih (h.trans hid)
  | case3 visited id rest hs hn ih =>
    have hid : Search.unseen visited (id :: rest) = id :: Search.unseen visited rest :=
      List.filter_cons_of_pos (by simpa using hs)
    obtain ⟨front, back, rfl, hfront, hback⟩ := Search.unseen_eq_cons (h.trans hid)
    rw [visitAll_append_of_visited hfront, visitAll_cons_of_eq_none hn, ih hback]
  | case4 visited id rest hs a ha ih =>
    have hid : Search.unseen visited (id :: rest) = id :: Search.unseen visited rest :=
      List.filter_cons_of_pos (by simpa using hs)
    obtain ⟨front, back, rfl, hfront, hback⟩ := Search.unseen_eq_cons (h.trans hid)
    rw [visitAll_append_of_visited hfront, visitAll_cons_of_eq_some (by simpa using hs) ha]
    refine ih ?_
    have hrest : Search.unseen (id :: visited) back = Search.unseen (id :: visited) rest := by
      rw [Search.unseen_cons, Search.unseen_cons, hback]
    unfold Search.unseen at hrest ⊢
    rw [List.filter_append, List.filter_append, hrest]

end Rounds

namespace Search

variable {actions : List Action} {s t : Search}

/-- The links of some actions and of others are counted together. -/
theorem openLinks_append (before after : List Action) (visited : List String) :
    openLinks (before ++ after) visited = openLinks before visited + openLinks after visited := by
  rw [openLinks, List.filter_append, List.flatMap_append, List.length_append]
  rfl

/-- A visit opens no links. -/
theorem openLinks_cons_le (actions : List Action) (visited : List String) (id : String) :
    openLinks actions (id :: visited) ≤ openLinks actions visited := by
  have hsub : (actions.filter fun a => !(id :: visited).contains a.id).Sublist
      (actions.filter fun a => !visited.contains a.id) := by
    refine List.monotone_filter_right actions fun a ha => ?_
    rw [List.contains_cons, Bool.not_or, Bool.and_eq_true] at ha
    exact ha.2
  exact (hsub.flatMap Action.successors).length_le

/-- Visiting an action for the first time closes its links. -/
theorem openLinks_cons_add_le {visited : List String} {a : Action} (ha : a ∈ actions)
    (hv : a.id ∉ visited) :
    openLinks actions (a.id :: visited) + a.successors.length ≤ openLinks actions visited := by
  obtain ⟨before, after, rfl⟩ := List.append_of_mem ha
  have hbefore := openLinks_cons_le before visited a.id
  have hafter := openLinks_cons_le after visited a.id
  have hopen : openLinks [a] visited = a.successors.length := by simp [openLinks, hv]
  have hclosed : openLinks [a] (a.id :: visited) = 0 := by simp [openLinks]
  rw [← List.singleton_append, openLinks_append, openLinks_append, openLinks_append,
    openLinks_append, hopen, hclosed]
  omega

/-- A round lessens the work that is left. -/
theorem Round.work_lt (h : Round actions s t) : t.work actions < s.work actions := by
  cases h with
  | skip hid => exact Nat.add_lt_add_right (Nat.lt_succ_self _) _
  | @visit visited rest id a hv ha =>
    have hlinks := openLinks_cons_add_le ha.mem (ha.1 ▸ hv)
    have hnew := List.length_filter_le (fun x => !(id :: visited).contains x) a.successors
    rw [ha.1] at hlinks
    unfold work unseen
    rw [List.length_append, List.length_cons]
    dsimp only
    omega

/-- Rounds are no more than the work that they take from what is left. -/
theorem Rounds.add_work_le {n : Nat} (h : Rounds actions n s t) :
    n + t.work actions ≤ s.work actions := by
  induction h with
  | nil s => omega
  | cons first others ih =>
    have := first.work_lt
    omega

/-- A round leaves the ids that the search goes on to visit as they are. -/
theorem Round.visitAll_eq (h : Round actions s t) :
    visitAll actions t.visited t.queue = visitAll actions s.visited s.queue := by
  cases h with
  | skip hid =>
    rcases hid with hv | hnone
    · exact (visitAll_cons_of_mem hv).symm
    · refine (visitAll_cons_of_eq_none ?_).symm
      simpa [findAction?] using hnone
  | visit hv ha =>
    rw [visitAll_cons_of_eq_some hv (findAction?_eq_some_iff.mpr ha)]
    refine visitAll_congr ?_
    simp only [unseen, List.filter_append, List.filter_filter, Bool.and_self]

/-- Rounds leave the ids that the search goes on to visit as they are. -/
theorem Rounds.visitAll_eq {n : Nat} (h : Rounds actions n s t) :
    visitAll actions t.visited t.queue = visitAll actions s.visited s.queue := by
  induction h with
  | nil s => rfl
  | cons first others ih => rw [ih, first.visitAll_eq]

/-- While an id waits there is a round. -/
theorem exists_round (actions : List Action) (visited : List String) (id : String)
    (rest : List String) : ∃ t, Round actions ⟨visited, id :: rest⟩ t := by
  by_cases hv : id ∈ visited
  · exact ⟨_, .skip (.inl hv)⟩
  · by_cases ha : ∃ a ∈ actions, a.id = id
    · obtain ⟨a, ha⟩ := exists_standsFor_iff.mpr ha
      exact ⟨_, .visit hv ha⟩
    · exact ⟨_, .skip (.inr (by simpa using ha))⟩

/-- Rounds can be made until nothing waits, and then all that was to be visited has been. -/
theorem exists_rounds (actions : List Action) (s : Search) :
    ∃ n, Rounds actions n s ⟨visitAll actions s.visited s.queue, []⟩ := by
  -- On the work that is left, which every round lessens.
  induction hw : s.work actions using Nat.strongRecOn generalizing s with
  | ind w ih =>
    obtain ⟨visited, queue⟩ := s
    cases queue with
    | nil =>
      rw [visitAll]
      exact ⟨0, .nil _⟩
    | cons id rest =>
      obtain ⟨t, ht⟩ := exists_round actions visited id rest
      obtain ⟨n, hn⟩ := ih (t.work actions) (hw ▸ ht.work_lt) t rfl
      rw [ht.visitAll_eq] at hn
      exact ⟨n + 1, .cons ht hn⟩

/-- A search ends with what it goes on to visit, after no more rounds than there is work. -/
theorem endsWith_visitAll (actions : List Action) (s : Search) :
    EndsWith actions (s.work actions) s (visitAll actions s.visited s.queue) := by
  intro n t h
  have hwork := h.add_work_le
  obtain ⟨m, hm⟩ := exists_rounds actions t
  rw [h.visitAll_eq] at hm
  exact ⟨by omega, m, hm⟩

end Search

/-- The search visits no id twice. -/
theorem nodup_visitAll {actions : List Action} {visited queue : List String}
    (hv : visited.Nodup) : (visitAll actions visited queue).Nodup := by
  fun_induction visitAll actions visited queue with
  | case1 visited => exact hv
  | case2 visited id rest _ ih => exact ih hv
  | case3 visited id rest _ _ ih => exact ih hv
  | case4 visited id rest hs a _ ih => exact ih (List.nodup_cons.mpr ⟨by simpa using hs, hv⟩)

/-- Changes to actions that keep their ids and what they lead to keep what is visited. -/
theorem visitAll_map {change : Action → Action} (hid : ∀ a, (change a).id = a.id)
    (hnext : ∀ a, (change a).successors = a.successors) (actions : List Action)
    (visited queue : List String) :
    visitAll (actions.map change) visited queue = visitAll actions visited queue := by
  have hfind : ∀ id,
      findAction? (actions.map change) id = (findAction? actions id).map change := by
    intro id
    unfold findAction?
    rw [← List.map_reverse, List.find?_map]
    simp only [Function.comp_def, hid]
  fun_induction visitAll actions visited queue with
  | case1 visited => rw [visitAll]
  | case2 visited id rest hs ih => rw [visitAll_cons_of_mem (by simpa using hs), ih]
  | case3 visited id rest hs hn ih =>
    rw [visitAll_cons_of_eq_none (by rw [hfind, hn]; rfl), ih]
  | case4 visited id rest hs a ha ih =>
    rw [visitAll_cons_of_eq_some (a := change a) (by simpa using hs) (by rw [hfind, ha]; rfl),
      hnext, ih]

/-- An action with other edges if it is a decision, and else as it is. -/
def Action.withDecisionEdges (edges : List Edge) (a : Action) : Action :=
  match a.task with
  | .decision _ => { a with edges }
  | _ => a

/-- A finite list of ids that leads from the initial id along links. -/
structure Flow.IsRoute (f : Flow) (ids : List String) : Prop where
  /-- It begins with the initial id. -/
  begins : ids.head? = some f.initial
  /-- Every id on it is that of an action. -/
  named : ∀ id ∈ ids, ∃ a ∈ f.actions, a.id = id
  /-- The action that an id stands for links to the next id. -/
  linked : ids.IsChain fun id next => ∃ a, StandsFor f.actions id a ∧ a.LinksTo next

/-- Links lead from connected ids to connected ids. -/
theorem Flow.Connected.getLast {f : Flow} {id last : String} {ids : List String}
    (hid : f.Connected id) (hn : ∀ next ∈ ids, ∃ a ∈ f.actions, a.id = next)
    (hl : (id :: ids).IsChain fun id next => ∃ a, StandsFor f.actions id a ∧ a.LinksTo next)
    (hlast : (id :: ids).getLast? = some last) : f.Connected last := by
  induction ids generalizing id with
  | nil =>
    obtain rfl : id = last := by simpa using hlast
    exact hid
  | cons next rest ih =>
    obtain ⟨hnext, hrest⟩ := List.forall_mem_cons.mp hn
    obtain ⟨⟨a, ha, hlink⟩, hchain⟩ := List.isChain_cons_cons.mp hl
    obtain ⟨b, hb⟩ := exists_standsFor_iff.mpr hnext
    exact ih (.link hid ha hlink hb) hrest hchain (by rwa [List.getLast?_cons_cons] at hlast)

/-- The connected ids are those at the ends of routes. -/
theorem Flow.connected_iff_route (f : Flow) (id : String) :
    f.Connected id ↔ ∃ ids, f.IsRoute ids ∧ ids.getLast? = some id := by
  constructor
  · intro h
    induction h with
    | @initial a ha =>
      refine ⟨[f.initial], ⟨rfl, ?_, List.isChain_singleton _⟩, rfl⟩
      simpa using exists_standsFor_iff.mp ⟨a, ha⟩
    | @link id target a b hid ha hl hb ih =>
      obtain ⟨ids, hroute, hlast⟩ := ih
      refine ⟨ids ++ [target], ⟨?_, ?_, ?_⟩, by simp⟩
      · rw [List.head?_append, hroute.begins]
        rfl
      · intro x hx
        rcases List.mem_append.mp hx with hx | hx
        · exact hroute.named x hx
        · obtain rfl := List.mem_singleton.mp hx
          exact exists_standsFor_iff.mp ⟨b, hb⟩
      · refine hroute.linked.append (List.isChain_singleton _) fun x hx y hy => ?_
        obtain rfl : id = x := by simpa [hlast] using hx
        obtain rfl : target = y := by simpa using hy
        exact ⟨a, ha, hl⟩
  · rintro ⟨ids, hroute, hlast⟩
    cases ids with
    | nil => simp at hlast
    | cons first rest =>
      obtain rfl : first = f.initial := by simpa using hroute.begins
      obtain ⟨hfirst, hrest⟩ := List.forall_mem_cons.mp hroute.named
      obtain ⟨a, ha⟩ := exists_standsFor_iff.mpr hfirst
      exact Flow.Connected.getLast (.initial ha) hrest hroute.linked hlast

/-- Edges of decisions lead nowhere. -/
theorem Action.successors_withDecisionEdges (edges : Action → List Edge) (a : Action) :
    (a.withDecisionEdges (edges a)).successors = a.successors := by
  unfold withDecisionEdges
  split
  · next d hd => simp only [successors, hd]
  · rfl

/-- Nothing is reachable when no action carries the initial id, and only then. -/
theorem Flow.reachable_eq_nil_iff (f : Flow) :
    f.reachable = [] ↔ ∀ a ∈ f.actions, a.id ≠ f.initial := by
  constructor
  · intro h a ha hid
    obtain ⟨b, hb⟩ := exists_standsFor_iff.mpr ⟨a, ha, hid⟩
    have hmem : f.initial ∈ f.reachable := (f.mem_reachable_iff _).mpr (.initial hb)
    rw [h] at hmem
    exact List.not_mem_nil hmem
  · intro h
    have hnone : findAction? f.actions f.initial = none := by simpa [findAction?] using h
    rw [reachable, visitAll_cons_of_eq_none hnone, visitAll]

/-- The search for the reachable ids of a flow ends, on every flow: it takes no more rounds
than there are links, and one. It finds each id once, and it finds exactly the ids at the ends
of the routes from the initial id, on which every id stands for the last action that carries
it. It finds none when no action carries the initial id, and the edges of decisions change
nothing about it. -/
theorem Flow.search_finds_routes (f : Flow) :
    Search.EndsWith f.actions (1 + (f.actions.flatMap Action.successors).length)
        ⟨[], [f.initial]⟩ f.reachable ∧
      f.reachable.Nodup ∧
      (∀ id, id ∈ f.reachable ↔ ∃ ids, f.IsRoute ids ∧ ids.getLast? = some id) ∧
      (f.reachable = [] ↔ ∀ a ∈ f.actions, a.id ≠ f.initial) ∧
      ∀ edges : Action → List Edge,
        Flow.reachable { f with actions := f.actions.map fun a => a.withDecisionEdges (edges a) } =
          f.reachable := by
  refine ⟨?_, nodup_visitAll List.nodup_nil, fun id => ?_, ?_, fun edges => ?_⟩
  · simpa [Search.work, Search.openLinks, Flow.reachable] using
      Search.endsWith_visitAll f.actions ⟨[], [f.initial]⟩
  · rw [f.mem_reachable_iff, f.connected_iff_route]
  · exact f.reachable_eq_nil_iff
  · refine visitAll_map (fun a => ?_) (Action.successors_withDecisionEdges edges) _ _ _
    unfold Action.withDecisionEdges
    split <;> rfl

end ActionFlow
