import ActionFlow.Proofs.Store.Recall
import ActionFlow.Proofs.Validation.Requirements
import Mathlib.Logic.Function.Basic

/-!
# The store as two maps

A store answers every sequence of operations as two independent maps do, one from ids to flows
and one from ids to runs: its keys keep the ids, and the two kinds, apart. What comes back of a
flow or of a run is read from the JSON text of its document. This is the flow or the run itself,
but for where a value that is no number was found, exactly when all numbers of the flow's
free-form values are finite.
-/

namespace ActionFlow

namespace Store

/-- What can be asked of a store. -/
inductive Op where
  /-- To keep a flow under an id. -/
  | storeFlow (id : String) (flow : Flow)
  /-- To give the flow under an id. -/
  | getFlow (id : String)
  /-- To keep a run under its id. -/
  | storeRun (run : Run)
  /-- To take up the run under an id. -/
  | loadRun (id : String)
  /-- To give the snapshot of the run under an id. -/
  | getSnapshot (id : String)
  /-- To forget the run under an id. -/
  | deleteRun (id : String)

/-- What a store answers. -/
inductive Answer where
  /-- What was asked is done. -/
  | done
  /-- What was to be kept has no document. -/
  | refused (fault : DocumentFault)
  /-- A flow, if there is one. -/
  | flow (found : Except Fault (Option Flow))
  /-- A run, if there is one. -/
  | run (found : Except Fault (Option Run))
  /-- A snapshot, if there is one. -/
  | snapshot (found : Except Fault (Option Value))

/-- What comes of an operation on something that keeps flows and runs. -/
structure Performed (Keeper : Type) where
  /-- The answer. -/
  answer : Answer
  /-- What keeps the flows and runs from now on. -/
  keeper : Keeper
  /-- The services after the operation. -/
  services : Services

/-- A store that keeps nothing. -/
def empty : Store := ⟨[], []⟩

/-- An operation on a store. -/
def perform (store : Store) (s : Services) : Op → Performed Store
  | .storeFlow id flow =>
    match store.storeFlow id flow with
    | .ok store => ⟨.done, store, s⟩
    | .error fault => ⟨.refused fault, store, s⟩
  | .getFlow id =>
    let (found, store) := store.getFlow id
    ⟨.flow found, store, s⟩
  | .storeRun run =>
    match store.storeRun run with
    | .ok store => ⟨.done, store, s⟩
    | .error fault => ⟨.refused fault, store, s⟩
  | .loadRun id =>
    let (found, store, s) := store.loadRun id s
    ⟨.run found, store, s⟩
  | .getSnapshot id =>
    let (found, store) := store.getSnapshot id
    ⟨.snapshot found, store, s⟩
  | .deleteRun id => ⟨.done, store.deleteRun id, s⟩

/-- What a store answers to some operations, one after the other. -/
def answers (store : Store) (s : Services) : List Op → List Answer
  | [] => []
  | op :: rest =>
    let performed := store.perform s op
    performed.answer :: performed.keeper.answers performed.services rest

end Store

open Store

/-- Two independent maps, of which one knows flows by their ids and one knows runs. -/
structure Shelves where
  /-- The flow under an id. -/
  flows : String → Option Flow
  /-- The run under an id. -/
  runs : String → Option Run

namespace Shelves

/-- Maps that know nothing. -/
def empty : Shelves := ⟨fun _ => none, fun _ => none⟩

/-- An operation on two maps. What has no document is not kept. -/
def perform (shelves : Shelves) (s : Services) : Op → Performed Shelves
  | .storeFlow id flow =>
    match flow.document with
    | .ok _ =>
      ⟨.done, { shelves with flows := Function.update shelves.flows id (some flow) }, s⟩
    | .error fault => ⟨.refused fault, shelves, s⟩
  | .getFlow id =>
    match shelves.flows id with
    | some flow => ⟨.flow flow.recalled, shelves, s⟩
    | none => ⟨.flow (.ok none), shelves, s⟩
  | .storeRun run =>
    match run.flow.document with
    | .ok _ =>
      ⟨.done, { shelves with runs := Function.update shelves.runs run.id.display (some run) }, s⟩
    | .error fault => ⟨.refused fault, shelves, s⟩
  | .loadRun id =>
    match shelves.runs id with
    | some run => ⟨.run (run.recalled s).1, shelves, (run.recalled s).2⟩
    | none => ⟨.run (.ok none), shelves, s⟩
  | .getSnapshot id =>
    match shelves.runs id with
    | some run => ⟨.snapshot run.recalledSnapshot, shelves, s⟩
    | none => ⟨.snapshot (.ok none), shelves, s⟩
  | .deleteRun id => ⟨.done, { shelves with runs := Function.update shelves.runs id none }, s⟩

/-- What two maps answer to some operations, one after the other. -/
def answers (shelves : Shelves) (s : Services) : List Op → List Answer
  | [] => []
  | op :: rest =>
    let performed := shelves.perform s op
    performed.answer :: performed.keeper.answers performed.services rest

end Shelves

namespace Store

/-- The key of a flow tells its id. -/
theorem flowKey_inj {id other : String} : flowKey id = flowKey other ↔ id = other := by
  unfold flowKey
  rw [String.append_left_inj, String.append_right_inj]

/-- The key of a run tells its id. -/
theorem runKey_inj {id other : String} : runKey id = runKey other ↔ id = other := by
  unfold runKey
  rw [String.append_left_inj, String.append_right_inj]

/-- No key of a flow is one of a run. -/
theorem flowKey_ne_runKey (id other : String) : flowKey id ≠ runKey other := by
  intro h
  unfold flowKey runKey at h
  have hchars := congrArg String.toList h
  simp only [String.append_assoc, String.toList_append] at hchars
  have hhead : 'f' = 'r' := (List.cons.inj hchars).1
  exact absurd hhead (by decide)

/-- A store holds what two maps know. -/
structure Holds (store : Store) (shelves : Shelves) : Prop where
  /-- Under the keys of flows it has the texts of their documents. -/
  flows : ∀ id, store.entries.get? (flowKey id) =
    (shelves.flows id).map fun flow => Json.write flow.toValue
  /-- Under the keys of runs it has the texts of their snapshots. -/
  runs : ∀ id, store.entries.get? (runKey id) =
    (shelves.runs id).map fun run => Json.write run.toValue

section Holds

variable {store : Store} {shelves : Shelves}

/-- What was asked of the memory does not matter. -/
theorem Holds.look (h : store.Holds shelves) (key : String) :
    (store.look key).2.Holds shelves := ⟨h.flows, h.runs⟩

/-- A flow that is kept is known under its id, and nothing else changes. -/
theorem Holds.putFlow (h : store.Holds shelves) (id : String) (flow : Flow) :
    (store.put (flowKey id) flow.toValue).Holds
      { shelves with flows := Function.update shelves.flows id (some flow) } := by
  constructor
  · intro other
    by_cases hid : other = id
    · subst hid
      simp only [put, Keyed.get?_set_self, Function.update_self, Option.map_some]
    · have hkey : flowKey other ≠ flowKey id := fun hkey => hid (flowKey_inj.mp hkey)
      simp only [put, Keyed.get?_set_of_ne _ _ hkey, Function.update_of_ne hid, h.flows]
  · intro other
    have hkey : runKey other ≠ flowKey id := (flowKey_ne_runKey id other).symm
    simp only [put, Keyed.get?_set_of_ne _ _ hkey, h.runs]

/-- A run that is kept is known under its id, and nothing else changes. -/
theorem Holds.putRun (h : store.Holds shelves) (id : String) (run : Run) :
    (store.put (runKey id) run.toValue).Holds
      { shelves with runs := Function.update shelves.runs id (some run) } := by
  constructor
  · intro other
    simp only [put, Keyed.get?_set_of_ne _ _ (flowKey_ne_runKey other id), h.flows]
  · intro other
    by_cases hid : other = id
    · subst hid
      simp only [put, Keyed.get?_set_self, Function.update_self, Option.map_some]
    · have hkey : runKey other ≠ runKey id := fun hkey => hid (runKey_inj.mp hkey)
      simp only [put, Keyed.get?_set_of_ne _ _ hkey, Function.update_of_ne hid, h.runs]

/-- A run that is forgotten is no longer known, and nothing else changes. -/
theorem Holds.deleteRun (h : store.Holds shelves) (id : String) :
    (store.deleteRun id).Holds
      { shelves with runs := Function.update shelves.runs id none } := by
  constructor
  · intro other
    simp only [Store.deleteRun, Keyed.get?_erase_of_ne _ (flowKey_ne_runKey other id), h.flows]
  · intro other
    by_cases hid : other = id
    · subst hid
      simp only [Store.deleteRun, Keyed.get?_erase_self, Function.update_self, Option.map_none]
    · have hkey : runKey other ≠ runKey id := fun hkey => hid (runKey_inj.mp hkey)
      simp only [Store.deleteRun, Keyed.get?_erase_of_ne _ hkey, Function.update_of_ne hid, h.runs]

/-- A store that holds what two maps know answers as they do, and holds what they know then. -/
theorem Holds.perform (h : store.Holds shelves) (s : Services) (op : Op) :
    (store.perform s op).answer = (shelves.perform s op).answer ∧
      (store.perform s op).services = (shelves.perform s op).services ∧
      (store.perform s op).keeper.Holds (shelves.perform s op).keeper := by
  cases op with
  | storeFlow id flow =>
    unfold Store.perform Shelves.perform storeFlow
    dsimp only
    cases hdocument : flow.document with
    | error fault => exact ⟨rfl, rfl, h⟩
    | ok document =>
      obtain ⟨-, rfl⟩ := flow.document_eq_ok_iff.mp hdocument
      exact ⟨rfl, rfl, h.putFlow id flow⟩
  | getFlow id =>
    have hentry := h.flows id
    unfold Store.perform Shelves.perform getFlow Store.look
    dsimp only
    rw [hentry]
    cases shelves.flows id with
    | none => exact ⟨rfl, rfl, h.look (flowKey id)⟩
    | some flow => exact ⟨rfl, rfl, h.look (flowKey id)⟩
  | storeRun run =>
    unfold Store.perform Shelves.perform storeRun Run.snapshot
    dsimp only
    cases hdocument : run.flow.document with
    | error fault => exact ⟨rfl, rfl, h⟩
    | ok document =>
      obtain ⟨-, rfl⟩ := run.flow.document_eq_ok_iff.mp hdocument
      exact ⟨rfl, rfl, h.putRun run.id.display run⟩
  | loadRun id =>
    have hentry := h.runs id
    unfold Store.perform Shelves.perform loadRun getSnapshot Store.look
    dsimp only
    rw [hentry]
    cases shelves.runs id with
    | none => exact ⟨rfl, rfl, h.look (runKey id)⟩
    | some run => exact ⟨rfl, rfl, h.look (runKey id)⟩
  | getSnapshot id =>
    have hentry := h.runs id
    unfold Store.perform Shelves.perform getSnapshot Store.look
    dsimp only
    rw [hentry]
    cases shelves.runs id with
    | none => exact ⟨rfl, rfl, h.look (runKey id)⟩
    | some run => exact ⟨rfl, rfl, h.look (runKey id)⟩
  | deleteRun id => exact ⟨rfl, rfl, h.deleteRun id⟩

/-- A store that holds what two maps know answers to all operations as they do. -/
theorem Holds.answers (h : store.Holds shelves) (s : Services) (ops : List Op) :
    store.answers s ops = shelves.answers s ops := by
  induction ops generalizing store shelves s with
  | nil => rfl
  | cons op rest ih =>
    obtain ⟨hanswer, hservices, hholds⟩ := h.perform s op
    unfold Store.answers Shelves.answers
    dsimp only
    rw [hanswer, hservices, ih hholds]

end Holds

/-- A store that keeps nothing holds what maps know that know nothing. -/
theorem holds_empty : Store.empty.Holds Shelves.empty := ⟨fun _ => rfl, fun _ => rfl⟩

end Store

/-- A store that keeps nothing at first answers every sequence of operations as two independent
maps do, whatever the ids, the flows and the runs are. What the maps give back of a flow that can
be read back is the flow, but for where a value that is no number was found and for null in place
of each number that is not finite in its free-form values. What they give back of a run that was
begun and called with nothing but what can be read back is the run, with that flow. Hence exactly
the flows whose free-form values have finite numbers alone come back as they were, and so do
their runs. -/
theorem Store.answers_as_maps (s : Services) (ops : List Op) :
    Store.empty.answers s ops = Shelves.empty.answers s ops ∧
      (∀ f : Flow, f.toValue.isLegible = true →
        f.recalled = .ok (some f.reread.finitePart) ∧
          (f.recalled = .ok (some f.reread) ↔
            ∀ a ∈ f.actions, ∀ v ∈ a.task.free, v.isFinite = true)) ∧
      ∀ (f : Flow) (context : Fields) (asked : Value) (begun : Services) (calls : List Call),
        f.toValue.isLegible = true → (Value.object context).isLegible = true →
        asked.isLegible = true → (∀ call ∈ calls, call.IsLegible) →
        let run := (Run.begin f context asked begun).1.afterCalls calls
        run.recalledSnapshot = .ok (some run.reread.toValue) ∧
          run.recalled s = (.ok (some { run.reread with flow := f.reread.finitePart }), s) ∧
          (run.recalled s = (.ok (some run.reread), s) ↔
            ∀ a ∈ f.actions, ∀ v ∈ a.task.free, v.isFinite = true) := by
  refine ⟨Store.holds_empty.answers s ops, fun f hf => ?_, ?_⟩
  · have hrecalled := Flow.recalled_eq hf
    refine ⟨hrecalled, ?_⟩
    rw [hrecalled, ← f.finitePart_reread_eq_iff]
    simp only [Except.ok.injEq, Option.some.injEq]
  · intro f context asked begun calls hf hcontext hasked hcalls run
    have hlegible : run.IsLegible :=
      (Run.begin_isLegible hf hcontext hasked begun).afterCalls hcalls
    obtain ⟨hflow, hsame⟩ := (Run.begin f context asked begun).1.afterCalls_flow_id calls
    have hid : run.id.isTruthy = true := hsame ▸ Run.chooseId_isTruthy asked begun
    have hreread : run.reread.flow = f.reread := congrArg Flow.reread hflow
    have hrecalled := Run.recalled_eq hlegible hid s
    rw [show run.flow = f from hflow] at hrecalled
    refine ⟨Run.recalledSnapshot_eq hlegible, hrecalled, ?_⟩
    rw [hrecalled, ← f.finitePart_reread_eq_iff, ← hreread]
    simp only [Prod.mk.injEq, Except.ok.injEq, Option.some.injEq, and_true]
    exact ⟨fun h => congrArg Run.flow h, fun h => by rw [h]⟩

/-- A run that was asked a question, answered and kept comes back as it was. -/
theorem Store.sampleFlow_run_recalled :
    let calls : List Call := [⟨[], .quiet⟩, ⟨[("userChoice", .text "yes")], .quiet⟩]
    let run := (Run.begin sampleFlow [] (.text "r:1") .quiet).1.afterCalls calls
    run.recalled .quiet = (.ok (some run.reread), .quiet) := by
  have hlegible : sampleFlow.toValue.isLegible = true := by decide
  have hfinite : ∀ a ∈ sampleFlow.actions, ∀ v ∈ a.task.free, v.isFinite = true := by decide
  intro calls
  have hquiet : Services.quiet.ReplyLegibly :=
    Services.replyLegibly_of_scripted rfl rfl nofun nofun
  have hcalls : ∀ call ∈ calls, call.IsLegible := by
    intro call hcall
    rcases List.mem_pair.mp hcall with rfl | rfl
    · exact ⟨rfl, hquiet⟩
    · exact ⟨rfl, hquiet⟩
  exact ((Store.answers_as_maps .quiet []).2.2 sampleFlow [] (.text "r:1") .quiet calls
    hlegible rfl rfl hcalls).2.2.mpr hfinite

/-- A flow that calls a contract with an infinite argument comes back as one that calls it with
null, and so does a run of it. -/
theorem Store.answers_forget_infinity :
    let run := Run.start boundlessFlow [] (.text "r")
    ∃ flow, Store.empty.answers .quiet
        [.storeFlow "f" boundlessFlow, .getFlow "f", .storeRun run, .loadRun "r"] =
          [.done, .flow (.ok (some flow)), .done, .run (.ok (some { run with flow := flow }))] ∧
      flow ≠ boundlessFlow.reread ∧
      (run.step [] .quiet).services.exchanges = [.request (.contractCall
        ⟨"0x0000000000000000000000000000000000000000", "pay",
          .list [.float (.infinite false)], ⟨"fuji", none⟩, .null⟩)] ∧
      (({ run with flow := flow } : Run).step [] .quiet).services.exchanges =
        [.request (.contractCall ⟨"0x0000000000000000000000000000000000000000", "pay",
          .list [.null], ⟨"fuji", none⟩, .null⟩)] := by
  intro run
  have hlegible : boundlessFlow.toValue.isLegible = true := by decide
  have hrun : run.IsLegible := ⟨hlegible, rfl, rfl, nofun, rfl⟩
  have hanswers : Store.empty.answers .quiet
      [.storeFlow "f" boundlessFlow, .getFlow "f", .storeRun run, .loadRun "r"] =
        [.done, .flow boundlessFlow.recalled, .done, .run (run.recalled .quiet).1] := by
    have hdocument : boundlessFlow.document = .ok boundlessFlow.toValue :=
      boundlessFlow.document_eq_ok_iff.mpr ⟨by decide, rfl⟩
    have hflow : run.flow = boundlessFlow := rfl
    have hid : run.id.display = "r" := rfl
    rw [Store.holds_empty.answers]
    simp only [Shelves.answers, Shelves.perform, hdocument, hflow, hid, Function.update_self]
  refine ⟨boundlessFlow.reread.finitePart, ?_, fun h => ?_, rfl, rfl⟩
  · rw [hanswers, Flow.recalled_eq hlegible, Run.recalled_eq hrun rfl]
    rfl
  · have hfree := congrArg (fun flow => flow.actions.map (·.task.free)) h
    cases hfree

end ActionFlow
