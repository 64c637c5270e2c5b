import ActionFlow.Flow.Validation
import ActionFlow.Proofs.Document.RoundTrip
import ActionFlow.Proofs.Run.Calls
import ActionFlow.Run.Snapshot
import Mathlib.Data.List.Basic

/-!
# Runs taken up again

A run that is written to a document and taken up again is the same run, with the finite part
of its flow. Hence it is the same run exactly when its flow can be stored: all numbers of
its free-form values are finite, and the values have few enough levels. Only then can a run
be renewed anywhere on its way without any difference in what it answers, in what it sends
and in where it ends.
-/

namespace ActionFlow

/-- What happens to a run from outside. -/
inductive Event where
  /-- It is asked for a step, with an input. -/
  | step (input : Fields)
  /-- It is written to a document, and the run of the document takes its place. -/
  | renewal

/-- Whether an event is a step. -/
def Event.isStep : Event → Bool
  | .step _ => true
  | .renewal => false

/-- What comes of some events. -/
structure Played where
  /-- What the steps answered, in order. -/
  answers : List (Except Escape StepResult)
  /-- The run after the events. -/
  run : Run
  /-- The services after the events, which tell what they were sent. -/
  services : Services

namespace Run

/-- The run that takes the place of a run, read from the document of it. -/
def renewed (run : Run) (s : Services) : Option (Run × Services) :=
  match run.snapshot with
  | .error _ => none
  | .ok document =>
    match restore document s with
    | (.error _, _) => none
    | (.ok restored, s) => some (restored, s)

/-- The course of a run through some events, if every renewal succeeds. -/
def play (run : Run) (s : Services) : List Event → Option Played
  | [] => some ⟨[], run, s⟩
  | .step input :: rest =>
    let stepped := run.step input s
    (stepped.run.play stepped.services rest).map fun played =>
      { played with answers := stepped.answer :: played.answers }
  | .renewal :: rest => (run.renewed s).bind fun (restored, s) => restored.play s rest

/-- A fresh id is no empty text. -/
theorem freshId_isTruthy (s : Services) : (Value.text s.freshId.1).isTruthy = true := by
  have hlength : 32 ≤ (Text.hexPadded 32 (s.issued + 1)).length := by
    simp only [Text.hexPadded, List.length_append, List.length_replicate]
    omega
  have hne : Text.hexPadded 32 (s.issued + 1) ≠ [] := by
    intro h
    simp [h] at hlength
  simpa [Value.isTruthy, Services.freshId] using hne

/-- The id that a run is given is one that counts as present. -/
theorem chooseId_isTruthy (asked : Value) (s : Services) :
    (chooseId asked s).1.isTruthy = true := by
  unfold chooseId
  split
  · next h => exact h
  · exact freshId_isTruthy s

/-- An id that counts as present is kept. -/
theorem chooseId_of_isTruthy {asked : Value} (h : asked.isTruthy = true) (s : Services) :
    chooseId asked s = (asked, s) := if_pos h

/-- However a run goes on, its flow and its id stay. -/
theorem Settles.flow_id {run : Run} {a : Action} {context : Fields}
    {outcome : Except Failure StepResult} {settled : Settled}
    (h : run.Settles a context outcome settled) :
    settled.run.flow = run.flow ∧ settled.run.id = run.id := by
  cases h <;> exact ⟨rfl, rfl⟩

/-- A step keeps the flow and the id of a run. -/
theorem step_flow_id (run : Run) (input : Fields) (s : Services) :
    (run.step input s).run.flow = run.flow ∧ (run.step input s).run.id = run.id := by
  exact step_of_settles (P := fun after => after.flow = run.flow ∧ after.id = run.id) ⟨rfl, rfl⟩
    (fun _ _ _ _ hset => hset.flow_id) input s

/-- Calls keep the flow and the id of a run. -/
theorem afterCalls_flow_id (run : Run) (calls : List Call) :
    (run.afterCalls calls).flow = run.flow ∧ (run.afterCalls calls).id = run.id := by
  refine afterCalls_induction (P := fun after => after.flow = run.flow ∧ after.id = run.id) ?_
    ⟨rfl, rfl⟩ calls
  intro after input s h
  obtain ⟨hflow, hid⟩ := after.step_flow_id input s
  exact ⟨hflow.trans h.1, hid.trans h.2⟩

end Run

/-- A history is read back. -/
theorem readHistory_toValue (history : List StepResult) :
    readHistory (history.map StepResult.toValue) = .ok history := by
  induction history with
  | nil => rfl
  | cons r rest ih =>
    rw [List.map_cons, readHistory, r.reader_toValue, ih]
    rfl

/-- The word of a phase is read as the phase. -/
theorem phaseOf_word (phase : Phase) : phaseOf (.text phase.word) = .ok phase := by
  cases phase <;> rfl

namespace Run

variable {run : Run}

/-- The document of a run is taken up as the run, with the finite part of its flow. -/
theorem restore_snapshotOf (hid : run.id.isTruthy = true) (s : Services) :
    restore (run.snapshotOf run.flow.toValue) s =
      (.ok { run with flow := run.flow.finitePart }, s) := by
  obtain ⟨flow, id, context, history, current, phase⟩ := run
  unfold snapshotOf restore
  dsimp only
  generalize hfields : [("runId", id), ("flow", flow.toValue), ("state", .text phase.word),
    ("currentNodeId", current), ("context", context),
    ("history", .list (history.map StepResult.toValue))] = fields
  have hflow : flowOf fields = .ok flow.finitePart := by
    have hget : Keyed.get? fields "flow" = some flow.toValue := by rw [← hfields]; rfl
    unfold flowOf
    rw [hget]
    dsimp only
    rw [flow.reader_toValue]
    rfl
  have hparts : restoreParts flow.finitePart id fields =
      .ok ⟨flow.finitePart, id, context, history, current, phase⟩ := by
    have hhistory : Keyed.get? fields "history" =
        some (.list (history.map StepResult.toValue)) := by rw [← hfields]; rfl
    have hphase : Keyed.get? fields "state" = some (.text phase.word) := by rw [← hfields]; rfl
    have hcontext : Keyed.get? fields "context" = some context := by rw [← hfields]; rfl
    have hcurrent : Keyed.get? fields "currentNodeId" = some current := by rw [← hfields]; rfl
    unfold restoreParts
    rw [hhistory, hphase, hcontext, hcurrent]
    simp only [Option.getD_some, historyOf, Value.members?, readHistory_toValue, phaseOf_word]
  have hrunId : Keyed.get? fields "runId" = some id := by rw [← hfields]; rfl
  rw [hflow, hrunId]
  dsimp only [Option.getD_some]
  rw [chooseId_of_isTruthy hid]
  dsimp only
  rw [hparts]

/-- A run has a document exactly when the free-form values of its flow have few enough
levels. -/
theorem snapshot_eq_ok_iff {document : Value} :
    run.snapshot = .ok document ↔
      (∀ a ∈ run.flow.actions, a.task.freeLevels ≤ deepestFreeForm) ∧
        document = run.snapshotOf run.flow.toValue := by
  unfold snapshot
  constructor
  · intro h
    obtain ⟨flow, hflow, rfl⟩ := map_eq_ok h
    obtain ⟨hshallow, rfl⟩ := run.flow.document_eq_ok_iff.mp hflow
    exact ⟨hshallow, rfl⟩
  · rintro ⟨hshallow, rfl⟩
    rw [run.flow.document_eq_ok_iff.mpr ⟨hshallow, rfl⟩]
    rfl

/-- A run with the finite part of its flow is the same run exactly when all numbers of
free-form values are finite. -/
theorem finitePart_eq_self_iff :
    { run with flow := run.flow.finitePart } = run ↔
      ∀ a ∈ run.flow.actions, ∀ v ∈ a.task.free, v.isFinite = true := by
  rw [← run.flow.finitePart_eq_self_iff]
  exact ⟨fun h => congrArg flow h, fun h => by rw [h]⟩

/-- A run is renewed to itself exactly when its flow can be stored. -/
theorem renewed_eq_self_iff (hid : run.id.isTruthy = true) (s : Services) :
    run.renewed s = some (run, s) ↔ run.flow.Storable := by
  unfold renewed
  cases hsnapshot : run.snapshot with
  | error fault =>
    refine ⟨nofun, fun h => ?_⟩
    rw [snapshot_eq_ok_iff.mpr ⟨h.shallow, rfl⟩] at hsnapshot
    cases hsnapshot
  | ok document =>
    obtain ⟨hshallow, rfl⟩ := snapshot_eq_ok_iff.mp hsnapshot
    dsimp only
    rw [restore_snapshotOf hid]
    simp only [Option.some.injEq, Prod.mk.injEq, and_true]
    rw [finitePart_eq_self_iff]
    exact ⟨fun h => ⟨h, hshallow⟩, fun h => h.finite⟩

/-- A run is taken up from its document as it is exactly when its flow can be stored. -/
theorem restored_eq_self_iff (hid : run.id.isTruthy = true) :
    (∃ document, run.snapshot = .ok document ∧ ∀ s, restore document s = (.ok run, s)) ↔
      run.flow.Storable := by
  constructor
  · rintro ⟨document, hsnapshot, hrestore⟩
    refine (renewed_eq_self_iff hid .quiet).mp ?_
    unfold renewed
    rw [hsnapshot]
    dsimp only
    rw [hrestore]
  · intro h
    refine ⟨_, snapshot_eq_ok_iff.mpr ⟨h.shallow, rfl⟩, fun s => ?_⟩
    rw [restore_snapshotOf hid, finitePart_eq_self_iff.mpr h.finite]

/-- In a run of a flow that can be stored renewals make no difference. -/
theorem play_filter_isStep (hid : run.id.isTruthy = true) (h : run.flow.Storable)
    (s : Services) (events : List Event) :
    run.play s events = run.play s (events.filter Event.isStep) := by
  induction events generalizing run s with
  | nil => rfl
  | cons event rest ih =>
    cases event with
    | step input =>
      obtain ⟨hflow, hsame⟩ := run.step_flow_id input s
      have hid' : (run.step input s).run.id.isTruthy = true := hsame ▸ hid
      have hrest := ih hid' (hflow ▸ h) (run.step input s).services
      rw [List.filter_cons_of_pos rfl, play, play, hrest]
    | renewal =>
      rw [List.filter_cons_of_neg Bool.false_ne_true, play, (renewed_eq_self_iff hid s).mpr h]
      exact ih hid h s

/-- Renewals make no difference to a run exactly when its flow can be stored. -/
theorem play_eq_iff (hid : run.id.isTruthy = true) :
    (∀ s events, run.play s events = run.play s (events.filter Event.isStep)) ↔
      run.flow.Storable := by
  refine ⟨fun h => ?_, fun h s events => play_filter_isStep hid h s events⟩
  have hrenewal : (run.renewed .quiet).bind (fun (restored, s) => restored.play s []) =
      some ⟨[], run, .quiet⟩ := h .quiet [.renewal]
  obtain ⟨⟨restored, s⟩, hrenewed, hplay⟩ := Option.bind_eq_some_iff.mp hrenewal
  obtain ⟨-, rfl, rfl⟩ := Played.mk.inj (Option.some.inj hplay)
  exact (renewed_eq_self_iff hid .quiet).mp hrenewed

end Run

/-- Wherever a run has come to, it is taken up from its document with the finite part of its
flow. It is taken up as it is exactly when its flow can be stored, and exactly then no
renewals on the way, however many, change what it answers, what it sends and how it ends. -/
theorem Run.renewal_invisible_iff (f : Flow) (context : Fields) (asked : Value) (s : Services)
    (calls : List Call) :
    let run := (Run.begin f context asked s).1.afterCalls calls
    (∀ document, run.snapshot = .ok document → ∀ s,
        Run.restore document s = (.ok { run with flow := f.finitePart }, s)) ∧
      ((∃ document, run.snapshot = .ok document ∧
        ∀ s, Run.restore document s = (.ok run, s)) ↔ f.Storable) ∧
      ((∀ s events, run.play s events = run.play s (events.filter Event.isStep)) ↔
        f.Storable) := by
  intro run
  obtain ⟨hflow, hsame⟩ := (Run.begin f context asked s).1.afterCalls_flow_id calls
  have hid : run.id.isTruthy = true := by
    rw [hsame]
    exact Run.chooseId_isTruthy asked s
  have hf : run.flow = f := hflow
  rw [← hf]
  refine ⟨fun document hdocument s => ?_, Run.restored_eq_self_iff hid, Run.play_eq_iff hid⟩
  obtain ⟨-, rfl⟩ := Run.snapshot_eq_ok_iff.mp hdocument
  exact Run.restore_snapshotOf hid s

/-- A valid flow that cannot be stored: it calls a contract with an infinite argument. -/
def boundlessFlow : Flow where
  label := "Boundless"
  initial := "pay"
  actions :=
    [⟨"pay", "Pay", [⟨"done", []⟩],
        .contractCall ⟨"0x0000000000000000000000000000000000000000", [[]], "pay",
          ⟨"fuji", none⟩, none, [.float (.infinite false)]⟩⟩,
      ⟨"done", "Done", [], .completion ⟨"Paid", "success"⟩⟩]

/-- A renewal changes what the contract is called with: null in place of the infinite
argument. -/
theorem Run.renewal_loses_infinity :
    let run := Run.start boundlessFlow [] (.text "r")
    boundlessFlow.validated = .ok boundlessFlow ∧
      ∃ document restored, run.snapshot = .ok document ∧
        Run.restore document .quiet = (.ok restored, .quiet) ∧ restored.flow ≠ run.flow ∧
        (run.step [] .quiet).services.exchanges = [.request (.contractCall
          ⟨"0x0000000000000000000000000000000000000000", "pay",
            .list [.float (.infinite false)], ⟨"fuji", none⟩, .null⟩)] ∧
        (restored.step [] .quiet).services.exchanges = [.request (.contractCall
          ⟨"0x0000000000000000000000000000000000000000", "pay",
            .list [.null], ⟨"fuji", none⟩, .null⟩)] := by
  refine ⟨by cbv, _, _, Run.snapshot_eq_ok_iff.mpr ⟨by decide, rfl⟩,
    Run.restore_snapshotOf rfl .quiet, ?_, ?_, ?_⟩
  · intro h
    have hactions := congrArg (fun f => f.actions.map (·.task.free)) h
    cases hactions
  · rfl
  · rfl

end ActionFlow
