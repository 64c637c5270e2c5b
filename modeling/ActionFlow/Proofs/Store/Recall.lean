import ActionFlow.Proofs.Document.Reread
import ActionFlow.Proofs.Run.Legible
import ActionFlow.Store.Basic

/-!
# What comes back of flows and runs

A store keeps JSON texts of documents. The text of a legible document is read back as the
document. Hence a flow comes back with the finite part of its free-form values, and a run with
that of its flow; everything else is as it was, but for where a value that is no number was
found.
-/

namespace ActionFlow

/-- Bytes that begin with two ASCII characters are taken as UTF-8. -/
theorem Text.Encoding.ofBytes_ascii {a b : Nat} (ha : 0 < a) (hascii : a < 0x80) (hb : 0 < b)
    (rest : List Nat) : Encoding.ofBytes (a :: b :: rest) = .utf8 := by
  unfold ofBytes
  split <;> simp_all

/-- A text that begins with a brace and a quotation mark is read back as it is. -/
theorem Text.readBack_object (rest : List Char) :
    readBack (String.ofList ('\x7b' :: '"' :: rest)) = .ok ('\x7b' :: '"' :: rest) := by
  have hbytes : (String.ofList ('\x7b' :: '"' :: rest)).toUTF8.data.toList.map UInt8.toNat =
      0x7B :: 0x22 :: (rest.flatMap String.utf8EncodeChar).map UInt8.toNat := by
    unfold String.toUTF8
    rw [String.toByteArray_ofList, List.utf8Encode, List.toList_data_toByteArray]
    rfl
  unfold readBack
  dsimp only
  rw [hbytes, Encoding.ofBytes_ascii (by decide) (by decide) (by decide)]
  dsimp only
  rw [String.toList_ofList]

namespace Store

/-- The JSON text of a legible object that is not empty is read back. -/
theorem documentOf_write {key : String} {v : Value} {rest : Fields}
    (h : (Value.object ((key, v) :: rest)).isLegible = true) :
    documentOf (some (Json.write (.object ((key, v) :: rest)))) =
      .ok (some (Value.object ((key, v) :: rest)).reread) := by
  obtain ⟨others, hchars⟩ : ∃ others,
      Json.writeChars (.object ((key, v) :: rest)) = '\x7b' :: '"' :: others := by
    cases rest with
    | nil => exact ⟨_, rfl⟩
    | cons next rest => exact ⟨_, rfl⟩
  have hread := Json.readChars_writeChars h
  have hne : Json.write (.object ((key, v) :: rest)) ≠ "" := by
    intro hempty
    have hnil := congrArg String.toList hempty
    rw [Json.write, String.toList_ofList, hchars] at hnil
    cases hnil
  unfold documentOf
  dsimp only
  rw [if_neg hne]
  unfold Json.write
  rw [hchars] at hread ⊢
  rw [Text.readBack_object]
  dsimp only
  rw [hread]

end Store

open Store

/-- What comes back of a flow that is kept as the JSON text of its document. -/
def Flow.recalled (f : Flow) : Except Fault (Option Flow) :=
  readFlow (documentOf (some (Json.write f.toValue)))

namespace Run

/-- The document of a run, if its flow has one. -/
def toValue (run : Run) : Value := run.snapshotOf run.flow.toValue

/-- What comes back of the snapshot of a run that is kept as a JSON text. -/
def recalledSnapshot (run : Run) : Except Fault (Option Value) :=
  documentOf (some (Json.write run.toValue))

/-- What comes back of a run whose snapshot is kept as a JSON text. -/
def recalled (run : Run) (s : Services) : Except Fault (Option Run) × Services :=
  readRun run.recalledSnapshot s

end Run

/-- The document of a flow that can be read back comes back as its finite part. -/
theorem Flow.recalled_eq {f : Flow} (h : f.toValue.isLegible = true) :
    f.recalled = .ok (some f.reread.finitePart) := by
  have hfound : documentOf (some (Json.write f.toValue)) = .ok (some f.reread.toValue) := by
    rw [f.toValue_reread]
    exact documentOf_write h
  unfold recalled readFlow
  rw [hfound]
  dsimp only
  rw [f.reread.reader_toValue]
  rfl

/-- A value counts as present when it is read back as one that does. -/
theorem Value.isTruthy_reread (v : Value) : v.reread.isTruthy = v.isTruthy := by
  cases v with
  | float x => cases x <;> rfl
  | list items => cases items <;> rfl
  | object fields => cases fields <;> rfl
  | _ => rfl

namespace Run

/-- A run as it is read back when the document of its flow leaves nothing out. -/
def reread (run : Run) : Run :=
  { run with
    flow := run.flow.reread
    id := run.id.reread
    context := run.context.reread
    history := run.history.map StepResult.reread
    current := run.current.reread }

/-- The document of a run is read back as that of the run as it is read back. -/
theorem toValue_reread (run : Run) : run.reread.toValue = run.toValue.reread := by
  have hhistory := Value.rereadItems_map (fun r => (StepResult.toValue_reread r).symm) run.history
  unfold toValue snapshotOf reread
  simp only [Value.reread, Value.rereadFields, hhistory, Flow.toValue_reread]

variable {run : Run}

/-- The snapshot of a legible run comes back as it is. -/
theorem recalledSnapshot_eq (h : run.IsLegible) :
    run.recalledSnapshot = .ok (some run.reread.toValue) := by
  rw [run.toValue_reread]
  exact documentOf_write h.snapshotOf

/-- A document that restores a run is read as that run. -/
theorem readRun_of_restore {document : Value} (hne : document ≠ .null) {s s' : Services}
    (h : restore document s = (.ok run, s')) :
    readRun (.ok (some document)) s = (.ok (some run), s') := by
  unfold readRun
  split
  · next heq => cases heq
  · next heq => cases heq
  · next heq => exact absurd (Option.some.inj (Except.ok.inj heq)) hne
  · next heq =>
    obtain rfl := Option.some.inj (Except.ok.inj heq)
    rw [h]

/-- A legible run comes back with the finite part of its flow. -/
theorem recalled_eq (h : run.IsLegible) (hid : run.id.isTruthy = true) (s : Services) :
    run.recalled s =
      (.ok (some { run.reread with flow := run.flow.reread.finitePart }), s) := by
  have hsame : run.reread.id.isTruthy = true := run.id.isTruthy_reread.trans hid
  have hrestored : restore run.reread.toValue s =
      (.ok { run.reread with flow := run.flow.reread.finitePart }, s) :=
    restore_snapshotOf hsame s
  unfold recalled
  rw [recalledSnapshot_eq h]
  exact readRun_of_restore (fun hnull => Value.noConfusion hnull) hrestored

end Run

end ActionFlow
