import ActionFlow.Proofs.Document.RoundTrip
import ActionFlow.Proofs.Validation.Parameters
import ActionFlow.Proofs.Validation.Requirements
import Mathlib

/-!
# Documents parsed again

The document of a flow is accepted again, and parsed as the finite part of the flow, which
is valid if the flow is. The flow itself comes back exactly when it can be stored, and then
its document validates as the flow does. A flow that cannot be stored may be refused where
its document is accepted.
-/

namespace ActionFlow

/-- The finite part of an action leads where the action leads. -/
theorem Action.successors_finitePart (a : Action) : a.finitePart.successors = a.successors := by
  obtain ⟨id, label, edges, task⟩ := a
  cases task <;> rfl

/-- The finite part of an action names what the action names. -/
theorem Action.names_finitePart_iff (a : Action) (target : String) :
    a.finitePart.Names target ↔ a.Names target := by
  have hreferenced : a.finitePart.referenced = a.referenced := by
    obtain ⟨id, label, edges, task⟩ := a
    cases task <;> rfl
  rw [← mem_referenced_iff, ← mem_referenced_iff, hreferenced]

/-- An id stands for the finite part of what it stood for. -/
theorem StandsFor.finitePart {actions : List Action} {id : String} {a : Action}
    (h : StandsFor actions id a) : StandsFor (actions.map Action.finitePart) id a.finitePart := by
  obtain ⟨hid, before, after, rfl, hafter⟩ := h
  refine ⟨hid, before.map Action.finitePart, after.map Action.finitePart, by simp, ?_⟩
  intro b hb
  obtain ⟨c, hc, rfl⟩ := List.mem_map.mp hb
  exact hafter c hc

/-- What is connected in a flow is connected in its finite part. -/
theorem Flow.Connected.finitePart {f : Flow} {id : String} (h : f.Connected id) :
    f.finitePart.Connected id := by
  induction h with
  | initial ha => exact .initial ha.finitePart
  | link _ ha hl hb ih =>
    refine .link ih ha.finitePart ?_ hb.finitePart
    rwa [← Action.mem_successors_iff, Action.successors_finitePart, Action.mem_successors_iff]

/-- The finite part of a flow has an action of an id when the flow does. -/
theorem Flow.has_finitePart_iff (f : Flow) (id : String) : f.finitePart.Has id ↔ f.Has id := by
  simp only [Has, finitePart, List.mem_map, exists_exists_and_eq_and, Action.finitePart]

/-- Only a text has a form that a kind of input asks for, and a text is its finite part. -/
theorem hasDefaultForm_finitePart (type : String) (v : Value) :
    hasDefaultForm type v.finitePart = hasDefaultForm type v := by
  cases v with
  | float x => cases h : x.isFinite <;> simp [Value.finitePart, h, hasDefaultForm,
      Value.isTextWith, Value.isUrl]
  | _ => rfl

/-- A value that equals a scalar, and whose finite part is present, is its finite part. -/
theorem Value.finitePart_of_equals {x : Scalar} {v : Value} (h : x.toValue.equals v = true)
    (hv : v.finitePart.present? = some v.finitePart) : v.finitePart = v := by
  cases v with
  | float y =>
    cases hy : y.isFinite
    · simp [finitePart, present?, hy] at hv
    · simp [finitePart, hy]
  | list items => cases x <;> simp [Scalar.toValue, equals, agrees, place?] at h
  | object fields => cases x <;> simp [Scalar.toValue, equals, agrees, place?] at h
  | _ => rfl

/-- A form parameter that passes does so in its finite part. -/
theorem Parameter.check_finitePart {id : String} {seen : List String} {p : Parameter}
    (h : p.check id seen = .ok ()) : p.finitePart.check id seen = .ok () := by
  have hdefault : p.finitePart.defaultValue = p.defaultValue.finitePart := rfl
  have hp := p.defaultValue.present?_finitePart
  obtain ⟨hname, hseen, hlabel, htype, hinput⟩ := check_eq_ok_iff.mp h
  refine check_eq_ok_iff.mpr ⟨hname, hseen, hlabel, htype, ?_⟩
  rw [show p.finitePart.type = p.type from rfl]
  split at hinput
  · next hchoice =>
    obtain ⟨hoptions, hlabels, hoffered⟩ := checkChoice_eq_ok_iff.mp hinput
    rw [if_pos hchoice]
    refine checkChoice_eq_ok_iff.mpr ⟨hoptions, hlabels, fun v hv => ?_⟩
    rw [hdefault] at hv
    rcases hp with habsent | ⟨hpresent, hfinite⟩
    · rw [habsent] at hv
      cases hv
    · obtain rfl := Option.some.inj (hfinite.symm.trans hv)
      obtain ⟨o, ho, heq⟩ := hoffered _ hpresent
      exact ⟨o, ho, by rwa [Value.finitePart_of_equals heq hfinite]⟩
  · next hchoice =>
    obtain ⟨hform, hpattern⟩ := checkInput_eq_ok_iff.mp hinput
    rw [if_neg hchoice]
    refine checkInput_eq_ok_iff.mpr ⟨fun v hv => ?_, hpattern⟩
    rw [hdefault] at hv
    rcases hp with habsent | ⟨hpresent, hfinite⟩
    · rw [habsent] at hv
      cases hv
    · obtain rfl := Option.some.inj (hfinite.symm.trans hv)
      rw [show p.finitePart.type = p.type from rfl, hasDefaultForm_finitePart]
      exact hform _ hpresent

/-- An action that is complete for its kind is so in its finite part. -/
theorem Action.check_finitePart {a : Action} (h : a.check = .ok ()) :
    a.finitePart.check = .ok () := by
  obtain ⟨id, label, edges, task⟩ := a
  cases task with
  | contractCall c =>
    unfold check checkTask at h ⊢
    dsimp only [finitePart, Task.finitePart] at h ⊢
    rwa [List.isEmpty_map]
  | http call =>
    have hparams : checkWithSeen (Parameter.check id) (·.name) [] call.params = .ok () →
        checkWithSeen (Parameter.check id) (·.name) [] (call.params.map Parameter.finitePart) =
          .ok () := by
      refine checkWithSeen_map (g := Parameter.finitePart) (fun p => rfl) fun seen p hp => ?_
      exact Parameter.check_finitePart hp
    unfold check checkTask at h ⊢
    dsimp only [finitePart, Task.finitePart] at h ⊢
    simp only [Check.bind_eq_ok_iff] at h ⊢
    obtain ⟨hlabel, hedges, hcall⟩ := h
    refine ⟨hlabel, hedges, ?_⟩
    split at hcall
    · next hplaceholder =>
      rw [if_pos hplaceholder]
      exact hparams hcall
    · next hplaceholder =>
      rw [if_neg hplaceholder]
      cases hurl : (Value.text call.endpoint).isUrl with
      | error failure =>
        rw [hurl] at hcall
        cases hcall
      | ok b =>
        rw [hurl] at hcall
        obtain ⟨hb, hcall⟩ := Check.bind_eq_ok_iff.mp hcall
        exact Check.bind_eq_ok_iff.mpr ⟨hb, hparams hcall⟩
  | transfer t => exact h
  | decision d => exact h
  | completion c => exact h

/-- A valid flow has a valid finite part. -/
theorem Flow.validated_finitePart {f : Flow} (h : f.validated = .ok f) :
    f.finitePart.validated = .ok f.finitePart := by
  have hmeets := f.validated_eq_ok_iff.mp h
  have hactions : ∀ a ∈ f.finitePart.actions, ∃ b ∈ f.actions, b.finitePart = a :=
    fun a ha => List.mem_map.mp ha
  refine f.finitePart.validated_eq_ok_iff.mpr fun r => ?_
  cases r with
  | someAction => simpa [Meets, finitePart] using hmeets .someAction
  | notTooMany => simpa [Meets, finitePart] using hmeets .notTooMany
  | initialNamed => exact hmeets .initialNamed
  | initialPresent => exact (f.has_finitePart_iff f.initial).mpr (hmeets .initialPresent)
  | ownIds =>
    obtain ⟨hids, hdistinct⟩ := hmeets .ownIds
    refine ⟨fun a ha => ?_, ?_⟩
    · obtain ⟨b, hb, rfl⟩ := hactions a ha
      exact hids b hb
    · rwa [show f.finitePart.actions = f.actions.map Action.finitePart from rfl, List.map_map]
  | linksLead =>
    intro a ha target hn
    obtain ⟨b, hb, rfl⟩ := hactions a ha
    rw [f.has_finitePart_iff]
    exact hmeets .linksLead b hb target ((b.names_finitePart_iff target).mp hn)
  | allConnected =>
    intro a ha
    obtain ⟨b, hb, rfl⟩ := hactions a ha
    exact (hmeets .allConnected b hb).finitePart
  | labelled => exact hmeets .labelled
  | actionsComplete =>
    intro a ha
    obtain ⟨b, hb, rfl⟩ := hactions a ha
    exact Action.check_finitePart (hmeets .actionsComplete b hb)

/-- What a document says of a flow is parsed as the finite part of the flow. -/
theorem Flow.parse_toValue (f : Flow) : Flow.parse f.toValue = .ok f.finitePart := by
  have hread := f.reader_toValue
  unfold toValue at hread ⊢
  unfold parse
  dsimp only
  rw [hread]
  rfl

/-- The document of a flow is parsed as the flow exactly when the flow can be stored. -/
theorem Flow.parse_document_eq_self_iff (f : Flow) :
    (∃ document, f.document = .ok document ∧ Flow.parse document = .ok f) ↔ f.Storable := by
  constructor
  · rintro ⟨document, hdocument, hparse⟩
    obtain ⟨hshallow, rfl⟩ := f.document_eq_ok_iff.mp hdocument
    rw [f.parse_toValue] at hparse
    exact ⟨f.finitePart_eq_self_iff.mp (Except.ok.inj hparse), hshallow⟩
  · intro h
    refine ⟨f.toValue, f.document_eq_ok_iff.mpr ⟨h.shallow, rfl⟩, ?_⟩
    rw [f.parse_toValue, f.finitePart_eq_self_iff.mpr h.finite]

/-- The document of a flow, if it has one, is accepted again. What it is parsed as is the
finite part of the flow, which can be stored and is valid if the flow is. It is parsed as
the flow itself exactly when the flow can be stored, and then it validates as the flow
does, whatever comes of it, and the flow that it is parsed as has the same document. -/
theorem Flow.document_round_trip (f : Flow) :
    (∀ document, f.document = .ok document →
      Flow.parse document = .ok f.finitePart ∧ f.finitePart.Storable ∧
        (f.validated = .ok f → Flow.validate document = .ok f.finitePart)) ∧
      ((∃ document, f.document = .ok document ∧ Flow.parse document = .ok f) ↔ f.Storable) ∧
      (f.Storable → ∃ document, f.document = .ok document ∧
        (∀ g, Flow.parse document = .ok g → g = f ∧ g.document = .ok document) ∧
        Flow.validate document = f.validated) := by
  refine ⟨fun document hdocument => ?_, f.parse_document_eq_self_iff, fun h => ?_⟩
  · obtain ⟨hshallow, rfl⟩ := f.document_eq_ok_iff.mp hdocument
    refine ⟨f.parse_toValue, f.storable_finitePart hshallow, fun hvalid => ?_⟩
    unfold validate
    rw [f.parse_toValue]
    exact validated_finitePart hvalid
  · obtain ⟨document, hdocument, hparse⟩ := f.parse_document_eq_self_iff.mpr h
    refine ⟨document, hdocument, fun g hg => ?_, ?_⟩
    · obtain rfl := Except.ok.inj (hg.symm.trans hparse)
      exact ⟨rfl, hdocument⟩
    · unfold validate
      rw [hparse]

/-- The small flow can be stored, and comes back from its document. -/
theorem Flow.sample_document_round_trip :
    sampleFlow.Storable ∧ sampleFlow.document = .ok sampleFlow.toValue ∧
      ∃ document, sampleFlow.document = .ok document ∧
        (∀ g, Flow.parse document = .ok g → g = sampleFlow ∧ g.document = .ok document) ∧
        Flow.validate document = sampleFlow.validated := by
  have h : sampleFlow.Storable := ⟨by decide, by decide⟩
  exact ⟨h, by rfl, sampleFlow.document_round_trip.2.2 h⟩

/-- A document with an infinite number: the usual size, which no option offers. -/
def unofferedDocument : Value :=
  .object [("label", .text "Order"), ("initialActionId", .text "send"), ("actions", .list [
    .object [("id", .text "send"), ("type", .text "http"), ("label", .text "Send"),
      ("endpoint", .text "https://example.org"),
      ("params", .list [.object [("name", .text "size"), ("label", .text "Size"),
        ("type", .text "select"), ("defaultValue", .float (.infinite false)),
        ("options", .list [.object [("label", .text "Small"), ("value", .text "small")]])]]),
      ("nextActions", .list [.object [("actionId", .text "done")]])],
    .object [("id", .text "done"), ("type", .text "completion"), ("label", .text "Done"),
      ("message", .text "Sent")]])]

/-- The flow of that document. -/
def unofferedFlow : Flow where
  label := "Order"
  initial := "send"
  actions :=
    [⟨"send", "Send", [⟨"done", []⟩],
        .http ⟨"https://example.org", "POST",
          [⟨"size", "Size", "select", false, none, none, .float (.infinite false),
            [⟨"Small", .text "small"⟩], none, none, none, none, none⟩], [], []⟩⟩,
      ⟨"done", "Done", [], .completion ⟨"Sent", "success"⟩⟩]

/-- The schema accepts a document whose flow is written to another document, one that is
parsed as a flow without a usual size. Validation accepts that document and refuses the
flow. -/
theorem Flow.document_forgets_infinity :
    Flow.parse unofferedDocument = .ok unofferedFlow ∧
      unofferedFlow.validated =
        .error (.invalid (.action "send" (.parameter "size" .defaultNotOffered))) ∧
      ∃ document, unofferedFlow.document = .ok document ∧
        Flow.parse document ≠ .ok unofferedFlow ∧
        Flow.validate document = .ok unofferedFlow.finitePart := by
  refine ⟨by rfl, by cbv, _, unofferedFlow.document_eq_ok_iff.mpr ⟨by decide, rfl⟩, ?_, ?_⟩
  · rw [Flow.parse_toValue]
    intro h
    have hdefaults := congrArg (fun f => f.actions.map (·.task.free)) (Except.ok.inj h)
    cases hdefaults
  · unfold Flow.validate
    rw [Flow.parse_toValue]
    cbv

end ActionFlow
