import ActionFlow.Proofs.Condition.Equality
import ActionFlow.Proofs.Validation.Parameters
import ActionFlow.Proofs.Validation.Requirements

/-!
# The form definitions of valid flows

What is known of the forms of a valid flow: names that differ, labels, supported kinds of input,
and labelled options where the user selects. The usual value of a parameter that selects is looked
for among the options by an equality in which truth values count as numbers, unlike the one of
conditions. So validation takes an option for it that has the same value or, for a truth value,
the number that stands for it, and the other way round, and nothing else.
-/

namespace ActionFlow

namespace Value

variable {v w : Value}

/-- The first of two values is a truth value and the second the number that stands for it. -/
def CountsAs (v w : Value) : Prop := ∃ b, v = .bool b ∧ w.quantity? = some (truthQuantity b)

/-- One of two values is a truth value and the other the number that stands for it. -/
def Counterparts (v w : Value) : Prop := v.CountsAs w ∨ w.CountsAs v

/-- What is no truth value shows as the number that is its exact value. -/
theorem face_eq_number_iff_quantity? {q : ExactNumber} (h : v.isBool = false) :
    v.face = .number q ↔ v.quantity? = some q := by
  cases v with
  | bool b => cases h
  | float x => cases hx : x.quantity? <;> simp [face, quantity?, hx]
  | _ => simp [face, quantity?]

/-- A truth value agrees with what shows as the number that stands for it. -/
theorem bool_agrees_iff {b : Bool} :
    (Value.bool b).agrees w = true ↔ w.face = .number (truthQuantity b) := by
  have hpoint : (Extent.ofInt (if b then 1 else 0)).point = truthQuantity b := by
    have hint : (Extent.ofInt (if b then 1 else 0)).point = .ofRat ((if b then 1 else 0 : ℤ)) :=
      ExactNumber.ofUnits_mul_unitsPerOne _
    cases b <;> simpa [truthQuantity] using hint
  have hplace : (Value.bool b).place? = some (.ofInt (if b then 1 else 0)) := rfl
  rw [agrees_iff_of_place? hplace, face_eq_number_iff, Option.map_eq_some_iff, ← hpoint]
  simp [Extent.point_inj]

/-- What shows as the number that stands for a truth value agrees with it. -/
theorem agrees_bool_iff {b : Bool} (hv : v.KeysDiffer) :
    v.agrees (.bool b) = true ↔ v.face = .number (truthQuantity b) := by
  have hbool : (Value.bool b).KeysDiffer := .toValue (.bool b)
  rw [← bool_agrees_iff, agrees_iff_alike hv hbool, agrees_iff_alike hbool hv]
  exact ⟨.symm, .symm⟩

/-- A truth value counts as a number only when that is no truth value. -/
theorem CountsAs.kinds (h : v.CountsAs w) : v.isBool = true ∧ w.isBool = false := by
  obtain ⟨b, rfl, hquantity⟩ := h
  have hnumber := (w.isSome_quantity?_iff.mp (by rw [hquantity]; rfl)).1
  cases w with
  | bool c => cases hnumber
  | _ => exact ⟨rfl, rfl⟩

/-- The counterparts of a truth value are the numbers that stand for it. -/
theorem bool_counterparts_iff {b : Bool} :
    (Value.bool b).Counterparts w ↔ w.quantity? = some (truthQuantity b) := by
  have hback : ¬ w.CountsAs (.bool b) := fun h => absurd h.kinds.2 (by simp [isBool])
  unfold Counterparts
  rw [or_iff_left hback]
  simp [CountsAs]

/-- It does not matter which of two counterparts comes first. -/
theorem counterparts_comm : v.Counterparts w ↔ w.Counterparts v := or_comm

/-- Counterparts are not of one kind. -/
theorem Counterparts.isBool_ne (h : v.Counterparts w) : v.isBool ≠ w.isBool := by
  rcases h with h | h <;> simp [h.kinds]

/-- Two values are equal, with truth values counting as numbers, when they are equal without it,
or counterparts of each other. -/
theorem equals_iff (hv : v.KeysDiffer) :
    v.equals w = true ↔ v.matchesValue w = true ∨ v.Counterparts w := by
  by_cases hkinds : v.isBool = w.isBool
  · rw [or_iff_left fun h : v.Counterparts w => h.isBool_ne hkinds]
    simp [matchesValue, hkinds]
  · have hdiffer : ¬ v.matchesValue w = true := by simp [matchesValue, hkinds]
    rw [or_iff_right hdiffer, equals, Bool.and_eq_true, Bool.not_eq_true']
    cases hb : v.isBool with
    | true =>
      obtain ⟨b, rfl⟩ := isBool_eq_true_iff.mp hb
      have hw : w.isBool = false := by simpa [hb] using hkinds
      rw [bool_counterparts_iff, bool_agrees_iff, face_eq_number_iff_quantity? hw]
      exact and_iff_right rfl
    | false =>
      have hw : w.isBool = true := by simpa [hb] using hkinds
      obtain ⟨b, rfl⟩ := isBool_eq_true_iff.mp hw
      rw [counterparts_comm, bool_counterparts_iff, agrees_bool_iff hv,
        face_eq_number_iff_quantity? hb]
      exact and_iff_right_of_imp fun h => (v.isSome_quantity?_iff.mp (by rw [h]; rfl)).2

end Value

/-- A form parameter offers a value: one of its options has it. Truth values are not numbers
here. -/
def Parameter.Offers (p : Parameter) (v : Value) : Prop :=
  ∃ o ∈ p.options, o.value.toValue.matchesValue v = true

/-- A form parameter offers the counterpart of a value: one of its options has the number that
stands for it, or the truth value for which it stands. -/
def Parameter.OffersCounterpart (p : Parameter) (v : Value) : Prop :=
  ∃ o ∈ p.options, o.value.toValue.Counterparts v

/-- What is asked of the definition of a form parameter. -/
structure Parameter.IsWellFormed (p : Parameter) : Prop where
  /-- It has a name. -/
  named : p.name ≠ ""
  /-- It has a label. -/
  labelled : p.label ≠ ""
  /-- Its kind of input is supported. -/
  supported : p.type ∈ parameterTypes
  /-- If it selects, it has options. -/
  options : p.type ∈ choiceTypes → p.options ≠ []
  /-- All of them are labelled. -/
  labels : p.type ∈ choiceTypes → ∀ o ∈ p.options, o.label ≠ ""
  /-- It offers its usual value, if it has one, or the counterpart of it. -/
  usual : p.type ∈ choiceTypes → ∀ v, p.defaultValue.present? = some v →
    p.Offers v ∨ p.OffersCounterpart v

/-- An option equals a value, with truth values counting as numbers, when the value or its
counterpart is offered. -/
theorem Parameter.exists_option_equals_iff {p : Parameter} {v : Value} :
    (∃ o ∈ p.options, o.value.toValue.equals v = true) ↔ p.Offers v ∨ p.OffersCounterpart v := by
  have hoption (o : SelectOption) : o.value.toValue.equals v = true ↔
      o.value.toValue.matchesValue v = true ∨ o.value.toValue.Counterparts v :=
    Value.equals_iff (.toValue o.value)
  unfold Offers OffersCounterpart
  simp only [hoption, and_or_left, exists_or]

/-- What passes its check is well formed. -/
theorem Parameter.IsSound.isWellFormed {p : Parameter} (h : p.IsSound) : p.IsWellFormed := by
  refine ⟨h.named, h.labelled, h.known, fun hc => (h.offers hc).1, fun hc => (h.offers hc).2.1,
    fun hc v hv => ?_⟩
  have hequal := (h.offers hc).2.2 v hv
  exact exists_option_equals_iff.mp hequal

/-- A parameter that selects and is well formed passes its check. -/
theorem Parameter.IsWellFormed.isSound {p : Parameter} (h : p.IsWellFormed)
    (hc : p.type ∈ choiceTypes) : p.IsSound := by
  refine ⟨h.named, h.labelled, h.supported, fun _ => ⟨h.options hc, h.labels hc, fun v hv => ?_⟩,
    fun hinput => absurd hc hinput⟩
  exact exists_option_equals_iff.mpr (h.usual hc v hv)

/-- A value that is neither a truth value nor one of the numbers that stand for them has no
counterpart, so it is offered when it or its counterpart is. -/
theorem Parameter.offers_of_no_counterpart {p : Parameter} {v : Value}
    (h : p.Offers v ∨ p.OffersCounterpart v) (hbool : v.isBool = false)
    (hnumber : ∀ b, v.quantity? ≠ some (Value.truthQuantity b)) : p.Offers v := by
  refine h.resolve_right ?_
  rintro ⟨o, -, ⟨b, -, hquantity⟩ | hcounts⟩
  · exact hnumber b hquantity
  · have htrue := hcounts.kinds.1
    rw [hbool] at htrue
    cases htrue

/-- The form definitions of a valid flow are well formed: for every flow and every form in it, if
the flow is valid, no name stands twice, and every parameter has a name, a label and a supported
kind of input; every one that selects has options, all of them labelled, and offers its usual
value, if it has one, or the counterpart of it. So it offers a usual value of which it has no
counterpart among its options, and in particular one that is neither a truth value nor zero or
one. In any flow, a parameter that selects passes its check just when it is well formed in this way
and its name is new. -/
theorem Flow.form_definitions_offer_default_up_to_truth (f : Flow) {a : Action}
    (ha : a ∈ f.actions) {form : HttpCall} (ht : a.task = .http form) :
    (f.validated = .ok f →
      (form.params.map (·.name)).Nodup ∧ ∀ p ∈ form.params, p.IsWellFormed ∧
        (p.type ∈ choiceTypes → ∀ v, p.defaultValue.present? = some v →
          (¬ p.OffersCounterpart v → p.Offers v) ∧
          (v.isBool = false → (∀ b, v.quantity? ≠ some (Value.truthQuantity b)) →
            p.Offers v))) ∧
    ∀ p ∈ form.params, p.type ∈ choiceTypes → ∀ seen,
      (p.check a.id seen = .ok () ↔ p.IsWellFormed ∧ p.name ∉ seen) := by
  refine ⟨fun hf => ?_, fun p _ hc seen => ?_⟩
  · have hcheck := f.validated_eq_ok_iff.mp hf .actionsComplete a ha
    obtain ⟨-, -, htask⟩ := Action.check_eq_ok_iff.mp hcheck
    obtain ⟨-, hsound, hnames⟩ := (Action.checkTask_http_eq_ok_iff ht).mp htask
    refine ⟨hnames, fun p hp => ⟨(hsound p hp).isWellFormed, fun hc v hv => ?_⟩⟩
    have husual := (hsound p hp).isWellFormed.usual hc v hv
    exact ⟨husual.resolve_right, Parameter.offers_of_no_counterpart husual⟩
  · rw [Parameter.check_eq_ok_iff_isSound]
    exact and_congr_left fun _ => ⟨fun hs => hs.isWellFormed, fun hw => hw.isSound hc⟩

/-- A parameter that asks to select one of some options, with a usual value. -/
def agreeParameter (usual : Value) (options : List SelectOption) : Parameter :=
  ⟨"agree", "Agree", "select", false, none, none, usual, options, none, none, none, none, none⟩

/-- It passes its check when it has options, all of them labelled, and offers its usual value or
the counterpart of it. -/
theorem agreeParameter_isSound {usual : Value} {options : List SelectOption} (hne : options ≠ [])
    (hlabels : ∀ o ∈ options, o.label ≠ "")
    (husual : ∀ v, usual.present? = some v →
      (agreeParameter usual options).Offers v ∨
        (agreeParameter usual options).OffersCounterpart v) :
    (agreeParameter usual options).IsSound := by
  have hwell : (agreeParameter usual options).IsWellFormed :=
    ⟨by simp [agreeParameter], by simp [agreeParameter], by simp [agreeParameter, parameterTypes],
      fun _ => hne, fun _ => hlabels, fun _ => husual⟩
  exact hwell.isSound (by simp [agreeParameter, choiceTypes])

/-- A parameter that asks to select yes or no. -/
def yesOrNo : Parameter := agreeParameter (.text "yes") [⟨"Yes", .text "yes"⟩, ⟨"No", .text "no"⟩]

/-- It passes its check. -/
theorem yesOrNo_isSound : yesOrNo.IsSound := by
  refine agreeParameter_isSound (by simp) (by simp) fun v hv => .inl ?_
  obtain rfl := Option.some.inj hv
  exact ⟨_, List.mem_cons_self, by decide +kernel⟩

/-- An action that sends a form of one parameter to an endpoint. -/
def sendAction (endpoint : String) (p : Parameter) : Action :=
  ⟨"send", "Send", [⟨"done", []⟩], .http ⟨endpoint, "POST", [p], [], []⟩⟩

/-- A flow that sends such a form. -/
def askingFlow (endpoint : String) (p : Parameter) : Flow where
  label := "Order"
  initial := "send"
  actions := [sendAction endpoint p, ⟨"done", "Done", [], .completion ⟨"Sent", "success"⟩⟩]

/-- That flow is valid when the endpoint is a web address and the parameter passes its check. -/
theorem askingFlow_validated {endpoint : String} {p : Parameter}
    (hread : Format.readUrl endpoint = .ok true) (hp : p.IsSound) :
    (askingFlow endpoint p).validated = .ok (askingFlow endpoint p) := by
  have hsend : StandsFor (askingFlow endpoint p).actions "send" (sendAction endpoint p) :=
    ⟨rfl, [], _, rfl, by simp⟩
  have hdone : StandsFor (askingFlow endpoint p).actions "done" _ :=
    ⟨rfl, [_], [], rfl, by simp⟩
  have htask : (sendAction endpoint p).task = .http ⟨endpoint, "POST", [p], [], []⟩ := rfl
  have hkind : (sendAction endpoint p).kind ≠ .decision := by
    simp [sendAction, Action.kind, Task.kind]
  have hedge : ⟨"done", []⟩ ∈ (sendAction endpoint p).edges := List.mem_cons_self
  have hlinks : (sendAction endpoint p).LinksTo "done" := .edge hkind hedge
  refine (askingFlow endpoint p).validated_eq_ok_iff.mpr fun r => ?_
  cases r with
  | initialPresent => exact ⟨_, List.mem_cons_self, rfl⟩
  | ownIds => simp [Flow.Meets, OwnIds, askingFlow, sendAction]
  | linksLead => simp [Flow.Meets, Flow.Has, Action.Names, askingFlow, sendAction]
  | allConnected =>
    intro a ha
    rcases List.mem_cons.mp ha with rfl | ha
    · exact .initial hsend
    · obtain rfl := List.mem_singleton.mp ha
      exact .link (.initial hsend) hsend hlinks hdone
  | actionsComplete =>
    intro a ha
    rcases List.mem_cons.mp ha with rfl | ha
    · refine Action.check_eq_ok_iff.mpr ⟨by simp [sendAction], by simp [sendAction], ?_⟩
      exact (Action.checkTask_http_eq_ok_iff htask).mpr ⟨.inr hread, by simpa using hp, by simp⟩
    · obtain rfl := List.mem_singleton.mp ha
      rfl
  | _ => simp [Flow.Meets, askingFlow]

/-- A flow that asks to select yes or no offers its usual value. -/
theorem yes_or_no_offers_default :
    let f := askingFlow "https://example.org" yesOrNo
    f.validated = .ok f ∧ (∃ a ∈ f.actions, ∃ h, a.task = .http h ∧ yesOrNo ∈ h.params) ∧
      yesOrNo.check "send" [] = .ok () ∧ yesOrNo.Offers (.text "yes") := by
  intro f
  have hread : Format.readUrl "https://example.org" = .ok true := by decide +kernel
  have hvalid : f.validated = .ok f := askingFlow_validated hread yesOrNo_isSound
  have hc : yesOrNo.type ∈ choiceTypes := by decide
  obtain ⟨hvalidForm, hchecks⟩ :=
    Flow.form_definitions_offer_default_up_to_truth f List.mem_cons_self rfl
  obtain ⟨-, hparams⟩ := hvalidForm hvalid
  obtain ⟨hwell, hoffers⟩ := hparams yesOrNo List.mem_cons_self
  have hcheck := (hchecks yesOrNo List.mem_cons_self hc []).mpr ⟨hwell, List.not_mem_nil⟩
  have hoffer := (hoffers hc (.text "yes") rfl).2 rfl (by simp [Value.quantity?])
  exact ⟨hvalid, ⟨_, List.mem_cons_self, _, rfl, List.mem_cons_self⟩, hcheck, hoffer⟩

/-- A valid flow has a truth value as the usual value of a parameter whose only option is a
number. -/
theorem one_offers_only_counterpart_of_true :
    let p := agreeParameter (.bool true) [⟨"One", .int 1⟩]
    let f := askingFlow "https://example.org" p
    f.validated = .ok f ∧ (∃ a ∈ f.actions, ∃ h, a.task = .http h ∧ p ∈ h.params) ∧
      p.type ∈ choiceTypes ∧ p.defaultValue.present? = some (.bool true) ∧
        ¬ p.Offers (.bool true) := by
  intro p f
  have hread : Format.readUrl "https://example.org" = .ok true := by decide +kernel
  have hstands : (Value.int 1).quantity? = some (Value.truthQuantity true) := by
    simp [Value.quantity?, Value.truthQuantity]
  have hsound : p.IsSound := by
    refine agreeParameter_isSound (by simp) (by simp) fun v hv => .inr ?_
    obtain rfl := Option.some.inj hv
    exact ⟨_, List.mem_cons_self, .inr ⟨true, rfl, hstands⟩⟩
  refine ⟨askingFlow_validated hread hsound,
    ⟨_, List.mem_cons_self, _, rfl, List.mem_cons_self⟩, by decide, rfl, ?_⟩
  rintro ⟨o, ho, hequal⟩
  obtain rfl := List.mem_singleton.mp ho
  exact absurd hequal (by decide)

end ActionFlow
