import ActionFlow.Proofs.Validation.Checks

/-!
# When a form parameter passes

What the checks of a form parameter come to. A parameter that selects has labelled options,
and its usual value among them. Any other has a usual value of the form that its kind of
input asks for, and a pattern that can be read.
-/

namespace ActionFlow

/-- The refusal of a problem of a form parameter of an action. -/
def refuseParameter (id name : String) (bad : Bool) (problem : ParameterProblem) : Check :=
  refuseIf bad (.action id (.parameter name problem))

/-- A parameter that selects passes when it has options, all of them are labelled, and its
usual value, if it has one, equals that of an option. -/
theorem Parameter.checkChoice_eq_ok_iff {id name : String} {p : Parameter} :
    p.checkChoice (refuseParameter id name) = .ok () ↔
      p.options ≠ [] ∧ (∀ o ∈ p.options, o.label ≠ "") ∧
        ∀ v, p.defaultValue.present? = some v →
          ∃ o ∈ p.options, o.value.toValue.equals v = true := by
  unfold checkChoice refuseParameter
  simp only [Check.bind_eq_ok_iff, checkEach_eq_ok_iff, refuseIf_eq_ok_iff,
    List.isEmpty_eq_false_iff, beq_eq_false_iff_ne]
  refine and_congr_right fun _ => and_congr_right fun _ => ?_
  cases p.defaultValue.present? with
  | none => simp
  | some v => simp [refuseIf_eq_ok_iff]

/-- A parameter that takes input passes when its usual value, if it has one, has the form
that is asked for, and its pattern, if it has one, can be read. -/
theorem Parameter.checkInput_eq_ok_iff {id name : String} {p : Parameter} :
    p.checkInput (refuseParameter id name) = .ok () ↔
      (∀ v, p.defaultValue.present? = some v → hasDefaultForm p.type v = .ok true) ∧
        ∀ pattern, p.pattern = some pattern → pattern ≠ "" →
          Pattern.refusal? pattern.toList = none := by
  have hpattern : ∀ pattern, checkPattern (refuseParameter id name) pattern = .ok () ↔
      Pattern.refusal? pattern.toList = none := by
    intro pattern
    unfold checkPattern refuseParameter
    cases Pattern.refusal? pattern.toList with
    | none => simp
    | some refusal => cases refusal <;> simp [refuseIf]
  -- Whatever comes of the usual value, the same is asked of the pattern afterwards.
  have hafter : (∀ pattern, p.pattern = some pattern → pattern ≠ "" →
      Pattern.refusal? pattern.toList = none) ↔
      ∀ pattern, p.pattern = some pattern → pattern ≠ "" →
        checkPattern (refuseParameter id name) pattern = .ok () := by
    simp only [hpattern]
  unfold checkInput
  rw [hafter]
  cases p.defaultValue.present? with
  | none => cases p.pattern <;> simp
  | some v =>
    cases hform : hasDefaultForm p.type v with
    | error failure => simp [hform, bind, Except.bind]
    | ok b =>
      cases b with
      | false => simp [hform, bind, Except.bind, refuseParameter, refuseIf]
      | true =>
        cases p.pattern with
        | none => simp [hform, bind, Except.bind, refuseParameter, refuseIf]
        | some pattern =>
          simp [hform, bind, Except.bind, refuseParameter, refuseIf]

/-- A form parameter passes when it has a name of its own, a label and a known kind of input,
and passes as its kind asks. -/
theorem Parameter.check_eq_ok_iff {id : String} {seen : List String} {p : Parameter} :
    p.check id seen = .ok () ↔
      p.name ≠ "" ∧ p.name ∉ seen ∧ p.label ≠ "" ∧ p.type ∈ parameterTypes ∧
        (if p.type ∈ choiceTypes then p.checkChoice (refuseParameter id p.name)
          else p.checkInput (refuseParameter id p.name)) = .ok () := by
  unfold check
  dsimp only
  simp only [Check.bind_eq_ok_iff, refuseIf_eq_ok_iff, beq_eq_false_iff_ne, Bool.not_eq_false',
    List.contains_iff_mem]
  refine and_congr_right fun _ => and_congr ?_ Iff.rfl
  rw [← Bool.not_eq_true, List.contains_iff_mem]

/-- What a form parameter has to be by itself, apart from the others of its form. -/
structure Parameter.IsSound (p : Parameter) : Prop where
  /-- It has a name. -/
  named : p.name ≠ ""
  /-- It has a label. -/
  labelled : p.label ≠ ""
  /-- Its kind of input is known. -/
  known : p.type ∈ parameterTypes
  /-- If it selects, it has options, all of them are labelled, and its usual value, if it has one,
  equals that of an option. -/
  offers : p.type ∈ choiceTypes → p.options ≠ [] ∧ (∀ o ∈ p.options, o.label ≠ "") ∧
    ∀ v, p.defaultValue.present? = some v → ∃ o ∈ p.options, o.value.toValue.equals v = true
  /-- If it takes input, its usual value, if it has one, has the form that is asked for, and its
  pattern, if it has one, can be read. -/
  takes : p.type ∉ choiceTypes →
    (∀ v, p.defaultValue.present? = some v → hasDefaultForm p.type v = .ok true) ∧
      ∀ pattern, p.pattern = some pattern → pattern ≠ "" →
        Pattern.refusal? pattern.toList = none

/-- A form parameter passes when it is sound by itself and has a name of its own. -/
theorem Parameter.check_eq_ok_iff_isSound (id : String) (seen : List String) (p : Parameter) :
    p.check id seen = .ok () ↔ p.IsSound ∧ p.name ∉ seen := by
  rw [check_eq_ok_iff]
  constructor
  · rintro ⟨hname, hown, hlabel, hknown, hkind⟩
    refine ⟨⟨hname, hlabel, hknown, fun hc => ?_, fun hc => ?_⟩, hown⟩
    · rw [if_pos hc] at hkind
      exact checkChoice_eq_ok_iff.mp hkind
    · rw [if_neg hc] at hkind
      exact checkInput_eq_ok_iff.mp hkind
  · rintro ⟨h, hown⟩
    refine ⟨h.named, hown, h.labelled, h.known, ?_⟩
    split
    · next hc => exact checkChoice_eq_ok_iff.mpr (h.offers hc)
    · next hc => exact checkInput_eq_ok_iff.mpr (h.takes hc)

/-- The parameters of a form pass when all of them are sound and no name stands twice. -/
theorem checkParameters_eq_ok_iff {id : String} {params : List Parameter} :
    checkWithSeen (Parameter.check id) (·.name) [] params = .ok () ↔
      (∀ p ∈ params, p.IsSound) ∧ (params.map (·.name)).Nodup := by
  rw [checkWithSeen_eq_ok_iff (Parameter.check_eq_ok_iff_isSound id)]
  simp

/-- An action that sends a request passes when its endpoint holds a placeholder or is a web
address, and the parameters of its form pass. -/
theorem Action.checkTask_http_eq_ok_iff {a : Action} {h : HttpCall} (ht : a.task = .http h) :
    a.checkTask = .ok () ↔
      (textHasPlaceholder h.endpoint = true ∨ Format.readUrl h.endpoint = .ok true) ∧
        (∀ p ∈ h.params, p.IsSound) ∧ (h.params.map (·.name)).Nodup := by
  rw [← @checkParameters_eq_ok_iff a.id]
  unfold checkTask
  rw [ht]
  dsimp only
  cases hp : textHasPlaceholder h.endpoint with
  | true => simp
  | false =>
    rcases hu : Format.readUrl h.endpoint with fault | _ | _ <;>
      simp [Value.isUrl, hu, refuseIf, bind, Except.bind]

end ActionFlow
