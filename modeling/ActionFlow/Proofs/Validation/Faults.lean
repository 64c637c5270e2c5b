import ActionFlow.Proofs.Validation.Parameters
import ActionFlow.Proofs.Validation.Requirements

/-!
# Validation that ends without a verdict

Validation accepts a document or reports a problem, save for two readers that it hands texts
to. The reader of web addresses faults at misplaced brackets and hidden dividers, and the
reader of patterns refuses some patterns for a limit of its own instead of a fault of form. It
is told here exactly when that happens: at the first action that is not complete, when
everything before the text in question is in order.
-/

namespace ActionFlow

/-- The end of a validation that is no problem of the flow. -/
def ValidationFailure.IsFault : ValidationFailure → Prop
  | .invalid _ => False
  | .unreadableUrl _ => True
  | .beyondPattern _ => True

/-- A text of a form parameter, up to which the parameter is in order, cannot be read. -/
inductive Parameter.Faults (p : Parameter) : ValidationFailure → Prop where
  /-- The usual value of a web address faults. -/
  | default {s : String} {fault : Format.UrlFault} (type : p.type = "url")
    (value : p.defaultValue = .text s) (read : Format.readUrl s = .error fault) :
    p.Faults (.unreadableUrl fault)
  /-- The pattern of a parameter that takes input is beyond a limit. -/
  | pattern {s : String} {limit : Pattern.Limit} (takes : p.type ∉ choiceTypes)
    (default : ∀ v, p.defaultValue.present? = some v → hasDefaultForm p.type v = .ok true)
    (pattern : p.pattern = some s) (read : Pattern.refusal? s.toList = some (.beyond limit)) :
    p.Faults (.beyondPattern limit)

/-- A text of a request, up to which the request is in order, cannot be read. -/
inductive HttpCall.Faults (h : HttpCall) : ValidationFailure → Prop where
  /-- The endpoint, which is no template, faults. -/
  | endpoint {fault : Format.UrlFault} (fixed : textHasPlaceholder h.endpoint = false)
    (read : Format.readUrl h.endpoint = .error fault) : h.Faults (.unreadableUrl fault)
  /-- A parameter faults. -/
  | parameter {before after : List Parameter} {p : Parameter} {failure : ValidationFailure}
    (endpoint : textHasPlaceholder h.endpoint = true ∨ Format.readUrl h.endpoint = .ok true)
    (split : h.params = before ++ p :: after) (sound : ∀ q ∈ before, q.IsSound)
    (distinct : (before.map (·.name)).Nodup) (named : p.name ≠ "")
    (own : p.name ∉ before.map (·.name)) (labelled : p.label ≠ "")
    (known : p.type ∈ parameterTypes) (faults : p.Faults failure) : h.Faults failure

/-- A text of an action, up to which the action is complete, cannot be read. -/
structure Action.Faults (a : Action) (failure : ValidationFailure) : Prop where
  /-- It has a label. -/
  labelled : a.label ≠ ""
  /-- All conditions of its edges have fields. -/
  fields : ∀ e ∈ a.edges, ∀ c ∈ e.conditions, c.field ≠ ""
  /-- It sends a request, one of whose texts faults. -/
  call : ∃ h, a.task = .http h ∧ h.Faults failure

/-- A text of a flow, up to which the flow is valid, cannot be read. -/
structure Flow.Faults (f : Flow) (failure : ValidationFailure) : Prop where
  /-- The flow meets every requirement but the last. -/
  meets : ∀ r, r ≠ .actionsComplete → f.Meets r
  /-- An action faults, and all before it are complete. -/
  action : ∃ before a after, f.actions = before ++ a :: after ∧
    (∀ b ∈ before, b.check = .ok ()) ∧ a.Faults failure

section Checks

variable {failure : ValidationFailure}

/-- A fault is no problem of the flow. -/
theorem ValidationFailure.IsFault.ne_invalid (hf : failure.IsFault) (problem : FlowProblem) :
    .invalid problem ≠ failure := by
  rintro rfl
  exact hf

/-- What is refused for a problem does not fault. -/
theorem refuseIf_ne_fault (hf : failure.IsFault) (bad : Bool) (problem : FlowProblem) :
    refuseIf bad problem ≠ .error failure :=
  refuseIf_ne_error (hf.ne_invalid problem).symm bad

/-- A value of a form that is asked for faults only as a web address that cannot be read. -/
theorem hasDefaultForm_eq_error_iff {type : String} {v : Value} :
    hasDefaultForm type v = .error failure ↔
      type = "url" ∧ ∃ s fault, v = .text s ∧ Format.readUrl s = .error fault ∧
        failure = .unreadableUrl fault := by
  unfold hasDefaultForm
  split
  · simp
  · cases v with
    | text s =>
      cases hu : Format.readUrl s with
      | ok b => simp [Value.isUrl, hu]
      | error fault => simp [Value.isUrl, hu, eq_comm]
    | _ => simp [Value.isUrl]
  · simp
  · next hne _ =>
    constructor
    · intro h
      cases h
    · rintro ⟨htype, -⟩
      exact absurd htype hne

/-- A pattern faults when it is beyond a limit. -/
theorem checkPattern_eq_fault_iff (hf : failure.IsFault) {id name pattern : String} :
    checkPattern (refuseParameter id name) pattern = .error failure ↔
      ∃ limit, Pattern.refusal? pattern.toList = some (.beyond limit) ∧
        failure = .beyondPattern limit := by
  unfold checkPattern refuseParameter
  cases Pattern.refusal? pattern.toList with
  | none => simp
  | some refusal =>
    cases refusal with
    | malformed fault position => simp [refuseIf_ne_fault hf]
    | beyond limit => simp [eq_comm]

/-- A parameter that selects from options reports nothing but problems of a parameter. -/
theorem Parameter.checkChoice_ne_error {id name : String} {p : Parameter}
    (hrefuse : ∀ bad problem, refuseParameter id name bad problem ≠ .error failure) :
    p.checkChoice (refuseParameter id name) ≠ .error failure := by
  unfold checkChoice
  refine Check.bind_ne_error (hrefuse _ _) (Check.bind_ne_error ?_ ?_)
  · exact checkEach_ne_error (fun _ => hrefuse _ _) p.options
  · split
    · exact nofun
    · exact hrefuse _ _

/-- The empty pattern can be read. -/
theorem refusal?_nil : Pattern.refusal? [] = none := by rfl

/-- A parameter that takes input faults at its usual value or, when that is in order, at its
pattern. -/
theorem Parameter.faults_iff {p : Parameter} (ht : p.type ∉ choiceTypes) :
    p.Faults failure ↔
      (∃ v, p.defaultValue.present? = some v ∧ hasDefaultForm p.type v = .error failure) ∨
        (∀ v, p.defaultValue.present? = some v → hasDefaultForm p.type v = .ok true) ∧
          ∃ s limit, p.pattern = some s ∧ Pattern.refusal? s.toList = some (.beyond limit) ∧
            failure = .beyondPattern limit := by
  constructor
  · rintro (⟨type, value, read⟩ | ⟨takes, default, pattern, read⟩)
    · refine .inl ⟨_, by rw [value]; rfl, ?_⟩
      exact hasDefaultForm_eq_error_iff.mpr ⟨type, _, _, rfl, read, rfl⟩
    · exact .inr ⟨default, _, _, pattern, read, rfl⟩
  · rintro (⟨v, hv, hform⟩ | ⟨hdefault, s, limit, hpattern, hread, rfl⟩)
    · obtain ⟨htype, s, fault, rfl, hread, rfl⟩ := hasDefaultForm_eq_error_iff.mp hform
      refine .default htype ?_ hread
      cases hd : p.defaultValue <;> simp [hd, Value.present?] at hv
      rw [hv]
    · exact .pattern ht hdefault hpattern hread

/-- A parameter that takes input faults in its check when one of its texts cannot be read. -/
theorem Parameter.checkInput_eq_fault_iff (hf : failure.IsFault) {id name : String}
    {p : Parameter} (ht : p.type ∉ choiceTypes) :
    p.checkInput (refuseParameter id name) = .error failure ↔ p.Faults failure := by
  -- Whatever comes of the usual value, the same is asked of the pattern afterwards.
  have hpattern : (∃ s limit, p.pattern = some s ∧
      Pattern.refusal? s.toList = some (.beyond limit) ∧ failure = .beyondPattern limit) ↔
      ∃ s, p.pattern = some s ∧ s ≠ "" ∧
        checkPattern (refuseParameter id name) s = .error failure := by
    simp only [checkPattern_eq_fault_iff hf]
    constructor
    · rintro ⟨s, limit, hp, hread, rfl⟩
      refine ⟨s, hp, fun hs => ?_, limit, hread, rfl⟩
      rw [hs, String.toList_empty, refusal?_nil] at hread
      cases hread
    · rintro ⟨s, hp, -, limit, hread, rfl⟩
      exact ⟨s, limit, hp, hread, rfl⟩
  have hskip : ∀ s, (if s = "" then .ok () else checkPattern (refuseParameter id name) s) =
      .error failure ↔ s ≠ "" ∧ checkPattern (refuseParameter id name) s = .error failure := by
    intro s
    by_cases hs : s = "" <;> simp [hs]
  rw [faults_iff ht, hpattern]
  unfold checkInput
  cases p.defaultValue.present? with
  | none => cases p.pattern <;> simp [hskip]
  | some v =>
    cases hform : hasDefaultForm p.type v with
    | error own => simp [hform, bind, Except.bind]
    | ok b =>
      cases b with
      | false => simp [hform, bind, Except.bind, refuseParameter, refuseIf, hf.ne_invalid]
      | true =>
        cases p.pattern with
        | none => simp [hform, bind, Except.bind, refuseParameter, refuseIf]
        | some pattern =>
          simpa [hform, bind, Except.bind, refuseParameter, refuseIf] using hskip pattern

/-- A parameter that takes input reports nothing but problems of a parameter, and faults. -/
theorem Parameter.checkInput_ne_error {id name : String} {p : Parameter}
    (hrefuse : ∀ bad problem, refuseParameter id name bad problem ≠ .error failure)
    (hf : ¬failure.IsFault) : p.checkInput (refuseParameter id name) ≠ .error failure := by
  have hbeyond : ∀ pattern, checkPattern (refuseParameter id name) pattern ≠ .error failure := by
    intro pattern
    unfold checkPattern
    split
    · exact nofun
    · exact hrefuse _ _
    · rintro ⟨⟩
      exact hf trivial
  have hpattern : ∀ pattern, (if pattern = "" then .ok () else
      checkPattern (refuseParameter id name) pattern) ≠ .error failure := by
    intro pattern
    split
    · exact nofun
    · exact hbeyond pattern
  unfold checkInput
  cases p.defaultValue.present? with
  | none =>
    cases p.pattern with
    | none => exact nofun
    | some pattern => exact hpattern pattern
  | some v =>
    dsimp only
    cases hform : hasDefaultForm p.type v with
    | error own =>
      rintro ⟨⟩
      obtain ⟨-, s, fault, -, -, rfl⟩ := hasDefaultForm_eq_error_iff.mp hform
      exact hf trivial
    | ok good =>
      refine Check.bind_ne_error (hrefuse _ _) ?_
      cases p.pattern with
      | none => exact nofun
      | some pattern => exact hpattern pattern

/-- A parameter reports nothing but problems of a parameter, and faults. -/
theorem Parameter.check_ne_error {id : String} {seen : List String} {p : Parameter}
    (hproblem : ∀ problem, failure ≠ .invalid (.action id (.parameter p.name problem)))
    (hf : ¬failure.IsFault) : p.check id seen ≠ .error failure := by
  have hrefuse : ∀ bad problem, refuseParameter id p.name bad problem ≠ .error failure :=
    fun bad problem => refuseIf_ne_error (hproblem problem) bad
  unfold check
  refine Check.bind_ne_error (hrefuse _ _) (Check.bind_ne_error (hrefuse _ _)
    (Check.bind_ne_error (hrefuse _ _) (Check.bind_ne_error (hrefuse _ _) ?_)))
  split
  · exact checkChoice_ne_error hrefuse
  · exact checkInput_ne_error hrefuse hf

/-- A parameter faults in its check when it has a name of its own, a label and a known kind of
input, and one of its texts cannot be read. -/
theorem Parameter.check_eq_fault_iff (hf : failure.IsFault) {id : String} {seen : List String}
    {p : Parameter} :
    p.check id seen = .error failure ↔
      p.name ≠ "" ∧ p.name ∉ seen ∧ p.label ≠ "" ∧ p.type ∈ parameterTypes ∧
        p.Faults failure := by
  have hkind : (if p.type ∈ choiceTypes then p.checkChoice (refuseParameter id p.name)
      else p.checkInput (refuseParameter id p.name)) = .error failure ↔ p.Faults failure := by
    by_cases ht : p.type ∈ choiceTypes
    · rw [if_pos ht]
      refine ⟨fun h => absurd h (checkChoice_ne_error fun bad _ => refuseIf_ne_fault hf bad _), ?_⟩
      rintro (⟨type, -, -⟩ | ⟨takes, -, -, -⟩)
      · exact absurd (type ▸ ht) (by decide)
      · exact absurd ht takes
    · rw [if_neg ht]
      exact checkInput_eq_fault_iff hf ht
  unfold check
  simp only [Check.bind_eq_error_iff, refuseIf_ne_fault hf, false_or, refuseIf_eq_ok_iff,
    beq_eq_false_iff_ne, Bool.not_eq_false', List.contains_iff_mem]
  refine and_congr_right fun _ => and_congr ?_
    (and_congr_right fun _ => and_congr_right fun _ => ?_)
  · rw [← Bool.not_eq_true, List.contains_iff_mem]
  · exact hkind

/-- The chains of an action report nothing but that one of them is not supported. -/
theorem Chains.check_ne_error {id : String}
    (h : ∀ chain, failure ≠ .invalid (.action id (.unsupportedChain chain))) (chains : Chains) :
    chains.check id ≠ .error failure :=
  checkEach_ne_error (fun chain => refuseIf_ne_error (h chain) _) _

/-- A request faults in its check at its endpoint or, when that is in order, at the first
parameter that is not. -/
theorem HttpCall.faults_iff (hf : failure.IsFault) (id : String) {h : HttpCall} :
    h.Faults failure ↔
      textHasPlaceholder h.endpoint = false ∧ (Value.text h.endpoint).isUrl = .error failure ∨
        (textHasPlaceholder h.endpoint = true ∨ Format.readUrl h.endpoint = .ok true) ∧
          checkWithSeen (Parameter.check id) (·.name) [] h.params = .error failure := by
  simp only [checkWithSeen_eq_error_iff, checkParameters_eq_ok_iff,
    Parameter.check_eq_fault_iff hf, List.append_nil, List.mem_reverse]
  constructor
  · rintro (⟨fixed, read⟩ |
      ⟨endpoint, split, sound, distinct, named, own, labelled, known, faults⟩)
    · exact .inl ⟨fixed, by simp [Value.isUrl, read]⟩
    · exact .inr ⟨endpoint, _, _, _, split, ⟨sound, distinct⟩, named, own, labelled, known, faults⟩
  · rintro (⟨fixed, read⟩ |
      ⟨endpoint, _, _, _, split, ⟨sound, distinct⟩, named, own, labelled, known, faults⟩)
    · cases hu : Format.readUrl h.endpoint with
      | ok b => simp [Value.isUrl, hu] at read
      | error fault =>
        obtain rfl : .unreadableUrl fault = failure := by simpa [Value.isUrl, hu] using read
        exact .endpoint fixed hu
    · exact .parameter endpoint split sound distinct named own labelled known faults

/-- The endpoint of a request and then its parameters are checked. -/
theorem HttpCall.checkTask_eq_fault_iff (hf : failure.IsFault) {a : Action} {h : HttpCall}
    (ht : a.task = .http h) : a.checkTask = .error failure ↔ h.Faults failure := by
  rw [faults_iff hf a.id]
  unfold Action.checkTask
  rw [ht]
  dsimp only
  by_cases hp : textHasPlaceholder h.endpoint = true
  · simp [hp]
  · rw [if_neg hp]
    rw [Bool.not_eq_true] at hp
    cases hu : Format.readUrl h.endpoint with
    | error fault => simp [hp, Value.isUrl, hu, bind, Except.bind]
    | ok b =>
      have hrefuse := fun bad problem => refuseIf_ne_fault hf bad (.action a.id problem)
      cases b with
      | false => simp [hp, Value.isUrl, hu, bind, Except.bind, refuseIf, hf.ne_invalid]
      | true => simp [hp, Value.isUrl, hu, bind, Except.bind, refuseIf]

/-- A task that is no request does not fault. -/
theorem Action.checkTask_ne_fault (hf : failure.IsFault) {a : Action}
    (hk : ∀ h, a.task ≠ .http h) : a.checkTask ≠ .error failure := by
  have hrefuse := fun bad problem => refuseIf_ne_fault hf bad (.action a.id problem)
  unfold checkTask
  cases ht : a.task with
  | http h => exact absurd ht (hk h)
  | decision d =>
    refine Check.bind_ne_error (hrefuse _ _) (Check.bind_ne_error (hrefuse _ _) ?_)
    exact checkWithSeen_ne_error
      (fun _ _ => Check.bind_ne_error (hrefuse _ _) (hrefuse _ _)) _ _
  | completion c =>
    exact Check.bind_ne_error (hrefuse _ _) (Check.bind_ne_error (hrefuse _ _) (hrefuse _ _))
  | contractCall c =>
    refine Check.bind_ne_error (hrefuse _ _) (Check.bind_ne_error (hrefuse _ _) ?_)
    exact Check.bind_ne_error (hrefuse _ _)
      (c.chains.check_ne_error fun _ => (hf.ne_invalid _).symm)
  | transfer t =>
    have hrest : (do
        refuseIf (lacksAmount t.amount) (.action a.id .noPositiveAmount)
        t.chains.check a.id) ≠ .error failure :=
      Check.bind_ne_error (hrefuse _ _) (t.chains.check_ne_error fun _ => (hf.ne_invalid _).symm)
    dsimp only
    split
    · exact hrest
    · exact Check.bind_ne_error (hrefuse _ _) hrest

/-- Of all tasks only a request faults, and when one of its texts cannot be read. -/
theorem Action.checkTask_eq_fault_iff (hf : failure.IsFault) {a : Action} :
    a.checkTask = .error failure ↔ ∃ h, a.task = .http h ∧ h.Faults failure := by
  by_cases hk : ∃ h, a.task = .http h
  · obtain ⟨h, ht⟩ := hk
    rw [HttpCall.checkTask_eq_fault_iff hf ht, ht]
    simp
  · have hnone : ∀ h, a.task ≠ .http h := fun h ht => hk ⟨h, ht⟩
    exact iff_of_false (checkTask_ne_fault hf hnone) fun ⟨h, ht, _⟩ => hnone h ht

/-- An action faults in its check when it has a label, its conditions have fields, and it is a
request one of whose texts cannot be read. -/
theorem Action.check_eq_fault_iff (hf : failure.IsFault) {a : Action} :
    a.check = .error failure ↔ a.Faults failure := by
  have hfields := checkEach_ne_error (fun edge : Edge => checkEach_ne_error (fun c : Condition =>
    refuseIf_ne_fault hf (c.field == "") (.action a.id (.conditionWithoutField edge.target)))
    edge.conditions) a.edges
  unfold check
  simp only [Check.bind_eq_error_iff, refuseIf_ne_fault hf, hfields, false_or,
    refuseIf_eq_ok_iff, beq_eq_false_iff_ne, checkEach_eq_ok_iff, checkTask_eq_fault_iff hf]
  exact ⟨fun ⟨labelled, fields, call⟩ => ⟨labelled, fields, call⟩,
    fun h => ⟨h.labelled, h.fields, h.call⟩⟩

/-- What is reported of a requirement is a problem of the flow, save for that all actions are
complete. -/
theorem Flow.Reports.not_isFault {f : Flow} {r : Requirement} (h : f.Reports failure r)
    (hr : r ≠ .actionsComplete) : ¬ failure.IsFault := by
  cases r with
  | actionsComplete => exact absurd rfl hr
  | ownIds =>
    obtain ⟨before, a, after, -, -, ⟨-, rfl⟩ | ⟨-, -, rfl⟩⟩ := h <;> exact id
  | linksLead =>
    obtain ⟨before, a, after, -, -, led, target, rest, -, -, -, rfl⟩ := h
    exact id
  | _ =>
    obtain rfl := h
    exact id

/-- The checks of a flow fault when it meets every requirement up to its actions, and one of
these faults before any has a problem. -/
theorem Flow.check_eq_fault_iff (hf : failure.IsFault) {f : Flow} :
    f.check = .error failure ↔ f.Faults failure := by
  have hother : ∀ r, r ≠ .actionsComplete → ¬ f.checkOf r = .error failure := fun r hr he =>
    ((f.checkOf_eq_error_iff r failure).mp he).2.not_isFault hr hf
  have hactions : f.checkOf .actionsComplete = .error failure ↔ ∃ before a after,
      f.actions = before ++ a :: after ∧ (∀ b ∈ before, b.check = .ok ()) ∧ a.Faults failure := by
    simp only [checkOf, checkEach_eq_error_iff, Action.check_eq_fault_iff hf]
  rw [f.check_eq_checkEach]
  simp only [Requirement.all, checkEach, Check.bind_eq_error_iff, f.checkOf_eq_ok_iff, hactions,
    ne_eq, reduceCtorEq, not_false_eq_true, hother, false_or, and_false, or_false]
  constructor
  · rintro ⟨h1, h2, h3, h4, h5, h6, h7, h8, haction⟩
    refine ⟨fun r hr => ?_, haction⟩
    cases r <;> first | assumption | exact absurd rfl hr
  · rintro ⟨meets, haction⟩
    refine ⟨meets _ ?_, meets _ ?_, meets _ ?_, meets _ ?_, meets _ ?_, meets _ ?_, meets _ ?_,
      meets _ ?_, haction⟩ <;> decide

end Checks

end ActionFlow
