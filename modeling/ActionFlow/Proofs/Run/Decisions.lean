import ActionFlow.Proofs.Run.Recording
import ActionFlow.Proofs.Run.Restoration

/-!
# Choices at decisions

A decision looks at nothing but the choice that the input of the step carries; null and the
empty text are no choices. Without a choice it asks again, whatever the context holds. A
choice takes the option of that value, so that every option can be taken except one whose
value is the empty text, which validation lets pass. Each choice answers at most one
decision: a run never has more successes at decisions than there were calls with a choice.
-/

namespace ActionFlow

/-- An input carries a choice: under the key of the choice stands something that is neither
null nor the empty text. -/
def CarriesChoice (input : Fields) : Prop :=
  ∃ choice, Keyed.get? input choiceKey = some choice ∧ choice ≠ .null ∧ choice ≠ .text ""

/-- What an input chooses is what stands under the key, unless that is no choice. -/
theorem choiceOf?_eq_some_iff {input : Fields} {choice : Value} :
    choiceOf? input = some choice ↔
      Keyed.get? input choiceKey = some choice ∧ choice ≠ .null ∧ choice ≠ .text "" := by
  unfold choiceOf?
  rw [Option.filter_eq_some_iff]
  refine and_congr_right fun _ => ?_
  cases choice <;> simp

/-- An input carries a choice when it chooses something. -/
theorem isSome_choiceOf?_iff (input : Fields) :
    (choiceOf? input).isSome = true ↔ CarriesChoice input := by
  rw [Option.isSome_iff_exists]
  exact exists_congr fun _ => choiceOf?_eq_some_iff

instance (input : Fields) : Decidable (CarriesChoice input) :=
  decidable_of_iff _ (isSome_choiceOf?_iff input)

/-- Without a choice a decision asks the user. -/
theorem Decision.answer_of_not_carriesChoice (d : Decision) (id : String) {input : Fields}
    (h : ¬ CarriesChoice input) : d.answer id input = .waits id d.question := by
  have hnone : choiceOf? input = none := by
    rwa [← Option.not_isSome_iff_eq_none, isSome_choiceOf?_iff]
  unfold answer
  rw [hnone]

/-- A decision succeeds only with a choice. -/
theorem Decision.carriesChoice_of_success {d : Decision} {id : String} {input : Fields}
    (h : (d.answer id input).status = .success) : CarriesChoice input := by
  by_contra hc
  rw [d.answer_of_not_carriesChoice id hc] at h
  cases h

/-- Among options of different values, an option is the one that its value chooses. -/
theorem find?_isChosen {options : List Choice} (hn : (options.map (·.value)).Nodup)
    {o : Choice} (ho : o ∈ options) : options.find? (Choice.isChosen (.text o.value)) = some o := by
  induction options with
  | nil => cases ho
  | cons first rest ih =>
    obtain ⟨hfirst, hrest⟩ := List.nodup_cons.mp hn
    rcases List.mem_cons.mp ho with rfl | ho
    · rw [List.find?_cons_of_pos (by simp [Choice.isChosen])]
    · have hvalue : o.value ∈ rest.map (·.value) := List.mem_map_of_mem ho
      have hne : first.value ≠ o.value := fun he => hfirst (by rwa [← he] at hvalue)
      rw [List.find?_cons_of_neg (by simpa [Choice.isChosen] using hne), ih hrest ho]

/-- What a decision answers to the choice of one of its options. -/
def Choice.answer (o : Choice) (id : String) : StepResult :=
  ⟨id, .success, .object [("choice", .text o.value), ("selectedOption", .text o.label)], none,
    some o.target⟩

/-- Among options of different values, the value of an option, if it is a choice at all, takes
that option. -/
theorem Decision.answer_of_option {d : Decision} (hn : (d.options.map (·.value)).Nodup)
    {o : Choice} (ho : o ∈ d.options) (hne : o.value ≠ "") (id : String) {input : Fields}
    (hi : Keyed.get? input choiceKey = some (.text o.value)) : d.answer id input = o.answer id := by
  have hchoice : choiceOf? input = some (.text o.value) :=
    choiceOf?_eq_some_iff.mpr ⟨hi, Value.noConfusion, fun he => hne (Value.text.inj he)⟩
  unfold answer
  rw [hchoice]
  dsimp only
  rw [find?_isChosen hn ho]
  rfl

/-- An option of a decision is refused when it has no label, or the value of one before it. -/
theorem optionCheck_eq_ok_iff (id : String) (seen : List String) (o : Choice) :
    (do refuseIf (o.label == "") (.action id .optionWithoutLabel)
        refuseIf (seen.contains o.value) (.action id (.duplicateOption o.value)) : Check) = .ok () ↔
      o.label ≠ "" ∧ o.value ∉ seen := by
  rw [Check.bind_eq_ok_iff, refuseIf_eq_ok_iff, refuseIf_eq_ok_iff]
  simp

/-- The options of a decision that passes its check have different values. -/
theorem Action.optionValues_nodup {a : Action} {d : Decision} (hc : a.check = .ok ())
    (ht : a.task = .decision d) : (d.options.map (·.value)).Nodup := by
  obtain ⟨-, -, htask⟩ := check_eq_ok_iff.mp hc
  unfold checkTask at htask
  rw [ht] at htask
  dsimp only at htask
  rw [Check.bind_eq_ok_iff, Check.bind_eq_ok_iff,
    checkWithSeen_eq_ok_iff (optionCheck_eq_ok_iff a.id)] at htask
  exact htask.2.2.2.1

namespace Run

/-- A decision that asks: the step says what the question is, and the run stays where it is and
waits. -/
structure Asks (run : Run) (a : Action) (d : Decision) (input : Fields) (s : Services) : Prop where
  /-- The question is the answer. -/
  answer : (run.step input s).answer = .ok (.waits a.id d.question)
  /-- The run stays where it is. -/
  current : (run.step input s).run.current = run.current
  /-- The run waits for the user. -/
  phase : (run.step input s).run.phase = .waitingForInput

/-- A decision that takes an option: the step succeeds, tells the value and the label of the
option and names its target, and the run is at the action with that id. -/
structure Takes (run : Run) (a : Action) (o : Choice) (input : Fields) (s : Services) : Prop where
  /-- The option is the answer. -/
  answer : (run.step input s).answer = .ok (o.answer a.id)
  /-- The run is at the target of the option. -/
  current : (run.step input s).run.current = .text o.target
  /-- The target stands for an action of the flow, which comes next. -/
  action : ∃ b ∈ run.flow.actions, b.id = o.target ∧
    (run.step input s).run.currentAction = .ok (some b)

/-- What comes of a decision depends on nothing but the input. -/
theorem outcome_of_decision (run : Run) {a : Action} {d : Decision} (ht : a.task = .decision d)
    (context input : Fields) (s : Services) :
    run.outcome a context input s = .ok (d.answer a.id input) := by
  unfold outcome Services.carryOut Action.plan
  rw [ht]

/-- A run at a decision gives the answer of the decision to the input. -/
theorem At.answer_of_decision {run : Run} {a : Action} {context : Fields} (h : run.At a context)
    {d : Decision} (ht : a.task = .decision d) (input : Fields) (s : Services) :
    (run.step input s).answer = .ok (d.answer a.id input) := by
  have hk : a.kind = .decision := by rw [Action.kind, ht]; rfl
  have hfollowing : ∀ context r, a.following context r = .ok r.next := fun context r => by
    simp only [Action.following, ht]
  obtain ⟨settled, hset, -, hanswer, -⟩ := step_settles h input s
  rw [run.outcome_of_decision ht] at hset
  rw [hanswer]
  generalize d.answer a.id input = r at hset
  cases hset with
  | refuse _ => rfl
  | await _ => rfl
  | complete _ hc => simp [hk] at hc
  | escape _ _ hf => simp [hfollowing] at hf
  | halt _ _ _ _ => rfl
  | moveTo _ _ hf _ =>
    rw [hfollowing] at hf
    simp only [moveTo, ← Except.ok.inj hf]

/-- A decision without a choice asks, whatever the context of the run holds. -/
theorem At.asks {run : Run} {a : Action} {context : Fields} (h : run.At a context)
    {d : Decision} (ht : a.task = .decision d) {input : Fields} (hi : ¬ CarriesChoice input)
    (s : Services) : run.Asks a d input s := by
  obtain ⟨hanswer, hrun⟩ := step_at h input s
  rw [run.outcome_of_decision ht, d.answer_of_not_carriesChoice a.id hi] at hanswer hrun
  exact ⟨hanswer, by rw [hrun]; rfl, by rw [hrun]; rfl⟩

/-- A run on course at a decision takes an option by its value, unless that is empty. -/
theorem OnCourse.takes {f : Flow} (hf : ∀ r, f.Meets r) {run : Run} (h : run.OnCourse f)
    {a : Action} (ha : a ∈ f.actions) {context : Fields} (hat : run.At a context)
    {d : Decision} (ht : a.task = .decision d) {o : Choice} (ho : o ∈ d.options)
    (hne : o.value ≠ "") {input : Fields} (hi : Keyed.get? input choiceKey = some (.text o.value))
    (s : Services) : run.Takes a o input s := by
  have hanswer : d.answer a.id input = o.answer a.id :=
    d.answer_of_option (a.optionValues_nodup (hf .actionsComplete a ha) ht) ho hne a.id hi
  have hk : a.kind ≠ .completion := by simp [Action.kind, Task.kind, ht]
  have htarget : o.target ≠ "" := (Action.LinksTo.option ht ho).ne_empty hf ha
  have hsettle : ∀ merged, run.settle a merged (.ok (o.answer a.id)) =
      run.moveTo a merged (o.answer a.id) o.target := fun merged =>
    run.settle_of_success rfl hk (by simp only [Action.following, ht]; rfl) htarget
  have hrun := (step_at hat input s).2
  rw [run.outcome_of_decision ht, hanswer, hsettle] at hrun
  have hcurrent : (run.step input s).run.current = .text o.target := by rw [hrun]; rfl
  have hu : (run.step input s).run.isFinished = false := by rw [hrun]; rfl
  refine ⟨by rw [hat.answer_of_decision ht, hanswer], hcurrent, ?_⟩
  obtain ⟨b, own, hb, hmem, hid, -⟩ := (h.step hf input s).exists_at hf hu
  exact ⟨b, h.flow_eq ▸ hmem, Value.text.inj (hid.symm.trans hcurrent), hb.action⟩

end Run

/-- After every sequence of calls, whatever their inputs and services, a run of a valid flow
at a decision can take every option whose value is not empty, by a step whose input carries
that value, whatever else the input holds. An option whose value is the empty text is never
taken: the decision asks again. -/
theorem Run.takes_option_iff {f : Flow} (hf : f.validated = .ok f) (context : Fields) (id : Value)
    (calls : List Call) :
    let run := (Run.start f context id).afterCalls calls
    ∀ a d, run.currentAction = .ok (some a) → a.task = .decision d → ∀ o ∈ d.options,
      ∀ input s, Keyed.get? input choiceKey = some (.text o.value) →
        (run.Takes a o input s ↔ o.value ≠ "") ∧ (o.value = "" → run.Asks a d input s) := by
  intro run a d hcurrent ht o ho input s hi
  have hmeets := f.validated_eq_ok_iff.mp hf
  have h := Run.afterCalls_onCourse hmeets context id calls
  obtain ⟨ha, own, hat⟩ := h.at_currentAction hmeets hcurrent
  have hasks : o.value = "" → run.Asks a d input s := fun hempty => by
    refine hat.asks ht ?_ s
    rintro ⟨choice, hchoice, -, hne⟩
    rw [hi, hempty] at hchoice
    exact hne (Option.some.inj hchoice).symm
  refine ⟨⟨fun htakes hempty => ?_, fun hne => h.takes hmeets ha hat ht ho hne hi s⟩, hasks⟩
  have hsame := Except.ok.inj (htakes.answer.symm.trans (hasks hempty).answer)
  exact absurd (congrArg StepResult.status hsame) (by simp [Choice.answer, StepResult.waits])

/-- Tipping is an option that can be taken, with a further input and an old choice in the
context. -/
theorem Run.takes_tip :
    let run := (Run.start sampleFlow [("userChoice", .text "no")] (.text "r")).afterCalls []
    let input : Fields := [("note", .text "well done"), ("userChoice", .text "yes")]
    ∃ a d, run.currentAction = .ok (some a) ∧ a.task = .decision d ∧
      ∃ o ∈ d.options, o.value = "yes" ∧ o.target = "pay" ∧
        Keyed.get? input choiceKey = some (.text o.value) ∧ run.Takes a o input .quiet :=
  ⟨_, _, rfl, rfl, _, List.mem_cons_self, rfl, rfl, rfl,
    (Run.takes_option_iff sampleFlow_validated _ _ [] _ _ rfl rfl _ List.mem_cons_self _ _ rfl).1.mpr
      (by decide)⟩

/-- A flow that asks whether to tip, and offers to skip the tip by an empty value. -/
def skippingFlow : Flow where
  label := "Tip"
  initial := "ask"
  actions :=
    [⟨"ask", "Ask", [],
        .decision ⟨"Tip?", none, [⟨"Yes", "yes", "tipped"⟩, ⟨"No", "", "skipped"⟩]⟩⟩,
      ⟨"tipped", "Tipped", [], .completion ⟨"Thanks", "success"⟩⟩,
      ⟨"skipped", "Skipped", [], .completion ⟨"Bye", "info"⟩⟩]

/-- The flow is valid, and the action to which the empty value leads counts as reachable, but
a step with that value asks the same question again. -/
theorem Run.empty_value_not_taken :
    let run := Run.start skippingFlow [] (.text "r")
    let input : Fields := [("userChoice", .text "")]
    skippingFlow.validated = .ok skippingFlow ∧ "skipped" ∈ skippingFlow.reachable ∧
      ∃ a d, run.currentAction = .ok (some a) ∧ a.task = .decision d ∧
        ∃ o ∈ d.options, o.target = "skipped" ∧
          Keyed.get? input choiceKey = some (.text o.value) ∧
          (run.step input .quiet).answer = .ok (.waits "ask" d.question) ∧
          (run.step input .quiet).run.current = .text "ask" ∧ ¬ run.Takes a o input .quiet := by
  have hreachable : skippingFlow.reachable = ["skipped", "tipped", "ask"] := by cbv
  refine ⟨by cbv, by simp [hreachable], _, _, rfl, rfl, _,
    List.mem_cons_of_mem _ List.mem_cons_self, rfl, rfl, rfl, rfl, fun h => ?_⟩
  have hask : ((Run.start skippingFlow [] (.text "r")).step [("userChoice", .text "")]
      .quiet).run.current = .text "ask" := rfl
  exact absurd (Value.text.inj (hask.symm.trans h.current)) (by decide)

/-- An entry about a decision that took an option. -/
def Flow.Decides (f : Flow) (e : StepResult) : Prop :=
  e.status = .success ∧ (f.action? e.actionId).map Action.kind = some .decision

instance (f : Flow) : DecidablePred f.Decides := fun _ => inferInstanceAs (Decidable (_ ∧ _))

namespace Run

/-- A step at an action records an answer that takes an option only if the input carries a
choice. -/
theorem At.carriesChoice_of_decides {run : Run} {a : Action} {context : Fields}
    (h : run.At a context) {input : Fields} {s : Services} {r : StepResult}
    (hanswer : (run.step input s).answer = .ok r) (hid : r.actionId = a.id)
    (hr : run.flow.Decides r) : CarriesChoice input := by
  obtain ⟨hs, hkind⟩ := hr
  rw [hid, action?_of_currentAction h.action] at hkind
  have hk : a.kind = .decision := Option.some.inj hkind
  cases ht : a.task with
  | decision d =>
    rw [h.answer_of_decision ht] at hanswer
    exact Decision.carriesChoice_of_success (by rwa [Except.ok.inj hanswer])
  | _ => simp [Action.kind, Task.kind, ht] at hk

/-- A step adds a success at a decision only if its input carries a choice, and then one. -/
theorem step_decided_le (run : Run) (input : Fields) (s : Services) :
    (run.step input s).run.history.countP (run.flow.Decides ·) ≤
      run.history.countP (run.flow.Decides ·) + if CarriesChoice input then 1 else 0 := by
  rcases run.step_cases input s with ⟨a, context, hat⟩ | hsame
  · obtain ⟨settled, hset, ho, hanswer, hrun⟩ := step_settles hat input s
    rcases hset.records ho with ⟨r, hr, hid, hhistory⟩ | ⟨r, fault, -, -, -, -, rfl⟩
    · rw [hrun, hhistory, List.countP_append, List.countP_singleton]
      by_cases hdecides : run.flow.Decides r
      · have hi := hat.carriesChoice_of_decides (hanswer.trans hr) hid hdecides
        simp [hdecides, hi]
      · simp [hdecides]
    · rw [hrun]
      exact Nat.le_add_right _ _
  · rw [hsame]
    exact Nat.le_add_right _ _

/-- Calls add at most as many successes at decisions as there are choices among them. -/
theorem afterCalls_decided_le (run : Run) (calls : List Call) :
    (run.afterCalls calls).history.countP (run.flow.Decides ·) ≤
      run.history.countP (run.flow.Decides ·) +
        calls.countP (fun call => CarriesChoice call.input) := by
  induction calls generalizing run with
  | nil => exact Nat.le_add_right _ _
  | cons call rest ih =>
    have hstep := run.step_decided_le call.input call.services
    have hrest := ih (run.step call.input call.services).run
    rw [(run.step_flow_id call.input call.services).1] at hrest
    have hcount : (call :: rest).countP (fun call => CarriesChoice call.input) =
        rest.countP (fun call => CarriesChoice call.input) +
          if CarriesChoice call.input then 1 else 0 := by
      simp only [List.countP_cons, decide_eq_true_eq]
    rw [hcount, afterCalls]
    omega

end Run

/-- After every sequence of calls, whatever the context at the start, the inputs and the
services, a run of a valid flow has at most as many successes at decisions as there were calls
with a choice of their own. At a decision, a step without a choice asks and leaves the run
where it is, and the same input gets the same answer in every run that is at this decision,
whatever their contexts. -/
theorem Run.choice_answers_once {f : Flow} (hf : f.validated = .ok f) (context : Fields)
    (id : Value) (calls : List Call) :
    let run := (Run.start f context id).afterCalls calls
    run.history.countP (f.Decides ·) ≤ calls.countP (fun call => CarriesChoice call.input) ∧
      ∀ a d, run.currentAction = .ok (some a) → a.task = .decision d →
        (∀ input s, ¬ CarriesChoice input → run.Asks a d input s) ∧
        ∀ (other : Run) (own : Fields), other.At a own → ∀ input s s',
          (run.step input s).answer = (other.step input s').answer := by
  have hmeets := f.validated_eq_ok_iff.mp hf
  have h := Run.afterCalls_onCourse hmeets context id calls
  refine ⟨?_, fun a d hcurrent ht => ?_⟩
  · have hcount := (Run.start f context id).afterCalls_decided_le calls
    rwa [start, List.countP_nil, Nat.zero_add] at hcount
  · obtain ⟨-, own, hat⟩ := h.at_currentAction hmeets hcurrent
    refine ⟨fun input s hi => hat.asks ht hi s, fun other _ hother input s s' => ?_⟩
    rw [hat.answer_of_decision ht, hother.answer_of_decision ht]

/-- A choice that stood in the context from the start, and is in no input, answers nothing: the
decision asks, and it answers every input as it does in a run with another choice in its
context. -/
theorem Run.old_choice_answers_nothing :
    let calls : List Call := [⟨[], .quiet⟩]
    let run := (Run.start sampleFlow [("userChoice", .text "yes")] (.text "r")).afterCalls calls
    let other := Run.start sampleFlow [("userChoice", .text "no")] (.text "q")
    sampleFlow.validated = .ok sampleFlow ∧ run.history.countP (sampleFlow.Decides ·) ≤ 0 ∧
      ∃ a d, run.currentAction = .ok (some a) ∧ a.task = .decision d ∧ ¬ CarriesChoice [] ∧
        run.Asks a d [] .quiet ∧ other.At a [("userChoice", .text "no")] ∧
        ∀ input s s', (run.step input s).answer = (other.step input s').answer := by
  have h := Run.choice_answers_once sampleFlow_validated [("userChoice", .text "yes")] (.text "r")
    [⟨[], .quiet⟩]
  exact ⟨sampleFlow_validated, h.1, _, _, rfl, rfl, by decide,
    (h.2 _ _ rfl rfl).1 [] .quiet (by decide), ⟨rfl, rfl, rfl, rfl⟩,
    (h.2 _ _ rfl rfl).2 _ _ ⟨rfl, rfl, rfl, rfl⟩⟩

end ActionFlow
