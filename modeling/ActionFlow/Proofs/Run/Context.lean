import ActionFlow.Proofs.Run.History

/-!
# What a step leaves in the context

A step that answers overrides the context with the input and then with what it remembers of
its answer: the answer itself, as the history holds it from then on, the id of the action and,
of an error alone, the reason. Every other key is as it was, whatever the kind of the action.
An error leaves the run at its action, so that the step can be tried again.
-/

namespace ActionFlow

namespace Run

/-- What a context holds under a key after an action has answered: what is remembered of the
answer, or else what the input gives under the key, or else what stood there before. Where an
input gives a key twice, the last value counts. -/
def foundAfter (a : Action) (own input : Fields) (r : StepResult) (key : String) : Option Value :=
  if key = lastResultKey then some r.toValue
  else if key = lastActionKey then some (.text a.id)
  else if key = lastErrorKey ∧ r.status = .error then some (.ofText? r.error)
  else (Keyed.get? input.reverse key).or (Keyed.get? own key)

/-- What a step that answers at an action leaves behind. -/
structure Leaves (run after : Run) (a : Action) (own input : Fields) (r : StepResult) : Prop where
  /-- The context has what is remembered of the answer, what the input gives, and else what it
  had. -/
  context : ∃ later, after.context = .object later ∧
    ∀ key, Keyed.get? later key = foundAfter a own input r key
  /-- The history has the answer as one more entry. -/
  history : after.history = run.history ++ [r]
  /-- After an error the run is ready to try the action again. -/
  stays : r.status = .error → after.current = run.current ∧ after.phase = .running

section Memory

variable {run after : Run} {a : Action} {own input : Fields} {r : StepResult}

/-- The keys of the memory are different. -/
theorem memoryKeys_ne : lastResultKey ≠ lastActionKey ∧ lastResultKey ≠ lastErrorKey ∧
    lastActionKey ≠ lastErrorKey := by decide

/-- What is remembered of an answer stands over the input, and the input over the context. -/
theorem get?_remember_merge (a : Action) (own input : Fields) (r : StepResult) (key : String) :
    Keyed.get? (remember a.id r (Keyed.merge own input)) key =
      if key = lastResultKey then some r.toValue
      else if key = lastActionKey then some (.text a.id)
      else (Keyed.get? input.reverse key).or (Keyed.get? own key) := by
  unfold remember
  rw [Keyed.get?_set, Keyed.get?_set, Keyed.get?_merge]
  by_cases h : key = lastResultKey
  · rw [if_pos h, if_pos h, if_neg (h ▸ memoryKeys_ne.1)]
  · rw [if_neg h, if_neg h]

/-- An answer that is no error leaves what is remembered of it. -/
theorem Leaves.of_remember (hs : r.status ≠ .error)
    (hcontext : after.context = .object (remember a.id r (Keyed.merge own input)))
    (hhistory : after.history = run.history ++ [r]) : run.Leaves after a own input r := by
  refine ⟨⟨_, hcontext, fun key => ?_⟩, hhistory, fun he => absurd he hs⟩
  rw [get?_remember_merge, foundAfter, if_neg fun h : _ ∧ _ => hs h.2]

/-- An error leaves what is remembered of it and its reason, and the run at its action. -/
theorem Leaves.of_rememberError (hs : r.status = .error)
    (hcontext : after.context =
      .object (rememberError r.error (remember a.id r (Keyed.merge own input))))
    (hhistory : after.history = run.history ++ [r]) (hcurrent : after.current = run.current)
    (hphase : after.phase = .running) : run.Leaves after a own input r := by
  refine ⟨⟨_, hcontext, fun key => ?_⟩, hhistory, fun _ => ⟨hcurrent, hphase⟩⟩
  rw [rememberError, Keyed.get?_set, get?_remember_merge, foundAfter]
  by_cases h : key = lastErrorKey
  · have hresult : key ≠ lastResultKey := fun h' => memoryKeys_ne.2.1 (h'.symm.trans h)
    have haction : key ≠ lastActionKey := fun h' => memoryKeys_ne.2.2 (h'.symm.trans h)
    rw [if_pos h, if_neg hresult, if_neg haction, if_pos ⟨h, hs⟩]
  · rw [if_neg h, if_neg fun h' : _ ∧ _ => h h'.1]

/-- However a run goes on, what it answers stands in the context and in the history. -/
theorem Settles.leaves {outcome : Except Failure StepResult} {settled : Settled}
    (h : run.Settles a (Keyed.merge own input) outcome settled)
    (hr : settled.answer = .ok r) : run.Leaves settled.run a own input r := by
  cases h with
  | fail failure =>
    obtain rfl := Except.ok.inj hr
    exact .of_rememberError (failure.result_refuses a.id).2.1 rfl rfl rfl rfl
  | refuse hs =>
    obtain rfl := Except.ok.inj hr
    exact .of_rememberError hs rfl rfl rfl rfl
  | await hs =>
    obtain rfl := Except.ok.inj hr
    exact .of_remember (by simp [hs]) rfl rfl
  | complete hs _ =>
    obtain rfl := Except.ok.inj hr
    exact .of_remember (by simp [hs]) rfl rfl
  | escape _ _ _ => cases hr
  | halt hs _ _ _ =>
    obtain rfl := Except.ok.inj hr
    exact .of_remember (by simp [hs]) rfl rfl
  | moveTo hs _ _ _ =>
    obtain rfl := Except.ok.inj hr
    exact .of_remember (by simp [hs]) rfl rfl

end Memory

end Run

/-- After every sequence of calls, whatever their inputs and services, a run of a valid flow
that has not come to its end is at an action, and a step that answers leaves its context as it
was, overridden by the input and then by the answer that the history has gained, by the id of
the action and, exactly when the answer is an error, by its reason. After an error the run is
still at the action and is running. -/
theorem Run.step_overrides_context {f : Flow} (hf : f.validated = .ok f) (context : Fields)
    (id : Value) (calls : List Call) :
    let run := (Run.start f context id).afterCalls calls
    run.isFinished = false → ∃ a ∈ f.actions, run.current = .text a.id ∧
      ∃ own, run.context = .object own ∧
        ∀ input s r, (run.step input s).answer = .ok r →
          run.Leaves (run.step input s).run a own input r := by
  intro run hu
  have hmeets := f.validated_eq_ok_iff.mp hf
  have h := Run.afterCalls_onCourse hmeets context id calls
  obtain ⟨a, own, hat, ha, hcurrent, -⟩ := h.exists_at hmeets hu
  refine ⟨a, ha, hcurrent, own, hat.object, fun input s r hr => ?_⟩
  obtain ⟨settled, hset, -, hanswer, hrun⟩ := step_settles hat input s
  rw [hrun]
  exact hset.leaves (hanswer ▸ hr)

/-- A choice that is not offered is an error. Its reason stands over the one that the input
brings, the choice itself is in the context, and the run is still at the question. -/
theorem Run.refused_choice_overrides_context :
    let run := (Run.start sampleFlow [("lastError", .text "none")] (.text "r")).afterCalls []
    let input : Fields := [("userChoice", .text "what"), ("lastError", .text "old")]
    let after := (run.step input .quiet).run
    sampleFlow.validated = .ok sampleFlow ∧ run.isFinished = false ∧
      ∃ a ∈ sampleFlow.actions, run.current = .text a.id ∧ ∃ own, run.context = .object own ∧
        ∃ r, (run.step input .quiet).answer = .ok r ∧ r.error = some "Invalid choice: what" ∧
          run.Leaves after a own input r ∧ after.context.get? "lastError" = some (.ofText? r.error) ∧
          after.context.get? "userChoice" = some (.text "what") := by
  intro run input after
  obtain ⟨a, ha, hcurrent, own, hown, hleaves⟩ :=
    Run.step_overrides_context sampleFlow_validated [("lastError", .text "none")] (.text "r") [] rfl
  exact ⟨sampleFlow_validated, rfl, a, ha, hcurrent, own, hown, _, rfl, rfl,
    hleaves input .quiet _ rfl, rfl, rfl⟩

end ActionFlow
