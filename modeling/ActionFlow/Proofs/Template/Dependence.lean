import ActionFlow.Proofs.Json.Legible
import ActionFlow.Proofs.Template.Cuts
import ActionFlow.Proofs.Template.Lookups
import ActionFlow.Proofs.Validation.Faults

/-!
# Texts that depend on the context

A text without placeholders stands as it is in every context. Any other text can change: for
each path there is a context in which the path leads to a value, namely objects of one field,
one for each step. All other paths can be asked for in that context as well, and a value that is
longer than the text shows. Hence the texts in place of addresses that validation lets pass
unread are those that a context can still change, and no others.
-/

namespace ActionFlow

/-- Whether a text stands as it is in every context. -/
def IsFixed (text : String) : Prop :=
  ∀ fields, (Value.text text).substitute (.object fields) = .ok (.text text)

/-- Whether some context, one that JSON can tell, makes another text of a text. -/
def CanChange (text : String) : Prop :=
  ∃ fields other, (Value.object fields).isLegible = true ∧
    (Value.text text).substitute (.object fields) = .ok (.text other) ∧ other ≠ text

namespace Value

/-- A value at the end of some steps, each of which is the only field of an object. -/
def nest (v : Value) : List (List Char) → Value
  | [] => v
  | part :: rest => .object [(String.ofList part, v.nest rest)]

/-- The steps lead to the value at their end. -/
theorem follow_nest (v : Value) (steps : List (List Char)) :
    (v.nest steps).follow steps = .ok (some v) := by
  induction steps with
  | nil => rfl
  | cons part rest ih =>
    have hstep : (v.nest (part :: rest)).step part = .ok (some (v.nest rest)) :=
      congrArg Except.ok (Keyed.get?_set_self (String.ofList part) (v.nest rest) [])
    rw [follow, hstep]
    exact ih

/-- From a text at the end of steps nothing faults: there are no lists on the way. -/
theorem follow_nest_text (word : String) (steps parts : List (List Char)) :
    ∃ found, ((text word).nest steps).follow parts = .ok found := by
  induction parts generalizing steps with
  | nil => exact ⟨_, rfl⟩
  | cons part others ih =>
    cases steps with
    | nil => exact ⟨none, rfl⟩
    | cons first rest =>
      have hstep : ((text word).nest (first :: rest)).step part =
          .ok (Keyed.get? [(String.ofList first, (text word).nest rest)] (String.ofList part)) :=
        rfl
      rw [follow, hstep]
      cases hget : Keyed.get? [(String.ofList first, (text word).nest rest)]
          (String.ofList part) with
      | none => exact ⟨none, rfl⟩
      | some next =>
        obtain rfl : (text word).nest rest = next := by
          obtain ⟨before, after, hfields, -⟩ := List.lookup_eq_some_iff.mp hget
          cases before <;> simp_all
        exact ih rest

/-- A legible value at the end of steps is legible. -/
theorem isLegible_nest {v : Value} (h : v.isLegible = true) (steps : List (List Char)) :
    (v.nest steps).isLegible = true := by
  induction steps with
  | nil => exact h
  | cons part rest ih =>
    rw [nest, isLegible_object_iff]
    exact ⟨by simp, by simpa using ih⟩

end Value

/-- For every path there is a context in which it leads to a given text, and which can be asked
for all other paths as well. -/
theorem exists_context (path : List Char) (word : String) :
    ∃ fields, (Value.object fields).isLegible = true ∧
      resolvePath path (.object fields) = .ok (some (.text word)) ∧
        ∀ other, (Value.object fields).Reads other := by
  have hobject : ∃ fields, (Value.text word).nest (pathSteps path) = .object fields := by
    cases hsteps : pathSteps path with
    | nil => exact absurd hsteps (splitAtDots_ne_nil _)
    | cons part rest => exact ⟨_, rfl⟩
  obtain ⟨fields, hfields⟩ := hobject
  refine ⟨fields, ?_⟩
  rw [← hfields]
  exact ⟨Value.isLegible_nest rfl _, Value.follow_nest _ _,
    fun other => Value.follow_nest_text word _ (pathSteps other)⟩

section Placeholders

variable {text : String} {cut : Cut}

/-- A text holds a placeholder when there is one in its cut. -/
theorem Cut.Of.textHasPlaceholder_iff (h : Cut.Of text.toList cut) :
    textHasPlaceholder text = true ↔ cut.paths ≠ [] := by
  obtain ⟨segments, tail⟩ := cut
  unfold textHasPlaceholder
  rw [h.pieces_eq]
  cases segments with
  | nil => simp [Cut.pieces, Cut.paths, Piece.isPlaceholder]
  | cons segment rest => simp [Cut.pieces, Cut.paths, Piece.isPlaceholder]

/-- What stands for a placeholder is no longer than the text it stands in. -/
theorem Cut.length_le_length_spelled {path : List Char} (hpath : path ∈ cut.paths)
    (word : List Char → List Char) : (word path).length ≤ (cut.spelled word).length := by
  obtain ⟨segment, hsegment, rfl⟩ := List.mem_map.mp hpath
  have hinfix : word segment.2 <:+: cut.spelled word := by
    obtain ⟨before, after, hsplit⟩ := List.append_of_mem hsegment
    refine ⟨(before.flatMap fun s => s.1 ++ word s.2) ++ segment.1,
      (after.flatMap fun s => s.1 ++ word s.2) ++ cut.tail, ?_⟩
    simp [Cut.spelled, hsplit]
  exact hinfix.length_le

/-- A text without placeholders stands as it is. -/
theorem isFixed_of_textHasPlaceholder (h : textHasPlaceholder text = false) : IsFixed text := by
  obtain ⟨cut, hcut⟩ := Cut.exists_of text.toList
  have hpaths : cut.paths = [] := by
    by_contra hne
    rw [hcut.textHasPlaceholder_iff.mpr hne] at h
    cases h
  have hsegments : cut.segments = [] := List.map_eq_nil_iff.mp hpaths
  intro fields
  have hspelled : text = String.ofList (cut.spelled (replacement (.object fields))) := by
    have hsource := hcut.spelled_source
    rw [Cut.spelled, hsegments] at hsource ⊢
    exact (String.ofList_toList).symm.trans (congrArg String.ofList hsource.symm)
  have hok := (substituteText_eq_ok_iff hcut).mpr ⟨by simp [hpaths], hspelled⟩
  exact congrArg (Except.map Value.text) hok

/-- A text with a placeholder can change: let its path lead to a longer text. -/
theorem canChange_of_textHasPlaceholder (h : textHasPlaceholder text = true) :
    CanChange text := by
  obtain ⟨cut, hcut⟩ := Cut.exists_of text.toList
  obtain ⟨path, hpath⟩ := List.exists_mem_of_ne_nil _ (hcut.textHasPlaceholder_iff.mp h)
  obtain ⟨fields, hlegible, hfound, hreads⟩ :=
    exists_context path (String.ofList ('a' :: text.toList))
  have hok := (substituteText_eq_ok_iff hcut).mpr ⟨fun p _ => hreads p, rfl⟩
  refine ⟨fields, _, hlegible, congrArg (Except.map Value.text) hok, fun hsame => ?_⟩
  have hword : replacement (.object fields) path = 'a' :: text.toList := by
    simp [replacement, hfound, Value.inserted]
  have hle := Cut.length_le_length_spelled hpath (replacement (.object fields))
  rw [hword, ← String.toList_ofList (l := cut.spelled _), hsame, List.length_cons] at hle
  exact Nat.not_succ_le_self _ hle

/-- A text that stands as it is cannot change. -/
theorem IsFixed.not_canChange (h : IsFixed text) : ¬CanChange text := by
  rintro ⟨fields, other, -, hother, hne⟩
  rw [h fields] at hother
  cases hother
  exact hne rfl

/-- The texts without placeholders are those that stand as they are. -/
theorem textHasPlaceholder_eq_false_iff : textHasPlaceholder text = false ↔ IsFixed text := by
  refine ⟨isFixed_of_textHasPlaceholder, fun h => ?_⟩
  rw [← Bool.not_eq_true]
  exact fun hp => h.not_canChange (canChange_of_textHasPlaceholder hp)

/-- The texts with placeholders are those that can change. -/
theorem textHasPlaceholder_eq_true_iff : textHasPlaceholder text = true ↔ CanChange text := by
  refine ⟨canChange_of_textHasPlaceholder, fun h => ?_⟩
  rw [← Bool.not_eq_false]
  exact fun hp => (isFixed_of_textHasPlaceholder hp).not_canChange h

end Placeholders

section Exemption

variable {a : Action} {s : String}

/-- An action passes with a receiver when it passes without one, and the receiver is empty,
holds a placeholder or is an address. -/
theorem Action.checkTask_receiver_eq_ok_iff {t : Transfer} :
    Action.checkTask { a with task := .transfer { t with receiver := some s } } = .ok () ↔
      (s = "" ∨ textHasPlaceholder s = true ∨ Format.isAddress s = true) ∧
        Action.checkTask { a with task := .transfer { t with receiver := none } } = .ok () := by
  have hform : (s != "" && !textHasPlaceholder s && !Format.isAddress s) = false ↔
      s = "" ∨ textHasPlaceholder s = true ∨ Format.isAddress s = true := by
    by_cases hs : s = "" <;> simp [hs, imp_iff_not_or]
  unfold checkTask
  dsimp only
  rw [Check.bind_eq_ok_iff, refuseIf_eq_ok_iff, hform]

/-- A receiver is refused when it is neither empty nor an address and holds no placeholder. -/
theorem Action.checkTask_eq_badReceiver_iff {t : Transfer} :
    Action.checkTask { a with task := .transfer { t with receiver := some s } } =
        .error (.invalid (.action a.id (.badReceiver s))) ↔
      s ≠ "" ∧ textHasPlaceholder s = false ∧ Format.isAddress s = false := by
  have hrest : (do
      refuseIf (lacksAmount t.amount) (.action a.id .noPositiveAmount)
      t.chains.check a.id) ≠ .error (.invalid (.action a.id (.badReceiver s))) :=
    Check.bind_ne_error (refuseIf_ne_error (by simp) _) (t.chains.check_ne_error (by simp))
  unfold checkTask
  dsimp only
  rw [Check.bind_eq_error_iff, refuseIf_eq_error_iff]
  simp [hrest, and_assoc]

/-- An action passes with an endpoint that holds a placeholder or is a web address, when its
parameters pass. -/
theorem Action.checkTask_endpoint_eq_ok_iff {h : HttpCall} :
    Action.checkTask { a with task := .http { h with endpoint := s } } = .ok () ↔
      (textHasPlaceholder s = true ∨ Format.readUrl s = .ok true) ∧
        checkWithSeen (Parameter.check a.id) (·.name) [] h.params = .ok () := by
  rw [checkTask_http_eq_ok_iff rfl, checkParameters_eq_ok_iff]

/-- An endpoint is refused when it is read as no web address and holds no placeholder. -/
theorem Action.checkTask_eq_badEndpoint_iff {h : HttpCall} :
    Action.checkTask { a with task := .http { h with endpoint := s } } =
        .error (.invalid (.action a.id (.badEndpoint s))) ↔
      textHasPlaceholder s = false ∧ Format.readUrl s = .ok false := by
  have hrest : checkWithSeen (Parameter.check a.id) (·.name) [] h.params ≠
      .error (.invalid (.action a.id (.badEndpoint s))) :=
    checkWithSeen_ne_error
      (fun _ _ => Parameter.check_ne_error (by simp) (by simp [ValidationFailure.IsFault])) _ _
  unfold checkTask
  dsimp only
  cases hp : textHasPlaceholder s with
  | true => simp [hrest]
  | false =>
    rcases hu : Format.readUrl s with fault | _ | _ <;>
      simp [Value.isUrl, hu, hrest, refuseIf, bind, Except.bind]

end Exemption

/-- Whether a text holds a placeholder tells whether it depends on the context: it holds none
when it stands as it is in every context, and it holds one when some context makes another text
of it. Validation lets a text pass unread in place of an address just when it can change. A
receiver passes when it is empty, can change, or is an address, and is refused when it is none of
these; an endpoint passes when it can change or is a web address, and is refused when it is
fixed and read as none. -/
theorem Value.hasPlaceholder_tells_dependence (s : String) :
    ((Value.text s).hasPlaceholder = false ↔ IsFixed s) ∧
      ((Value.text s).hasPlaceholder = true ↔ CanChange s) ∧
      (∀ (a : Action) (t : Transfer),
        (Action.checkTask { a with task := .transfer { t with receiver := some s } } = .ok () ↔
          (s = "" ∨ CanChange s ∨ Format.isAddress s = true) ∧
            Action.checkTask { a with task := .transfer { t with receiver := none } } = .ok ()) ∧
        (Action.checkTask { a with task := .transfer { t with receiver := some s } } =
            .error (.invalid (.action a.id (.badReceiver s))) ↔
          s ≠ "" ∧ IsFixed s ∧ Format.isAddress s = false)) ∧
      ∀ (a : Action) (h : HttpCall),
        (Action.checkTask { a with task := .http { h with endpoint := s } } = .ok () ↔
          (CanChange s ∨ Format.readUrl s = .ok true) ∧
            checkWithSeen (Parameter.check a.id) (·.name) [] h.params = .ok ()) ∧
        (Action.checkTask { a with task := .http { h with endpoint := s } } =
            .error (.invalid (.action a.id (.badEndpoint s))) ↔
          IsFixed s ∧ Format.readUrl s = .ok false) := by
  have hfixed : textHasPlaceholder s = false ↔ IsFixed s := textHasPlaceholder_eq_false_iff
  have hchange : textHasPlaceholder s = true ↔ CanChange s := textHasPlaceholder_eq_true_iff
  refine ⟨hfixed, hchange, fun a t => ⟨?_, ?_⟩, fun a h => ⟨?_, ?_⟩⟩
  · rw [← hchange]
    exact Action.checkTask_receiver_eq_ok_iff
  · rw [← hfixed]
    exact Action.checkTask_eq_badReceiver_iff
  · rw [← hchange]
    exact Action.checkTask_endpoint_eq_ok_iff
  · rw [← hfixed]
    exact Action.checkTask_eq_badEndpoint_iff

end ActionFlow
