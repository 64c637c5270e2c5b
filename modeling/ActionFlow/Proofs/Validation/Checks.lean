import ActionFlow.Flow.Validation

/-!
# Checks and their first failures

A check passes or ends validation with one failure. What a sequence of checks, the checks
of all members of a list, and checks that know the members before them come to is told
here once, in both directions: when they pass, and whose failure they report.
-/

namespace ActionFlow

variable {α : Type} {failure : ValidationFailure}

/-- Two checks in a row pass when both do. -/
theorem Check.bind_eq_ok_iff {c : Check} {rest : Unit → Check} :
    c >>= rest = .ok () ↔ c = .ok () ∧ rest () = .ok () := by
  cases c with
  | error e => simp [bind, Except.bind]
  | ok u => simp [bind, Except.bind]

/-- Two checks in a row report the failure of the first, or that of the second once the
first has passed. -/
theorem Check.bind_eq_error_iff {c : Check} {rest : Unit → Check} :
    c >>= rest = .error failure ↔
      c = .error failure ∨ c = .ok () ∧ rest () = .error failure := by
  cases c with
  | error e => simp [bind, Except.bind]
  | ok u => simp [bind, Except.bind]

/-- Two checks in a row do not report a failure that neither reports. -/
theorem Check.bind_ne_error {c : Check} {rest : Unit → Check} (hc : c ≠ .error failure)
    (hrest : rest () ≠ .error failure) : c >>= rest ≠ .error failure := by
  rw [Ne, Check.bind_eq_error_iff]
  exact fun h => h.elim hc fun h => hrest h.2

/-- The absence of a problem is found when there is none. -/
theorem refuseIf_eq_ok_iff {bad : Bool} {problem : FlowProblem} :
    refuseIf bad problem = .ok () ↔ bad = false := by
  cases bad <;> simp [refuseIf]

/-- A problem is reported as it is when it is there. -/
theorem refuseIf_eq_error_iff {bad : Bool} {problem : FlowProblem} :
    refuseIf bad problem = .error failure ↔ bad = true ∧ failure = .invalid problem := by
  cases bad <;> simp [refuseIf, eq_comm]

/-- What is refused for a problem does not report another failure. -/
theorem refuseIf_ne_error {problem : FlowProblem} (h : failure ≠ .invalid problem) (bad : Bool) :
    refuseIf bad problem ≠ .error failure := fun he => h (refuseIf_eq_error_iff.mp he).2

/-- The checks of all members pass when each of them does. -/
theorem checkEach_eq_ok_iff {check : α → Check} {l : List α} :
    checkEach check l = .ok () ↔ ∀ a ∈ l, check a = .ok () := by
  induction l with
  | nil => simp [checkEach]
  | cons a rest ih =>
    rw [checkEach, Check.bind_eq_ok_iff, ih, List.forall_mem_cons]

/-- The checks of all members report the failure of the first member that does not pass. -/
theorem checkEach_eq_error_iff {check : α → Check} {l : List α} :
    checkEach check l = .error failure ↔
      ∃ before a after, l = before ++ a :: after ∧ (∀ b ∈ before, check b = .ok ()) ∧
        check a = .error failure := by
  induction l with
  | nil => simp [checkEach]
  | cons b rest ih =>
    rw [checkEach, Check.bind_eq_error_iff, ih]
    constructor
    · rintro (hb | ⟨hb, before, a, after, rfl, hbefore, ha⟩)
      · exact ⟨[], b, rest, rfl, by simp, hb⟩
      · exact ⟨b :: before, a, after, rfl, List.forall_mem_cons.mpr ⟨hb, hbefore⟩, ha⟩
    · rintro ⟨before, a, after, hl, hbefore, ha⟩
      cases before with
      | nil =>
        obtain ⟨rfl, -⟩ := List.cons.inj hl
        exact .inl ha
      | cons c before =>
        obtain ⟨rfl, rfl⟩ := List.cons.inj hl
        obtain ⟨hb, hbefore⟩ := List.forall_mem_cons.mp hbefore
        exact .inr ⟨hb, before, a, after, rfl, hbefore, ha⟩

/-- The checks of all members do not report a failure that no member reports. -/
theorem checkEach_ne_error {check : α → Check} (h : ∀ a, check a ≠ .error failure) (l : List α) :
    checkEach check l ≠ .error failure := by
  intro he
  obtain ⟨before, a, after, -, -, ha⟩ := checkEach_eq_error_iff.mp he
  exact h a ha

/-- Checks that know the keys before them report the failure of the first member that does
not pass; the keys are known from the last one back. -/
theorem checkWithSeen_eq_error_iff {check : List String → α → Check} {key : α → String}
    {seen : List String} {l : List α} :
    checkWithSeen check key seen l = .error failure ↔
      ∃ before a after, l = before ++ a :: after ∧ checkWithSeen check key seen before = .ok () ∧
        check ((before.map key).reverse ++ seen) a = .error failure := by
  induction l generalizing seen with
  | nil => simp [checkWithSeen]
  | cons b rest ih =>
    rw [checkWithSeen, Check.bind_eq_error_iff, ih]
    constructor
    · rintro (hb | ⟨hb, before, a, after, rfl, hbefore, ha⟩)
      · exact ⟨[], b, rest, rfl, rfl, hb⟩
      · refine ⟨b :: before, a, after, rfl, Check.bind_eq_ok_iff.mpr ⟨hb, hbefore⟩, ?_⟩
        simpa using ha
    · rintro ⟨before, a, after, hl, hbefore, ha⟩
      cases before with
      | nil =>
        obtain ⟨rfl, -⟩ := List.cons.inj hl
        exact .inl ha
      | cons c before =>
        obtain ⟨rfl, rfl⟩ := List.cons.inj hl
        obtain ⟨hb, hbefore⟩ := Check.bind_eq_ok_iff.mp hbefore
        exact .inr ⟨hb, before, a, after, rfl, hbefore, by simpa using ha⟩

/-- Checks that know the keys before them do not report a failure that no member reports. -/
theorem checkWithSeen_ne_error {check : List String → α → Check} {key : α → String}
    (h : ∀ seen a, check seen a ≠ .error failure) (seen : List String) (l : List α) :
    checkWithSeen check key seen l ≠ .error failure := by
  intro he
  obtain ⟨before, a, after, -, -, ha⟩ := checkWithSeen_eq_error_iff.mp he
  exact h _ a ha

/-- Checks that know the keys before them, each of which passes when the member is sound by
itself and has a key of its own, pass when all members are sound and no key stands twice. -/
theorem checkWithSeen_eq_ok_iff {check : List String → α → Check} {key : α → String}
    {Sound : α → Prop} (hc : ∀ seen a, check seen a = .ok () ↔ Sound a ∧ key a ∉ seen)
    {seen : List String} {l : List α} :
    checkWithSeen check key seen l = .ok () ↔
      (∀ a ∈ l, Sound a) ∧ (l.map key).Nodup ∧ ∀ a ∈ l, key a ∉ seen := by
  induction l generalizing seen with
  | nil => simp [checkWithSeen]
  | cons b rest ih =>
    rw [checkWithSeen, Check.bind_eq_ok_iff, ih, hc, List.map_cons, List.nodup_cons,
      List.forall_mem_cons, List.forall_mem_cons]
    simp only [List.mem_cons, not_or, List.mem_map, not_exists, not_and]
    constructor
    · rintro ⟨⟨hb, hs⟩, hr, hn, hk⟩
      exact ⟨⟨hb, hr⟩, ⟨fun a ha he => (hk a ha).1 he, hn⟩, hs, fun a ha => (hk a ha).2⟩
    · rintro ⟨⟨hb, hr⟩, ⟨hd, hn⟩, hs, hk⟩
      exact ⟨⟨hb, hs⟩, hr, hn, fun a ha => ⟨hd a ha, hk a ha⟩⟩

/-- Checks that know the keys before them pass after a change that keeps the keys and leaves
sound members sound. -/
theorem checkWithSeen_map {check : List String → α → Check} {key : α → String} {g : α → α}
    (hkey : ∀ a, key (g a) = key a)
    (hg : ∀ seen a, check seen a = .ok () → check seen (g a) = .ok ()) {seen : List String}
    {l : List α} (h : checkWithSeen check key seen l = .ok ()) :
    checkWithSeen check key seen (l.map g) = .ok () := by
  induction l generalizing seen with
  | nil => exact h
  | cons a rest ih =>
    rw [checkWithSeen, Check.bind_eq_ok_iff] at h
    rw [List.map_cons, checkWithSeen, Check.bind_eq_ok_iff, hkey]
    exact ⟨hg seen a h.1, ih h.2⟩

/-- An action passes when it has a label, its conditions have fields, and what is special to its
task is complete. -/
theorem Action.check_eq_ok_iff {a : Action} :
    a.check = .ok () ↔
      a.label ≠ "" ∧ (∀ e ∈ a.edges, ∀ c ∈ e.conditions, c.field ≠ "") ∧ a.checkTask = .ok () := by
  unfold check
  simp only [Check.bind_eq_ok_iff, checkEach_eq_ok_iff, refuseIf_eq_ok_iff, beq_eq_false_iff_ne]

end ActionFlow
