import ActionFlow.Proofs.Run.Advice
import Mathlib

/-!
# Which failures are tried again

Whether a retry is advised depends on four things: the step failed, its data tell a report of
the failure, the report says that another attempt can help, and attempts are left. What the
data of a result tell is said field by field, without the reader of reports. The report promises
a time to wait: the seconds that it asks for, if it asks for any number of seconds, and otherwise
a time that doubles with each attempt. The advice keeps this promise for every number of seconds
but zero, which counts as none.
-/

namespace ActionFlow

namespace Schema

section Checks

variable {α β : Type}

/-- A changed check has a result when the check has one. -/
theorem Checked.map_eq_accepted_iff {f : α → β} {x : Checked α} {b : β} :
    f <$> x = .accepted b ↔ ∃ a, x = .accepted a ∧ f a = b := by
  constructor
  · intro h
    cases x with
    | accepted a => exact ⟨a, rfl, Checked.accepted.inj h⟩
    | refused issues => cases h
  · rintro ⟨a, hx, rfl⟩
    exact Checked.map_accepted hx

/-- Two checks joined have a result when both have one. -/
theorem Checked.seq_eq_accepted_iff {x : Checked (α → β)} {y : Checked α} {b : β} :
    x <*> y = .accepted b ↔ ∃ f a, x = .accepted f ∧ y = .accepted a ∧ f a = b := by
  constructor
  · intro h
    cases x with
    | accepted f =>
      cases y with
      | accepted a => exact ⟨f, a, rfl, rfl, Checked.accepted.inj h⟩
      | refused issues => cases h
    | refused issues => cases y <;> cases h
  · rintro ⟨f, a, hx, hy, rfl⟩
    exact Checked.seq_accepted hx hy

/-- A check has the same result wherever its issues lie. -/
theorem Checked.under_eq_accepted_iff {step : Locator} {x : Checked α} {a : α} :
    x.under step = .accepted a ↔ x = .accepted a := by
  cases x with
  | accepted b => exact Iff.rfl
  | refused issues => constructor <;> intro h <;> cases h

end Checks

section Fields

variable {α : Type} {fields : Fields} {name : String}

/-- What fields tell under a name: what a reader makes of the value there or, when there is no
value, what stands for it. -/
inductive FieldTells (fields : Fields) (name : String) (usual : α) (reader : Reader α) :
    α → Prop where
  /-- Nothing stands under the name. -/
  | absent (h : Keyed.get? fields name = none) : FieldTells fields name usual reader usual
  /-- A value stands under the name. -/
  | present {v : Value} {a : α} (hv : Keyed.get? fields name = some v)
    (hr : reader v = .accepted a) : FieldTells fields name usual reader a

/-- A field of one name that may be absent is read as what the fields tell. -/
theorem optionalField_eq_accepted_iff {usual a : α} {reader : Reader α} :
    optionalField fields name name usual reader = .accepted a ↔
      FieldTells fields name usual reader a := by
  unfold optionalField lookup
  cases hv : Keyed.get? fields name with
  | none =>
    constructor
    · intro h
      cases h
      exact .absent hv
    · intro h
      cases h with
      | absent _ => rfl
      | present hv' _ => simp [hv] at hv'
  | some v =>
    dsimp only
    rw [Checked.under_eq_accepted_iff]
    constructor
    · exact .present hv
    · intro h
      cases h with
      | absent hv' => simp [hv] at hv'
      | present hv' hr =>
        obtain rfl := Option.some.inj (hv.symm.trans hv')
        exact hr

/-- A required text is read as the text that stands under its name. -/
theorem requiredField_readText_iff {s : String} :
    requiredField fields name name readText = .accepted s ↔
      Keyed.get? fields name = some (.text s) := by
  unfold requiredField lookup
  cases hv : Keyed.get? fields name with
  | none => constructor <;> intro h <;> cases h
  | some v =>
    dsimp only
    rw [Checked.under_eq_accepted_iff, Option.some.injEq]
    constructor
    · intro h
      cases v with
      | text t =>
        cases h
        rfl
      | _ => cases h
    · rintro rfl
      rfl

end Fields

end Schema

open Schema

/-- The fields of a document tell a report: its kind and its message are texts that stand there,
and everything else may be absent. -/
structure FailureReport.IsToldBy (report : FailureReport) (fields : Fields) : Prop where
  /-- The kind stands there. -/
  kind : Keyed.get? fields "error_type" = some (.text report.kind)
  /-- The message stands there. -/
  message : Keyed.get? fields "error_message" = some (.text report.message)
  /-- The status of the server may be absent or null. -/
  httpStatus : FieldTells fields "http_status_code" none (orNull readInt) report.httpStatus
  /-- The number of seconds to wait may be absent or null. -/
  retryAfter : FieldTells fields "retry_after_seconds" none (orNull readInt) report.retryAfter
  /-- Another attempt helps only where this is said. -/
  retryable : FieldTells fields "is_retryable" false readBool report.retryable
  /-- The circumstances may be absent. -/
  context : FieldTells fields "context" [] (objectOf anything) report.context

/-- A report is read from the fields that tell it, and from no others. -/
theorem FailureReport.reader_eq_accepted_iff {fields : Fields} {report : FailureReport} :
    FailureReport.reader (.object fields) = .accepted report ↔ report.IsToldBy fields := by
  unfold FailureReport.reader record
  dsimp only
  constructor
  · intro h
    obtain ⟨_, context, hfive, hcontext, rfl⟩ := Checked.seq_eq_accepted_iff.mp h
    obtain ⟨_, retryable, hfour, hretryable, rfl⟩ := Checked.seq_eq_accepted_iff.mp hfive
    obtain ⟨_, retryAfter, hthree, hretryAfter, rfl⟩ := Checked.seq_eq_accepted_iff.mp hfour
    obtain ⟨_, httpStatus, htwo, hhttpStatus, rfl⟩ := Checked.seq_eq_accepted_iff.mp hthree
    obtain ⟨_, message, hone, hmessage, rfl⟩ := Checked.seq_eq_accepted_iff.mp htwo
    obtain ⟨kind, hkind, rfl⟩ := Checked.map_eq_accepted_iff.mp hone
    exact ⟨requiredField_readText_iff.mp hkind, requiredField_readText_iff.mp hmessage,
      optionalField_eq_accepted_iff.mp hhttpStatus, optionalField_eq_accepted_iff.mp hretryAfter,
      optionalField_eq_accepted_iff.mp hretryable, optionalField_eq_accepted_iff.mp hcontext⟩
  · intro h
    refine Checked.seq_accepted (Checked.seq_accepted (Checked.seq_accepted (Checked.seq_accepted
      (Checked.seq_accepted (Checked.map_accepted ?kind) ?message) ?httpStatus) ?retryAfter)
      ?retryable) ?context
    case kind => exact requiredField_readText_iff.mpr h.kind
    case message => exact requiredField_readText_iff.mpr h.message
    case httpStatus => exact optionalField_eq_accepted_iff.mpr h.httpStatus
    case retryAfter => exact optionalField_eq_accepted_iff.mpr h.retryAfter
    case retryable => exact optionalField_eq_accepted_iff.mpr h.retryable
    case context => exact optionalField_eq_accepted_iff.mpr h.context

/-- A result carries a report when its data are an object whose fields tell it. -/
theorem Retry.reportOf?_eq_some_iff {result : StepResult} {report : FailureReport} :
    Retry.reportOf? result = some report ↔
      ∃ fields, result.data = .object fields ∧ report.IsToldBy fields := by
  constructor
  · intro h
    unfold reportOf? at h
    split at h
    · next fields hdata =>
      split at h
      · refine ⟨fields, hdata, FailureReport.reader_eq_accepted_iff.mp ?_⟩
        cases hread : FailureReport.reader (.object fields) with
        | accepted told =>
          rw [hread] at h
          rw [Option.some.inj h]
        | refused issues => simp [hread, Checked.toOption] at h
      · cases h
    · cases h
  · rintro ⟨fields, hdata, htold⟩
    have hkind : Keyed.has fields "error_type" = true := by simp [Keyed.has, htold.kind]
    unfold reportOf?
    rw [hdata]
    dsimp only
    rw [if_pos hkind, FailureReport.reader_eq_accepted_iff.mpr htold]
    rfl

/-- A result warrants another attempt on the strength of a report: the step failed, its data tell
the report, the report says that another attempt can help, and attempts are left. -/
structure StepResult.Warrants (result : StepResult) (maxAttempts : Int) (attempts : Nat)
    (report : FailureReport) : Prop where
  /-- The step failed. -/
  failed : result.status = .error
  /-- The data tell the report. -/
  told : ∃ fields, result.data = .object fields ∧ report.IsToldBy fields
  /-- Another attempt can help. -/
  retryable : report.retryable = true
  /-- Attempts are left. -/
  left : attempts < maxAttempts

/-- The number of seconds that a report promises to wait after a number of attempts: those that
it asks for, whatever their number, or a number that doubles with each attempt when it asks for
none; in any case no more than a minute. -/
def FailureReport.promisedWait (report : FailureReport) (attempts : Nat) : Int :=
  min (report.retryAfter.getD (2 ^ attempts)) 60

/-- The promise is kept unless the report asks for zero seconds, as the time to wait is at least
one second then. -/
theorem FailureReport.wait_eq_promisedWait_iff (report : FailureReport) (attempts : Nat) :
    report.wait attempts = report.promisedWait attempts ↔ report.retryAfter ≠ some 0 := by
  have hpow : ((Nat.pow 2 attempts : Nat) : Int) = 2 ^ attempts := Nat.cast_pow 2 attempts
  have hone : (1 : Int) ≤ 2 ^ attempts := one_le_pow₀ (by decide)
  unfold wait promisedWait
  cases report.retryAfter with
  | none => simp
  | some seconds =>
    simp only [Option.getD_some, ne_eq, Option.some.injEq]
    by_cases hzero : seconds = 0
    · rw [if_pos hzero, hpow]
      omega
    · rw [if_neg hzero]
      simp [hzero]

/-- A report that asks for zero seconds has the time to wait of one that asks for none. -/
theorem FailureReport.wait_of_zero {report : FailureReport} (h : report.retryAfter = some 0)
    (attempts : Nat) : report.wait attempts = min (2 ^ attempts) 60 := by
  unfold wait
  rw [h]
  exact congrArg (min · 60) (Nat.cast_pow 2 attempts)

namespace Retry

/-- A retry is advised when a report warrants it, and then after the time to wait. -/
theorem delay?_eq_some_iff (result : StepResult) (maxAttempts : Int) (attempts : Nat) :
    ∃ advice, advise maxAttempts result attempts = .ok advice ∧
      ∀ delay, advice.delay? = some delay ↔
        ∃ report, result.Warrants maxAttempts attempts report ∧
          delay = .whole (report.wait attempts) := by
  by_cases hfailed : result.status = .error
  · cases hreport : reportOf? result with
    | none =>
      refine ⟨.notRetryable, by simp [advise, hfailed, hreport], fun delay => ?_⟩
      refine ⟨fun h => (nomatch h), ?_⟩
      rintro ⟨report, hwarrants, -⟩
      rw [reportOf?_eq_some_iff.mpr hwarrants.told] at hreport
      cases hreport
    | some report =>
      obtain ⟨advice, hadvice, hdelay⟩ :=
        advise_of_reportOf? hfailed hreport maxAttempts attempts
      refine ⟨advice, hadvice, fun delay => ?_⟩
      rw [hdelay]
      constructor
      · intro h
        split at h
        · next hboth =>
          exact ⟨report, ⟨hfailed, reportOf?_eq_some_iff.mp hreport, hboth.1, hboth.2⟩,
            (Option.some.inj h).symm⟩
        · cases h
      · rintro ⟨other, hwarrants, rfl⟩
        have hsame := hreport.symm.trans (reportOf?_eq_some_iff.mpr hwarrants.told)
        obtain rfl := Option.some.inj hsame
        rw [if_pos ⟨hwarrants.retryable, hwarrants.left⟩]
  · refine ⟨.noFailure, by simp [advise, hfailed], fun delay => ⟨fun h => (nomatch h), ?_⟩⟩
    rintro ⟨report, hwarrants, -⟩
    exact absurd hwarrants.failed hfailed

/-- For every result, every bound on the attempts and every number of attempts made, a retry is
advised exactly when some report warrants it. The time to wait is the one that the report
promises, unless the report asks for zero seconds: then it is the time that doubles with each
attempt, and never the promised one. -/
theorem advises_promised_wait_unless_zero (result : StepResult) (maxAttempts : Int)
    (attempts : Nat) :
    ∃ advice, advise maxAttempts result attempts = .ok advice ∧
      (advice.delay? = none ↔ ∀ report, ¬ result.Warrants maxAttempts attempts report) ∧
      ∀ report, result.Warrants maxAttempts attempts report →
        ∃ seconds, advice.delay? = some (.whole seconds) ∧
          (seconds = report.promisedWait attempts ↔ report.retryAfter ≠ some 0) ∧
          (report.retryAfter = some 0 → seconds = min (2 ^ attempts) 60) := by
  obtain ⟨advice, hadvice, hdelay⟩ := delay?_eq_some_iff result maxAttempts attempts
  refine ⟨advice, hadvice, ⟨fun hnone report hwarrants => ?_, fun hnone => ?_⟩,
    fun report hwarrants => ?_⟩
  · have hsome := (hdelay _).mpr ⟨report, hwarrants, rfl⟩
    rw [hnone] at hsome
    cases hsome
  · refine Option.eq_none_iff_forall_ne_some.mpr fun delay hsome => ?_
    obtain ⟨report, hwarrants, -⟩ := (hdelay delay).mp hsome
    exact hnone report hwarrants
  · exact ⟨report.wait attempts, (hdelay _).mpr ⟨report, hwarrants, rfl⟩,
      report.wait_eq_promisedWait_iff attempts, fun hzero => report.wait_of_zero hzero attempts⟩

/-- A server that is too busy and asks to come back at once: after two attempts the report
promises no wait, and the advice is to wait for four seconds. -/
theorem zero_wait_is_doubled :
    let fields : Fields := [("error_type", .text "HTTP_ERROR"), ("error_message", .text "boom"),
      ("is_retryable", .bool true), ("retry_after_seconds", .int 0)]
    let result : StepResult := ⟨"call", .error, .object fields, some "boom", none⟩
    ∃ report, result.Warrants 3 2 report ∧ report.promisedWait 2 = 0 ∧
      advise 3 result 2 = .ok (.retry (.whole 4)) := by
  intro fields result
  refine ⟨⟨"HTTP_ERROR", "boom", none, some 0, true, []⟩,
    ⟨rfl, ⟨fields, rfl, ⟨rfl, rfl, .absent rfl, .present rfl rfl, .present rfl rfl, .absent rfl⟩⟩,
      rfl, by decide⟩, rfl, rfl⟩

end Retry

end ActionFlow
