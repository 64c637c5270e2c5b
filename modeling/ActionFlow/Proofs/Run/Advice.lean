import ActionFlow.Proofs.Document.Fields
import ActionFlow.Proofs.Http.Judgement
import ActionFlow.Run.Retry
import Mathlib

/-!
# Advice on failures over HTTP

What a service over HTTP reports of its failure is the report on which retrying is advised:
the report travels as the data of the error result, and is read back from there as it was.
Only a failure that may pass is worth another attempt, and the time to wait is between one
second and a minute, and never shorter after more attempts.
-/

namespace ActionFlow

/-- A report is read back. -/
theorem FailureReport.reader_toValue (report : FailureReport) :
    FailureReport.reader report.toValue = .accepted report := by
  obtain ⟨kind, message, httpStatus, retryAfter, retryable, context⟩ := report
  refine Schema.record_present (by simp) fun hk => ?_
  dsimp only
  refine Schema.Checked.seq_accepted (Schema.Checked.seq_accepted (Schema.Checked.seq_accepted
    (Schema.Checked.seq_accepted (Schema.Checked.seq_accepted
      (Schema.Checked.map_accepted ?kind) ?message) ?httpStatus) ?retryAfter) ?retryable) ?context
  case kind => exact Schema.requiredField_present hk rfl rfl
  case message => exact Schema.requiredField_present hk rfl rfl
  case httpStatus => exact Schema.optionalField_int hk rfl (.inl rfl)
  case retryAfter => exact Schema.optionalField_int hk rfl (.inl rfl)
  case retryable => exact Schema.optionalField_present hk rfl rfl
  case context => exact Schema.optionalField_present hk rfl (Schema.objectOf_anything context)

/-- The number of seconds to wait after a number of attempts: those that the server asks for
or, when it asks for none, a number that doubles with each attempt; in any case no more than a
minute. -/
def FailureReport.wait (report : FailureReport) (attempts : Nat) : Int :=
  match report.retryAfter with
  | some seconds => min (if seconds = 0 then ((Nat.pow 2 attempts : Nat) : Int) else seconds) 60
  | none => min ((Nat.pow 2 attempts : Nat) : Int) 60

/-- The time to wait is between one second and a minute, when a server asks for no negative
time. -/
theorem FailureReport.wait_bounds {report : FailureReport}
    (h : ∀ seconds, report.retryAfter = some seconds → 0 ≤ seconds) (attempts : Nat) :
    1 ≤ report.wait attempts ∧ report.wait attempts ≤ 60 := by
  have hpow : 0 < Nat.pow 2 attempts := Nat.pow_pos (by decide)
  unfold wait
  split
  · next seconds hseconds =>
    have hnonneg := h seconds hseconds
    split <;> omega
  · omega

/-- The time to wait does not get shorter with more attempts. -/
theorem FailureReport.wait_mono (report : FailureReport) : Monotone report.wait := by
  intro attempts more hle
  have hpow : Nat.pow 2 attempts ≤ Nat.pow 2 more := Nat.pow_le_pow_right (by decide) hle
  unfold wait
  split
  · split <;> omega
  · omega

namespace Retry

/-- The doubling stops at a minute. -/
theorem backoff_eq (attempts : Nat) :
    backoff attempts = .ok (.whole (min ((Nat.pow 2 attempts : Nat) : Int) 60)) := by
  have hshort : attempts < 6 → Nat.pow 2 attempts ≤ Nat.pow 2 5 :=
    fun h => Nat.pow_le_pow_right (by decide) (by omega)
  have hlong : ¬ attempts < 6 → Nat.pow 2 6 ≤ Nat.pow 2 attempts :=
    fun h => Nat.pow_le_pow_right (by decide) (by omega)
  have h5 : Nat.pow 2 5 = 32 := rfl
  have h6 : Nat.pow 2 6 = 64 := rfl
  have hseconds : (if attempts < 6 then ((Nat.pow 2 attempts : Nat) : Int) else longestDelay : Int) =
      min ((Nat.pow 2 attempts : Nat) : Int) 60 := by
    unfold longestDelay
    split <;> omega
  exact congrArg (fun seconds => Except.ok (Delay.whole seconds)) hseconds

/-- The delay after a number of attempts is the time to wait. -/
theorem delay_eq (report : FailureReport) (attempts : Nat) :
    delay report attempts = .ok (.whole (report.wait attempts)) := by
  unfold delay FailureReport.wait
  cases report.retryAfter with
  | none => exact backoff_eq attempts
  | some seconds =>
    dsimp only
    split
    · exact backoff_eq attempts
    · rfl

/-- The result of a failure that a service reported carries the report. -/
theorem reportOf?_result (id : String) (report : FailureReport) :
    reportOf? ((Failure.reported report).result id) = some report := by
  have hread := report.reader_toValue
  unfold FailureReport.toValue at hread
  have hkind : Keyed.has report.fields "error_type" = true := rfl
  unfold reportOf? Failure.result FailureReport.toValue
  dsimp only
  rw [if_pos hkind, hread]
  rfl

/-- On an error result that carries a report, a retry is advised exactly when the report says
that it can help and attempts are left, and then after the time to wait. -/
theorem advise_of_reportOf? {result : StepResult} {report : FailureReport}
    (hs : result.status = .error) (hr : reportOf? result = some report) (maxAttempts : Int)
    (attempts : Nat) :
    ∃ advice, advise maxAttempts result attempts = .ok advice ∧
      advice.delay? = if report.retryable = true ∧ attempts < maxAttempts then
        some (.whole (report.wait attempts)) else none := by
  unfold advise
  rw [if_neg (not_not.mpr hs), hr]
  dsimp only
  cases hretryable : report.retryable with
  | false => exact ⟨.notRetryable, rfl, by simp [Advice.delay?]⟩
  | true =>
    by_cases hleft : maxAttempts ≤ attempts
    · exact ⟨.exhausted, by simp [hleft], by simp [Advice.delay?, hleft]⟩
    · refine ⟨.retry (.whole (report.wait attempts)), ?_, ?_⟩
      · simp [hleft, delay_eq, Except.map]
      · simp [Advice.delay?, Int.not_le.mp hleft]

end Retry

namespace Http

/-- Whether what ended a request may pass: a status that says so, or trouble with the
network. -/
def Outcome.mayPass : Outcome → Bool
  | .answered response => [408, 429, 500, 502, 503, 504].contains response.status
  | .troubled (.network _ _) => true
  | .troubled _ => false

/-- A server asks for no negative time. -/
theorem waitAsked_nonneg {response : Response} {seconds : Int}
    (h : waitAsked response = .ok (some seconds)) : 0 ≤ seconds := by
  unfold waitAsked at h
  repeat' split at h
  all_goals cases h
  exact Int.natCast_nonneg _

/-- What is reported of a response can be retried exactly when its status may go away, and asks
for no negative time. -/
theorem judgeResponse_reported {sent : Sent} {response : Response} {report : FailureReport}
    (h : judgeResponse sent response = .error (.reported report)) :
    report.retryable = retryableStatuses.contains response.status ∧
      ∀ seconds, report.retryAfter = some seconds → 0 ≤ seconds := by
  have hcomes := judgeResponse_comesTo sent response
  rw [h] at hcomes
  cases hcomes with
  | malformed hf _ _ =>
    refine ⟨(Bool.not_eq_true _ ▸ mt Response.isFailure_of_retryable hf).symm, fun _ hs => ?_⟩
    cases hs
  | refused _ hr => exact ⟨hr.symm, fun _ hs => by cases hs⟩
  | retryable _ hr hw =>
    exact ⟨hr.symm, fun _ hs => waitAsked_nonneg (hw.trans (congrArg Except.ok hs))⟩

/-- What is reported of the end of a request can be retried exactly when it may pass, and asks
for no negative time. -/
theorem judge_reported {sent : Sent} {outcome : Outcome} {report : FailureReport}
    (h : judge sent outcome = .error (.reported report)) :
    report.retryable = outcome.mayPass ∧
      ∀ seconds, report.retryAfter = some seconds → 0 ≤ seconds := by
  cases outcome with
  | answered response => exact judgeResponse_reported h
  | troubled trouble =>
    cases trouble with
    | network kind message =>
      obtain rfl := Failure.reported.inj (Except.error.inj h)
      exact ⟨rfl, fun _ hs => by cases hs⟩
    | request message status =>
      obtain rfl := Failure.reported.inj (Except.error.inj h)
      exact ⟨rfl, fun _ hs => by cases hs⟩
    | missingKey key => cases h
    | other kind message => cases h

end Http

namespace Run

/-- An action that asks for an answer over HTTP comes to the failure that ends its request. -/
theorem outcome_of_judge_error {run : Run} {a : Action} {call : HttpCall}
    (ht : a.task = .http call) {context input : Fields} {request : Http.Request}
    (hq : call.request (Keyed.merge context input) = .ok (.http request)) {s : Services}
    {timeout : Value} {outcome : Http.Outcome} {later : List Http.Outcome}
    (hs : s.http = .session timeout (outcome :: later)) {failure : Failure}
    (hr : Http.judge (request.sent (s.correlation.enter run.id).bound timeout) outcome =
      .error failure) :
    run.outcome a context input s = .error failure := by
  have hsend : ((run.announced a s).send (.http request)).1 = .error failure :=
    (Services.sendHttp_session (s := run.announced a s) hs request).trans hr
  rw [outcome_of_http ht hq]
  exact Services.ask_of_error hsend a.id

/-- A run at an action that asks for an answer over HTTP answers a reported failure with its
result. -/
theorem At.answer_of_reported {run : Run} {a : Action} {context : Fields} (h : run.At a context)
    {call : HttpCall} (ht : a.task = .http call) {input : Fields} {request : Http.Request}
    (hq : call.request (Keyed.merge context input) = .ok (.http request)) {s : Services}
    {timeout : Value} {outcome : Http.Outcome} {later : List Http.Outcome}
    (hs : s.http = .session timeout (outcome :: later)) {report : FailureReport}
    (hr : Http.judge (request.sent (s.correlation.enter run.id).bound timeout) outcome =
      .error (.reported report)) :
    (run.step input s).answer = .ok ((Failure.reported report).result a.id) :=
  h.answer_of_outcome_error (outcome_of_judge_error ht hq hs hr)

end Run

/-- A run at an action that asks for an answer over HTTP, with any input and any end of the
request, hands on what is reported of a failure: the step answers with an error result that
carries this report. For it there is a time to wait that is between one second and a minute and
never shorter after more attempts, and after any number of attempts a retry is advised exactly
when attempts are left and the failure may pass, and then after that time. -/
theorem Run.reported_failure_is_advised {run : Run} {a : Action} {context : Fields}
    (h : run.At a context) {call : HttpCall} (ht : a.task = .http call) {input : Fields}
    {request : Http.Request} (hq : call.request (Keyed.merge context input) = .ok (.http request))
    {s : Services} {timeout : Value} {outcome : Http.Outcome} {later : List Http.Outcome}
    (hs : s.http = .session timeout (outcome :: later)) {report : FailureReport}
    (hr : Http.judge (request.sent (s.correlation.enter run.id).bound timeout) outcome =
      .error (.reported report)) :
    ∃ result, (run.step input s).answer = .ok result ∧ result.status = .error ∧
      Retry.reportOf? result = some report ∧
      ∃ seconds : Nat → Int, Monotone seconds ∧
        (∀ attempts, 1 ≤ seconds attempts ∧ seconds attempts ≤ 60) ∧
        ∀ (maxAttempts : Int) (attempts : Nat),
          ∃ advice, Retry.advise maxAttempts result attempts = .ok advice ∧
            advice.delay? = if outcome.mayPass = true ∧ attempts < maxAttempts then
              some (.whole (seconds attempts)) else none := by
  obtain ⟨hretryable, hnonneg⟩ := Http.judge_reported hr
  have hreport := Retry.reportOf?_result a.id report
  refine ⟨_, h.answer_of_reported ht hq hs hr, rfl, hreport, report.wait, report.wait_mono,
    report.wait_bounds hnonneg, fun maxAttempts attempts => ?_⟩
  rw [← hretryable]
  exact Retry.advise_of_reportOf? rfl hreport maxAttempts attempts

/-- A flow that sends a request and ends. -/
def postingFlow : Flow where
  label := "Post"
  initial := "post"
  actions :=
    [⟨"post", "Post", [⟨"done", []⟩], .http ⟨"https://example.org", "POST", [], [], []⟩⟩,
      ⟨"done", "Done", [], .completion ⟨"Posted", "success"⟩⟩]

/-- A server that is too busy and asks to wait for seven seconds: its report comes through. -/
theorem Run.busy_server_is_advised :
    let run := Run.start postingFlow [] (.text "r")
    let busy : Http.Outcome := .answered ⟨429, "Too Many Requests", [("Retry-After", "7")], ""⟩
    let s : Services := { Services.quiet with http := .session (.int 30) [busy] }
    let report : FailureReport := ⟨"HTTP_ERROR", "HTTP 429: Too Many Requests", some 429, some 7,
      true, [("url", .text "https://example.org"), ("method", .text "POST")]⟩
    ∃ a call request, run.At a [] ∧ a.task = .http call ∧
      call.request (Keyed.merge [] []) = .ok (.http request) ∧
      Http.judge (request.sent (s.correlation.enter run.id).bound (.int 30)) busy =
        .error (.reported report) ∧
      ∃ result, (run.step [] s).answer = .ok result ∧ result.status = .error ∧
        Retry.reportOf? result = some report ∧
        ∃ seconds : Nat → Int, Monotone seconds ∧
          (∀ attempts, 1 ≤ seconds attempts ∧ seconds attempts ≤ 60) ∧
          ∀ (maxAttempts : Int) (attempts : Nat),
            ∃ advice, Retry.advise maxAttempts result attempts = .ok advice ∧
              advice.delay? = if busy.mayPass = true ∧ attempts < maxAttempts then
                some (.whole (seconds attempts)) else none := by
  intro run busy s report
  have hat : run.At _ [] := ⟨rfl, rfl, rfl, rfl⟩
  have hrequest : (HttpCall.mk "https://example.org" "POST" [] [] []).request (Keyed.merge [] []) =
      .ok (.http ⟨"https://example.org", "POST", [], []⟩) := by cbv
  have hjudge : Http.judge ((Http.Request.mk "https://example.org" "POST" [] []).sent
      (s.correlation.enter run.id).bound (.int 30)) busy = .error (.reported report) := by cbv
  exact ⟨_, _, _, hat, rfl, hrequest, hjudge,
    Run.reported_failure_is_advised hat rfl hrequest rfl hjudge⟩

end ActionFlow
