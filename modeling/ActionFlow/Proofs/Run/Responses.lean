import ActionFlow.Proofs.Run.Advice
import ActionFlow.Proofs.Run.Repetition
import Mathlib

/-!
# Responses and the steps that wait for them

A step that asks for an answer over HTTP succeeds exactly when the response that it gets blames no
side and has a content. A response that blames a side is a failure, with which the run stays at its
action. Statuses that blame no side are not told apart: what is answered with one of them counts as
a success, be it one of those below 300 or not.
-/

namespace ActionFlow

/-- An action that asks for an answer over HTTP succeeds exactly when its request has one. -/
theorem Services.ask_http_succeeds_iff {s : Services} {id : String} {request : Http.Request} :
    (∃ result, (s.ask id (.http request)).1 = .ok result ∧ result.status = .success) ↔
      ∃ v, (s.sendHttp request).1 = .ok v := by
  unfold ask send
  dsimp only
  split
  · next hreply => simp [hreply]
  · next hreply => exact iff_of_true ⟨_, rfl, rfl⟩ ⟨_, congrArg Prod.fst hreply⟩

/-- An action that asks for an answer over HTTP succeeds exactly when the response that it gets
blames no side and has a content. -/
theorem Run.outcome_succeeds_iff {run : Run} {a : Action} {context input : Fields}
    {call : HttpCall} (ht : a.task = .http call) {request : Http.Request}
    (hq : call.request (Keyed.merge context input) = .ok (.http request)) {s : Services}
    {timeout : Value} {response : Http.Response} {later : List Http.Outcome}
    (hs : s.http = .session timeout (.answered response :: later)) :
    (∃ result, run.outcome a context input s = .ok result ∧ result.status = .success) ↔
      ¬ response.IsFailure ∧ ∃ v, response.content = .ok v := by
  have hsend := Services.sendHttp_session (s := run.announced a s) hs request
  rw [outcome_of_http ht hq, Services.ask_http_succeeds_iff, hsend]
  simp only [Http.judge, Http.judgeResponse_eq_ok_iff, exists_and_left]

/-- A step that asks for an answer over HTTP succeeds exactly when the response that it gets
blames no side and has a content. When a response blames a side, the request ends in a failure,
which is reported with the status unless the time to wait cannot be read. The step answers with
this failure, and the run stays at its action. -/
theorem Run.failed_response_never_advances {run : Run} {a : Action} {context : Fields}
    (h : run.At a context) {call : HttpCall} (ht : a.task = .http call) {input : Fields}
    {request : Http.Request} (hq : call.request (Keyed.merge context input) = .ok (.http request))
    {s : Services} {timeout : Value} {response : Http.Response} {later : List Http.Outcome}
    (hs : s.http = .session timeout (.answered response :: later)) :
    ((∃ result, run.outcome a context input s = .ok result ∧ result.status = .success) ↔
        ¬ response.IsFailure ∧ ∃ v, response.content = .ok v) ∧
      (response.IsFailure → ∃ failure,
        ((run.announced a s).sendHttp request).1 = .error failure ∧
        (¬ response.AsksUnreadably →
          ∃ report, failure = .reported report ∧ report.httpStatus = some response.status) ∧
        (run.step input s).answer = .ok (failure.result a.id) ∧
        (failure.result a.id).status = .error ∧
        (run.step input s).run.current = run.current ∧
        (run.step input s).run.phase = .running) := by
  refine ⟨outcome_succeeds_iff ht hq hs, fun hf => ?_⟩
  obtain ⟨failure, hfailure, hreported⟩ := Http.judgeResponse_of_isFailure
    (request.sent (run.announced a s).correlation.bound timeout) hf
  have hsend : ((run.announced a s).sendHttp request).1 = .error failure :=
    (Services.sendHttp_session (s := run.announced a s) hs request).trans hfailure
  have hanswer : (run.step input s).answer = .ok (failure.result a.id) :=
    h.answer_of_outcome_error (outcome_of_judge_error ht hq hs hfailure)
  have hstatus : (failure.result a.id).status = .error := (failure.result_refuses a.id).2.1
  have hrun := h.step_of_failed hanswer hstatus
  refine ⟨failure, hsend, fun hreadable => ?_, hanswer, hstatus, by rw [hrun], by rw [hrun]⟩
  obtain ⟨report, hreport, hsame, -⟩ := hreported hreadable
  exact ⟨report, hreport, hsame⟩

/-- A page that is missing does not let a run go on. -/
theorem Run.missing_page_never_advances :
    let run := Run.start postingFlow [] (.text "r")
    let response : Http.Response := ⟨404, "Not Found", [], "Nothing here"⟩
    let s : Services := { Services.quiet with http := .session (.int 30) [.answered response] }
    ∃ a call request, run.At a [] ∧ a.task = .http call ∧
      call.request (Keyed.merge [] []) = .ok (.http request) ∧ response.IsFailure ∧
      ¬ (∃ result, run.outcome a [] [] s = .ok result ∧ result.status = .success) ∧
      ∃ failure, ((run.announced a s).sendHttp request).1 = .error failure ∧
        (∃ report, failure = .reported report ∧ report.httpStatus = some 404) ∧
        (run.step [] s).answer = .ok (failure.result a.id) ∧
        (failure.result a.id).status = .error ∧
        (run.step [] s).run.current = .text "post" ∧ (run.step [] s).run.phase = .running := by
  intro run response s
  have hat : run.At _ [] := ⟨rfl, rfl, rfl, rfl⟩
  have hrequest : (HttpCall.mk "https://example.org" "POST" [] [] []).request (Keyed.merge [] []) =
      .ok (.http ⟨"https://example.org", "POST", [], []⟩) := by cbv
  have hf : response.IsFailure := ⟨by decide, by decide⟩
  have hreadable : ¬ response.AsksUnreadably := fun hasks => absurd hasks.1 (by decide)
  obtain ⟨hsucceeds, hfails⟩ := Run.failed_response_never_advances hat rfl hrequest
    (show s.http = .session (.int 30) (.answered response :: []) from rfl)
  obtain ⟨failure, hreply, hreport, hanswer, hstatus, hcurrent, hphase⟩ := hfails hf
  exact ⟨_, _, _, hat, rfl, hrequest, hf, fun hresult => (hsucceeds.mp hresult).1 hf, failure,
    hreply, hreport hreadable, hanswer, hstatus, hcurrent, hphase⟩

/-- A page that was not modified does: its status is neither that of a success nor one that
blames a side, and what is answered with it lets the run go on to its next action. -/
theorem Run.unmodified_page_advances :
    let run := Run.start postingFlow [] (.text "r")
    let response : Http.Response := ⟨304, "Not Modified", [], ""⟩
    let s : Services := { Services.quiet with http := .session (.int 30) [.answered response] }
    let request : Http.Request := ⟨"https://example.org", "POST", [], []⟩
    ¬ (200 ≤ response.status ∧ response.status ≤ 299) ∧
      (s.sendHttp request).1 = .ok (.object [("text", .text ""), ("status_code", .int 304)]) ∧
      (∃ result, (run.step [] s).answer = .ok result ∧ result.status = .success) ∧
      (run.step [] s).run.current = .text "done" := by
  intro run response s request
  have hat : run.At _ [] := ⟨rfl, rfl, rfl, rfl⟩
  have hrequest : (HttpCall.mk "https://example.org" "POST" [] [] []).request (Keyed.merge [] []) =
      .ok (.http request) := by cbv
  have hcontent : response.content =
      .ok (.object [("text", .text ""), ("status_code", .int 304)]) := by
    have hplain : response.isJson = false := by cbv
    unfold Http.Response.content
    rw [hplain]
    rfl
  have hreply : ∀ s : Services, s.http = .session (.int 30) [.answered response] →
      (s.sendHttp request).1 = .ok (.object [("text", .text ""), ("status_code", .int 304)]) := by
    intro s hs
    rw [Services.sendHttp_session hs]
    exact Http.judgeResponse_eq_ok_iff.mpr ⟨fun hf => absurd hf.1 (by decide), hcontent⟩
  obtain ⟨result, hresult, hsuccess⟩ :=
    Services.ask_http_succeeds_iff.mpr ⟨_, hreply (run.announced _ s) rfl⟩
  obtain ⟨hanswer, hrun⟩ := Run.step_at hat [] s
  rw [(Run.outcome_of_http rfl hrequest s).trans hresult,
    run.settle_of_success hsuccess (by decide) rfl (by decide)] at hanswer hrun
  exact ⟨by decide, hreply s rfl, ⟨_, hanswer, hsuccess⟩, congrArg Run.current hrun⟩

end ActionFlow
