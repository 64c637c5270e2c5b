import ActionFlow.Proofs.Json.Limits
import ActionFlow.Proofs.Run.Calls
import Mathlib

/-!
# What a request over HTTP comes to

A response whose status blames no side stands for its content, and any other is a failure. A
request ends with an answer or with a report of the failure, unless a server answers with a
number that cannot be read: the seconds to wait, or too long a number in the body.
-/

namespace ActionFlow

/-- An index is read exactly of decimal digits of which there are not too many. -/
theorem readIndex_isOk_iff {part : List Char} :
    (∃ index, readIndex part = .ok index) ↔ part.length ≤ IndexFault.digitLimit ∧
      ∀ c ∈ part, (Text.decimalDigit? c).isSome = true := by
  unfold readIndex
  by_cases hall : ∀ c ∈ part, (Text.decimalDigit? c).isSome = true
  · rw [List.takeWhile_eq_self_iff.mpr hall, and_iff_left hall]
    by_cases hlong : IndexFault.digitLimit < part.length
    · simp [hlong]
    · simp [hlong, Nat.not_lt.mp hlong]
  · -- The decimal digits at the front are not all of it.
    have hshort : (part.takeWhile fun c => (Text.decimalDigit? c).isSome).length < part.length := by
      refine lt_of_le_of_ne (List.takeWhile_prefix _).length_le fun hlength => hall ?_
      exact List.takeWhile_eq_self_iff.mp ((List.takeWhile_prefix _).eq_of_length hlength)
    dsimp only
    refine iff_of_false ?_ fun h => hall h.2
    rintro ⟨index, hindex⟩
    rw [if_pos hshort] at hindex
    split at hindex <;> cases hindex

namespace Http

/-- A response whose status blames one of the two sides. -/
def Response.IsFailure (r : Response) : Prop := 400 ≤ r.status ∧ r.status < 600

/-- A response that asks to wait, in digits that are no decimal number or are too many. -/
def Response.AsksUnreadably (r : Response) : Prop :=
  r.status = 429 ∧ ∃ text, r.header? "retry-after" = some text ∧ text ≠ "" ∧
    text.toList.all Text.isDigit = true ∧
    ¬ (text.toList.length ≤ IndexFault.digitLimit ∧
      ∀ c ∈ text.toList, (Text.decimalDigit? c).isSome = true)

/-- No side is blamed exactly below 400 and from 600 on. -/
theorem blamedSide?_eq_none_iff {status : Int} :
    blamedSide? status = none ↔ ¬ (400 ≤ status ∧ status < 600) := by
  unfold blamedSide?
  split
  · exact iff_of_false nofun (by omega)
  · split
    · exact iff_of_false nofun (by omega)
    · exact iff_of_true rfl (by omega)

/-- A status that may go away blames a side. -/
theorem Response.isFailure_of_retryable {r : Response}
    (h : retryableStatuses.contains r.status = true) : r.IsFailure := by
  simp only [retryableStatuses, List.contains_eq_mem, List.mem_cons, List.not_mem_nil, or_false,
    decide_eq_true_eq] at h
  unfold IsFailure
  omega

/-- Only too many requests are a reason to ask to wait. -/
theorem Response.AsksUnreadably.retryable {r : Response} (h : r.AsksUnreadably) :
    retryableStatuses.contains r.status = true := by
  rw [h.1]
  rfl

/-- The time to wait cannot be told exactly when a server asks for it unreadably. -/
theorem waitAsked_eq_error_iff {r : Response} :
    (∃ fault, waitAsked r = .error fault) ↔ r.AsksUnreadably := by
  unfold waitAsked Response.AsksUnreadably
  constructor
  · rintro ⟨fault, h⟩
    split at h
    · next hstatus =>
      split at h
      · next text htext =>
        split at h
        · next hdigits =>
          refine ⟨hstatus, text, htext, hdigits.1, hdigits.2, fun hdecimal => ?_⟩
          obtain ⟨index, hindex⟩ := readIndex_isOk_iff.mpr hdecimal
          rw [hindex] at h
          cases h
        · cases h
      · cases h
    · cases h
  · rintro ⟨hstatus, text, htext, hne, hdigits, hbad⟩
    rw [if_pos hstatus, htext]
    dsimp only
    rw [if_pos ⟨hne, hdigits⟩]
    cases hread : readIndex text.toList with
    | ok index => exact absurd (readIndex_isOk_iff.mp ⟨index, hread⟩) hbad
    | error fault => exact ⟨fault, rfl⟩

/-- What a response to a request comes to. -/
inductive Response.ComesTo (sent : Sent) (r : Response) : Except Failure Value → Prop where
  /-- A response that blames no side stands for its content. -/
  | content {v : Value} (hf : ¬ r.IsFailure) (hc : r.content = .ok v) : r.ComesTo sent (.ok v)
  /-- A body that is no JSON is reported. -/
  | malformed {e : Json.ReadError} (hf : ¬ r.IsFailure) (hc : r.content = .error e)
    (hs : e.isSyntax = true) : r.ComesTo sent (.error (requestFailure sent.url e.message none))
  /-- Too long a number in the body is not. -/
  | tooLong {e : Json.ReadError} (hf : ¬ r.IsFailure) (hc : r.content = .error e)
    (hs : e.isSyntax = false) : r.ComesTo sent (.error (.unreadableAnswer e))
  /-- A status that blames a side is reported. -/
  | refused {message : String} (hf : r.IsFailure)
    (hr : retryableStatuses.contains r.status = false) :
    r.ComesTo sent (.error (requestFailure sent.url message (some r.status)))
  /-- A status that may go away is reported as such. -/
  | retryable {message : String} {wait : Option Int} {context : Fields} (hf : r.IsFailure)
    (hr : retryableStatuses.contains r.status = true) (hw : waitAsked r = .ok wait) :
    r.ComesTo sent
      (.error (.reported ⟨"HTTP_ERROR", message, some r.status, wait, true, context⟩))
  /-- A time to wait that cannot be read is not. -/
  | unreadable {fault : IndexFault} (hf : r.IsFailure) (hw : waitAsked r = .error fault) :
    r.ComesTo sent (.error (.unreadableIndex fault))

/-- A response is judged in one of the ways above. -/
theorem judgeResponse_comesTo (sent : Sent) (r : Response) :
    r.ComesTo sent (judgeResponse sent r) := by
  unfold judgeResponse
  split
  · next hr =>
    have hf := Response.isFailure_of_retryable hr
    split
    · next hw => exact .unreadable hf hw
    · next hw => exact .retryable hf hr hw
  · next hr =>
    split
    · next side hside =>
      refine .refused ?_ (Bool.not_eq_true _ ▸ hr)
      by_contra hf
      rw [blamedSide?_eq_none_iff.mpr hf] at hside
      cases hside
    · next hside =>
      have hf : ¬ r.IsFailure := blamedSide?_eq_none_iff.mp hside
      split
      · next hc => exact .content hf hc
      · next e hc =>
        split
        · next hs => exact .malformed hf hc hs
        · next hs => exact .tooLong hf hc (Bool.not_eq_true _ ▸ hs)

/-- A response stands for a value exactly when its status blames no side and the value is its
content. -/
theorem judgeResponse_eq_ok_iff {sent : Sent} {r : Response} {v : Value} :
    judgeResponse sent r = .ok v ↔ ¬ r.IsFailure ∧ r.content = .ok v := by
  have h := judgeResponse_comesTo sent r
  constructor
  · intro hv
    rw [hv] at h
    cases h with
    | content hf hc => exact ⟨hf, hc⟩
  · rintro ⟨hf, hv⟩
    generalize judgeResponse sent r = judged at h
    cases h with
    | content _ hc => exact congrArg _ (Except.ok.inj (hc.symm.trans hv))
    | malformed _ hc _ => cases hc.symm.trans hv
    | tooLong _ hc _ => cases hc.symm.trans hv
    | refused hfail _ => exact absurd hfail hf
    | retryable hfail _ _ => exact absurd hfail hf
    | unreadable hfail _ => exact absurd hfail hf

/-- A response whose status blames a side comes to a failure, which is reported with the status
unless a server asks unreadably to wait. -/
theorem judgeResponse_of_isFailure (sent : Sent) {r : Response} (hf : r.IsFailure) :
    ∃ failure, judgeResponse sent r = .error failure ∧
      (¬ r.AsksUnreadably → ∃ report, failure = .reported report ∧
        report.httpStatus = some r.status ∧
        report.retryable = retryableStatuses.contains r.status) := by
  have h := judgeResponse_comesTo sent r
  generalize judgeResponse sent r = judged at h
  cases h with
  | content hn _ => exact absurd hf hn
  | malformed hn _ _ => exact absurd hf hn
  | tooLong hn _ _ => exact absurd hf hn
  | refused _ hr => exact ⟨_, rfl, fun _ => ⟨_, rfl, rfl, hr.symm⟩⟩
  | retryable _ hr _ => exact ⟨_, rfl, fun _ => ⟨_, rfl, rfl, hr.symm⟩⟩
  | unreadable _ hfault =>
    exact ⟨_, rfl, fun hw => absurd (waitAsked_eq_error_iff.mp ⟨_, hfault⟩) hw⟩

end Http

namespace Http

end Http

/-- A session over HTTP ends a request as it is judged. -/
theorem Services.sendHttp_session {s : Services} {timeout : Value} {outcome : Http.Outcome}
    {later : List Http.Outcome} (hs : s.http = .session timeout (outcome :: later))
    (request : Http.Request) :
    (s.sendHttp request).1 = Http.judge (request.sent s.correlation.bound timeout) outcome := by
  unfold sendHttp
  rw [hs]
  rfl

end ActionFlow
