import ActionFlow.Http.Client
import ActionFlow.Proofs.Template.Walkers
import ActionFlow.Run.Plan

/-!
# The correlation id of a request

A request over HTTP tells the correlation id in a header. An HTTP call may declare the header
itself; its template is then filled like any other. Otherwise the bound id is told, unless it is
empty. Only the exact name of the header counts, so that one in other capitals stands beside it.
-/

namespace ActionFlow

/-- What comes of a lookup without making the action fail was looked up. -/
theorem orFail_eq_ok {α : Type} {x : Resolved α} {a : α} (h : orFail x = .ok a) : x = .ok a := by
  cases x with
  | error fault => cases h
  | ok found => exact congrArg _ (Except.ok.inj h)

/-- Among the headers of a request is the correlation id that is asked for, the last one if there
are several, or else the one that is bound, unless it is empty. -/
theorem Http.get?_requestHeaders (asked : Fields) (id : Value) :
    Keyed.get? (requestHeaders asked id) correlationHeader =
      (Keyed.get? asked.reverse correlationHeader).or
        (if id.isTruthy then some id else none) := by
  have hmerged := Keyed.get?_merge [("Content-Type", Value.text "application/json")] asked
    correlationHeader
  rw [show Keyed.get? [("Content-Type", Value.text "application/json")] correlationHeader = none
    from rfl, Option.or_none] at hmerged
  unfold requestHeaders Keyed.has
  dsimp only
  rw [hmerged]
  cases hasked : Keyed.get? asked.reverse correlationHeader with
  | some v =>
    rw [if_neg (by simp), hmerged, hasked]
    rfl
  | none =>
    cases hid : id.isTruthy with
    | true =>
      rw [if_pos (by simp), Keyed.get?_set_self]
      rfl
    | false =>
      rw [if_neg (by simp), hmerged, hasked]
      rfl

namespace HttpCall

/-- What headers tell of the correlation id of an HTTP call: the one that the call declares, with
its placeholders filled, or else a given one. -/
inductive Carries (h : HttpCall) (context : Fields) (id : Value) (headers : Fields) : Prop where
  /-- The call declares the header, under exactly its name. -/
  | declared {template text : String}
    (hmem : (Http.correlationHeader, template) ∈ h.headers)
    (htext : substituteText (.object context) template = .ok text)
    (hget : Keyed.get? headers Http.correlationHeader = some (.text text)) :
    h.Carries context id headers
  /-- The call does not declare it. -/
  | given (hnone : Http.correlationHeader ∉ h.headers.map Prod.fst)
    (hget : Keyed.get? headers Http.correlationHeader = some id) : h.Carries context id headers

variable {h : HttpCall} {context : Fields}

/-- The headers of the request of an HTTP call are those that it declares, filled. -/
theorem headers_of_request {request : Http.Request} (hq : h.request context = .ok (.http request)) :
    substituteFields context h.headerFields = .ok request.headers := by
  obtain ⟨url, -, hq⟩ := bind_eq_ok hq
  obtain ⟨headers, hheaders, hq⟩ := bind_eq_ok hq
  obtain ⟨fixed, -, hq⟩ := bind_eq_ok hq
  obtain ⟨body, -, hq⟩ := bind_eq_ok hq
  cases hq
  exact orFail_eq_ok hheaders

/-- A filled header was declared, with the template that it is filled from. -/
theorem declared_of_filled {headers : Fields}
    (hfilled : substituteFields context h.headerFields = .ok headers) {name : String} {v : Value}
    (hv : (name, v) ∈ headers) : ∃ template text, (name, template) ∈ h.headers ∧
      substituteText (.object context) template = .ok text ∧ v = .text text := by
  obtain ⟨field, hfield, hchange⟩ := Value.mem_of_mem_mapTextsFields hfilled hv
  obtain ⟨⟨own, template⟩, hmem, heq⟩ := List.mem_map.mp hfield
  obtain ⟨rfl, rfl⟩ := Prod.mk.inj heq
  obtain ⟨text, htext, rfl⟩ := map_eq_ok hchange
  exact ⟨template, text, hmem, htext, rfl⟩

/-- The names of the filled headers are those that are declared. -/
theorem names_of_filled {headers : Fields}
    (hfilled : substituteFields context h.headerFields = .ok headers) :
    headers.map Prod.fst = h.headers.map Prod.fst := by
  rw [Value.keys_mapTextsFields hfilled, headerFields, List.map_map]
  rfl

/-- The request of an HTTP call is sent with the correlation id that the call declares, or else
with the one that is bound, which is not empty. -/
theorem carries_of_request {request : Http.Request} (hq : h.request context = .ok (.http request))
    {id : Value} (hid : id.isTruthy = true) :
    h.Carries context id (Http.requestHeaders request.headers id) := by
  have hfilled := headers_of_request hq
  have hget := Http.get?_requestHeaders request.headers id
  cases hdeclared : Keyed.get? request.headers.reverse Http.correlationHeader with
  | some v =>
    have hv : (Http.correlationHeader, v) ∈ request.headers := by
      obtain ⟨before, after, hsplit, -⟩ := List.lookup_eq_some_iff.mp hdeclared
      rw [← List.mem_reverse, hsplit]
      exact List.mem_append_right before List.mem_cons_self
    obtain ⟨template, text, hmem, htext, rfl⟩ := declared_of_filled hfilled hv
    rw [hdeclared, Option.some_or] at hget
    exact .declared hmem htext hget
  | none =>
    rw [hdeclared, Option.none_or, if_pos hid] at hget
    refine .given (fun hmem => ?_) hget
    have hname : Http.correlationHeader ∈ request.headers.reverse.map Prod.fst := by
      rwa [List.map_reverse, List.mem_reverse, names_of_filled hfilled]
    have hsome := Keyed.isSome_get?_iff.mpr hname
    rw [hdeclared] at hsome
    cases hsome

end HttpCall

end ActionFlow
