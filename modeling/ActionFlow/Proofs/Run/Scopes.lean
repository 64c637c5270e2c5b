import ActionFlow.Proofs.Http.Headers
import ActionFlow.Proofs.Run.Advice
import ActionFlow.Proofs.Run.Forms
import ActionFlow.Proofs.Run.Restoration
import ActionFlow.Proofs.Run.Transfers

/-!
# Correlation ids within scopes

Whatever is done with services is done in scopes, one after the other or one inside another, and
a scope ends in the same way whether what is inside it comes to its end or raises an exception.
Hence a scope leaves the bound id as it found it, and inside some scopes the id is the first one
from outside that is not empty. A step is such a scope, with the id of its run. A request that it
sends over HTTP carries the id that its action declares, or else the one that is bound.
-/

namespace ActionFlow

namespace Log.Correlation

/-- The id that is bound, unless it is empty. -/
def id? (c : Correlation) : Option Value := if c.bound.isTruthy then some c.bound else none

/-- A scope binds its own id unless one is bound that is not empty. -/
theorem bound_enter (id : Value) (c : Correlation) :
    (c.enter id).bound = if c.bound.isTruthy then c.bound else id := by
  unfold enter
  split <;> rfl

/-- Inside scopes, the outermost first, the id is the first one that is not empty. -/
theorem id?_foldl_enter (ids : List Value) (c : Correlation) :
    (ids.foldl (fun c id => c.enter id) c).id? = (c.bound :: ids).find? Value.isTruthy := by
  induction ids generalizing c with
  | nil =>
    rw [List.foldl_nil, id?, List.find?_cons, List.find?_nil]
    cases c.bound.isTruthy <;> rfl
  | cons id rest ih =>
    rw [List.foldl_cons, ih, bound_enter]
    cases hc : c.bound.isTruthy with
    | true => rw [if_pos rfl, List.find?_cons_of_pos hc, List.find?_cons_of_pos hc]
    | false =>
      rw [if_neg Bool.false_ne_true]
      exact (List.find?_cons_of_neg (by simp [hc])).symm

end Log.Correlation

namespace Services

/-- Opens a scope that brings an id of its own. -/
def enter (id : Value) (s : Services) : Services :=
  { s with correlation := s.correlation.enter id }

/-- Ends the innermost scope. -/
def leave (s : Services) : Services := { s with correlation := s.correlation.leave }

end Services

/-- What comes of something that is done with services. -/
structure Ending where
  /-- The services after it. -/
  services : Services
  /-- Whether it ended in an exception. -/
  raised : Bool

/-- Something that is done with services, opens no scope and binds no id. -/
structure Deed where
  /-- What comes of it. -/
  perform : Services → Ending
  /-- The bound id stays. -/
  keeps : ∀ s, (perform s).services.correlation = s.correlation

/-- What is done with services, scope by scope. -/
inductive Work where
  /-- Something without a scope. -/
  | deed (d : Deed)
  /-- Some work, and other work after it that depends on what came of it. -/
  | inTurn (first : Work) (second : Services → Work)
  /-- Work whose exception, if it raises one, is caught. -/
  | attempt (inside : Work)
  /-- Work in a scope that brings an id. -/
  | scope (id : Value) (inside : Work)

namespace Work

/-- Does the work. An exception ends all that it is part of, up to where it is caught, but no
scope without leaving it. -/
def perform : Work → Services → Ending
  | .deed d, s => d.perform s
  | .inTurn first second, s =>
    let performed := first.perform s
    if performed.raised then performed
    else (second performed.services).perform performed.services
  | .attempt inside, s => { inside.perform s with raised := false }
  | .scope id inside, s =>
    let performed := inside.perform (s.enter id)
    { performed with services := performed.services.leave }

/-- Doing some work from some services comes to a part of it, with the services at that moment,
inside scopes with these ids, the outermost first. -/
inductive Reaches : Work → Services → List Value → Work → Services → Prop where
  /-- The work itself is to be done. -/
  | here (w : Work) (s : Services) : Reaches w s [] w s
  /-- A part of the first work. -/
  | first {first part : Work} {s t : Services} {ids : List Value} (second : Services → Work)
    (h : Reaches first s ids part t) : Reaches (.inTurn first second) s ids part t
  /-- A part of the second work, if the first one raised no exception. -/
  | second {first part : Work} {second : Services → Work} {s t : Services} {ids : List Value}
    (hdone : (first.perform s).raised = false)
    (h : Reaches (second (first.perform s).services) (first.perform s).services ids part t) :
    Reaches (.inTurn first second) s ids part t
  /-- A part of work whose exceptions are caught. -/
  | attempt {inside part : Work} {s t : Services} {ids : List Value}
    (h : Reaches inside s ids part t) : Reaches (.attempt inside) s ids part t
  /-- A part of the work in a scope. -/
  | scope {id : Value} {inside part : Work} {s t : Services} {ids : List Value}
    (h : Reaches inside (s.enter id) ids part t) :
    Reaches (.scope id inside) s (id :: ids) part t

/-- All work, and so every scope, leaves the bound id and the open scopes as it found them,
whether it ends in an exception or not. -/
theorem perform_correlation (w : Work) (s : Services) :
    (w.perform s).services.correlation = s.correlation := by
  induction w generalizing s with
  | deed d => exact d.keeps s
  | inTurn first second ihFirst ihSecond =>
    unfold perform
    dsimp only
    split
    · exact ihFirst s
    · exact (ihSecond _ _).trans (ihFirst s)
  | attempt inside ih => exact ih s
  | scope id inside ih =>
    calc ((scope id inside).perform s).services.correlation
        = (inside.perform (s.enter id)).services.correlation.leave := rfl
      _ = (s.correlation.enter id).leave := congrArg _ (ih (s.enter id))
      _ = s.correlation := Log.Correlation.leave_enter id s.correlation

/-- At a part of some work the scopes around it are open, and no others. -/
theorem Reaches.correlation_eq {w part : Work} {s t : Services} {ids : List Value}
    (h : w.Reaches s ids part t) :
    t.correlation = ids.foldl (fun c id => c.enter id) s.correlation := by
  induction h with
  | here w s => rfl
  | first second _ ih => exact ih
  | @second first part second s t ids _ _ ih => rw [ih, perform_correlation]
  | attempt _ ih => exact ih
  | scope _ ih => exact ih

end Work

namespace Services

/-- A request leaves the bound id as it is. -/
theorem Sends.correlation_eq {s after : Services} {request : Request}
    (h : s.Sends request after) : after.correlation = s.correlation := by
  cases h <;> rfl

/-- What is concluded from a reply leaves the bound id as it is. -/
theorem conclude_correlation (id : String) (request : Request) (reply : Value) (s : Services) :
    (s.conclude id request reply).2.correlation = s.correlation := by
  cases request <;> rfl

/-- An action that is carried out leaves the bound id as it is. -/
theorem carryOut_correlation (a : Action) (context input : Fields) (s : Services) :
    (s.carryOut a context input).2.correlation = s.correlation := by
  unfold carryOut
  split
  · rfl
  · rfl
  · next request _ =>
    have hsent := (send_sends request s).correlation_eq
    split
    · next hsend => rwa [hsend] at hsent
    · next hsend =>
      rw [conclude_correlation]
      rwa [hsend] at hsent

end Services

namespace Run

/-- What a step does within its scope leaves the bound id as it is. -/
theorem stepInScope_correlation (run : Run) (input : Fields) (s : Services) :
    (run.stepInScope input s).services.correlation = s.correlation := by
  unfold stepInScope
  split
  · rfl
  · split
    · rfl
    · rfl
    · split
      · exact (Services.foldl_write_keeps _ _).2.trans
          (Services.carryOut_correlation _ _ _ _)
      · rfl

/-- What a step does within its scope. -/
def deed (run : Run) (input : Fields) : Deed where
  perform s :=
    let stepped := run.stepInScope input s
    ⟨stepped.services, !stepped.answer.isOk⟩
  keeps s := run.stepInScope_correlation input s

/-- A step as work: a scope with the id of the run. A step during which a service does further
work is a scope with the same id around that work and around what the step itself does. -/
def work (run : Run) (input : Fields) : Work := .scope run.id (.deed (run.deed input))

/-- Doing that work is making the step. -/
theorem perform_work (run : Run) (input : Fields) (s : Services) :
    (run.work input).perform s =
      ⟨(run.step input s).services, !(run.step input s).answer.isOk⟩ := rfl

end Run

/-- Whatever goes over the wire between two moments is of some sort. -/
def Services.WiresOnly (s after : Services) (sort : Http.Sent → Prop) : Prop :=
  ∃ added, after.exchanges = s.exchanges ++ added ∧ ∀ sent, .session sent ∈ added → sort sent

namespace Services

variable {s after : Services} {sort : Http.Sent → Prop}

/-- Between moments at which the same was sent nothing goes over the wire. -/
theorem WiresOnly.of_eq (h : after.exchanges = s.exchanges) : s.WiresOnly after sort :=
  ⟨[], by rw [h, List.append_nil], by simp⟩

/-- A request that a script answers does not go over the wire. -/
theorem WiresOnly.of_request {request : Request}
    (h : after.exchanges = s.exchanges ++ [.request request]) : s.WiresOnly after sort :=
  ⟨[.request request], h, by simp⟩

/-- What goes over the wire when a request is sent is this request, with the bound id. -/
theorem Sends.wiresOnly {request : Request} (h : s.Sends request after) :
    s.WiresOnly after fun sent =>
      ∃ q timeout, request = .http q ∧ sent = q.sent s.correlation.bound timeout := by
  cases h with
  | refused _ => exact .of_eq rfl
  | simulated _ _ _ => exact .of_eq rfl
  | chain _ _ => exact .of_request rfl
  | http _ _ => exact .of_request rfl
  | wire q timeout _ =>
    exact ⟨[.session (q.sent s.correlation.bound timeout)], rfl, by simp⟩

end Services

/-- What a step with an input may send over the wire under a correlation id: something that
carries what the HTTP call declares at which the run stands, or else the id. -/
def Run.SendsUnder (run : Run) (input : Fields) (id : Value) (sent : Http.Sent) : Prop :=
  ∃ a context call, run.At a context ∧ a.task = .http call ∧
    call.Carries (Keyed.merge context input) id sent.headers

/-- Where an id is bound that is not empty, what a step does in its scope is sent under it. -/
theorem Run.stepInScope_wiresOnly (run : Run) (input : Fields) {s : Services}
    (hid : s.correlation.bound.isTruthy = true) :
    s.WiresOnly (run.stepInScope input s).services (run.SendsUnder input s.correlation.bound) := by
  by_cases h : ∃ a context, run.At a context
  · obtain ⟨a, context, hat⟩ := h
    have hscope := hat.stepInScope_exchanges input s
    rcases Services.carryOut_exchanges _ a (Keyed.merge context input) input with
      ⟨-, hcarried⟩ | ⟨request, hrequest, hcarried⟩
    · exact .of_eq (hscope.trans hcarried)
    · obtain ⟨added, hadded, hsort⟩ := ((s.write _).send_sends request).wiresOnly
      refine ⟨added, hscope.trans (hcarried.trans hadded), fun sent hsent => ?_⟩
      obtain ⟨q, timeout, rfl, rfl⟩ := hsort sent hsent
      obtain ⟨call, hcall, hq⟩ := Action.http_of_request? hrequest
      exact ⟨a, context, call, hat, hcall, HttpCall.carries_of_request hq hid⟩
  · exact .of_eq (congrArg Services.exchanges
      (stepInScope_services_of_not_at (fun a context hat => h ⟨a, context, hat⟩) input s))

/-- A run that was begun, or taken up from a document, and has come as far as calls bring it. -/
inductive Run.Arises : Run → Prop where
  /-- It was begun, under an id that was asked for or under a fresh one. -/
  | begun (f : Flow) (context : Fields) (asked : Value) (s : Services) (calls : List Call) :
    Run.Arises ((Run.begin f context asked s).1.afterCalls calls)
  /-- It was taken up from a document. -/
  | restored {document : Value} {s : Services} {run : Run}
    (h : (Run.restore document s).1 = .ok run) (calls : List Call) :
    Run.Arises (run.afterCalls calls)

/-- A run that is taken up from a document has an id that is not empty. -/
theorem Run.id_isTruthy_of_restore {document : Value} {s : Services} {run : Run}
    (h : (restore document s).1 = .ok run) : run.id.isTruthy = true := by
  unfold restore at h
  split at h
  · next fields =>
    split at h
    · cases h
    · next f _ =>
      dsimp only [restoreParts] at h
      split at h
      · cases h
      · split at h
        · cases h
        · obtain rfl := Except.ok.inj h
          exact chooseId_isTruthy _ s
  · cases h

/-- Every run has an id that is not empty. -/
theorem Run.Arises.id_isTruthy {run : Run} (h : run.Arises) : run.id.isTruthy = true := by
  cases h with
  | begun f context asked s calls =>
    rw [(afterCalls_flow_id _ calls).2]
    exact chooseId_isTruthy asked s
  | restored h calls =>
    rw [(afterCalls_flow_id _ calls).2]
    exact id_isTruthy_of_restore h

/-- A step of a run is sent under the id that is bound, or else under that of the run. -/
theorem Run.Arises.step_wiresOnly {run : Run} (h : run.Arises) (input : Fields) (s : Services) :
    s.WiresOnly (run.step input s).services (run.SendsUnder input
      (if s.correlation.bound.isTruthy then s.correlation.bound else run.id)) := by
  have hbound := Log.Correlation.bound_enter run.id s.correlation
  have hid : (s.enter run.id).correlation.bound.isTruthy = true := by
    unfold Services.enter
    rw [hbound]
    split
    · assumption
    · exact h.id_isTruthy
  rw [← hbound]
  exact run.stepInScope_wiresOnly input hid

/-- Wherever some work has come to inside scopes, the outermost first, the bound id is the first
one that is not empty, beginning with the id that was bound before the work. Whatever is done
there, be it a scope or a step, and whether it ends in an exception or not, leaves the bound id
as it found it. What goes over the wire in a step of a run carries the correlation id that its
action declares, or else the one that is bound when the step is called, or else the id of the
run. So it is, under the id of the scope, when other work in the scope comes before it. -/
theorem Run.ids_stay_in_scope {w part : Work} {s t : Services} {ids : List Value}
    (h : w.Reaches s ids part t) :
    t.correlation.id? = (s.correlation.bound :: ids).find? Value.isTruthy ∧
      (part.perform t).services.correlation = t.correlation ∧
      ∀ (run : Run) (input : Fields),
        (run.step input t).services.correlation = t.correlation ∧
        (run.Arises → t.WiresOnly (run.step input t).services (run.SendsUnder input
          (if t.correlation.bound.isTruthy then t.correlation.bound else run.id))) ∧
        (t.correlation.bound.isTruthy = true → t.WiresOnly (run.stepInScope input t).services
          (run.SendsUnder input t.correlation.bound)) := by
  refine ⟨?_, part.perform_correlation t, fun run input => ⟨?_, ?_, ?_⟩⟩
  · rw [h.correlation_eq, Log.Correlation.id?_foldl_enter]
  · have hwork := (run.work input).perform_correlation t
    rwa [run.perform_work input t] at hwork
  · exact fun harises => harises.step_wiresOnly input t
  · exact fun hid => run.stepInScope_wiresOnly input hid

/-- A step inside the scope of another run, after an exception in a scope inside that was caught:
its request carries the id of the other run, and the id before all this is bound in the end. -/
theorem Run.inner_step_carries_outer_id :
    let s : Services := { Services.quiet with http := .session (.int 30) [] }
    let inner := (Run.begin postingFlow [] (.text "inner") s).1.afterCalls []
    let failing : Work := .scope (.text "lost") (.deed ⟨fun s => ⟨s, true⟩, fun _ => rfl⟩)
    let w : Work := .scope (.text "outer") (.inTurn (.attempt failing) fun _ => inner.work [])
    let t := s.enter (.text "outer")
    w.Reaches s [.text "outer"] (inner.work []) t ∧ inner.Arises ∧
      t.correlation.id? = some (.text "outer") ∧
      ((inner.work []).perform t).services.correlation = t.correlation ∧
      (w.perform s).services.correlation = .unbound ∧
      ∃ sent, (inner.step [] t).services.exchanges = [.session sent] ∧
        inner.SendsUnder [] (.text "outer") sent ∧
        Keyed.get? sent.headers Http.correlationHeader = some (.text "outer") := by
  intro s inner failing w t
  have hreaches : w.Reaches s [.text "outer"] (inner.work []) t :=
    .scope (.second rfl (.here _ _))
  have harises : inner.Arises := .begun postingFlow [] (.text "inner") s []
  obtain ⟨hid, hkeeps, hsteps⟩ := Run.ids_stay_in_scope hreaches
  obtain ⟨added, hadded, hsent⟩ := (hsteps inner []).2.1 harises
  have hwhole := (Run.ids_stay_in_scope (Work.Reaches.here w s)).2.1
  let request : Http.Request := ⟨"https://example.org", "POST", [], []⟩
  let sent := request.sent (.text "outer") (.int 30)
  have hat : inner.At _ [] := ⟨rfl, rfl, rfl, rfl⟩
  have hrequest : (HttpCall.mk "https://example.org" "POST" [] [] []).request (Keyed.merge [] []) =
      .ok (.http request) := by cbv
  have hwire : (inner.step [] t).services.exchanges = [.session sent] :=
    hat.exchanges_of_http rfl hrequest t
  have hmem : Exchange.session sent ∈ added := by
    rw [← show [] ++ added = added from rfl, ← show t.exchanges = [] from rfl, ← hadded, hwire]
    exact List.mem_singleton_self _
  exact ⟨hreaches, harises, hid, hkeeps, hwhole, sent, hwire, hsent sent hmem, by rfl⟩

end ActionFlow
