import ActionFlow.Proofs.Run.Footprint
import Mathlib

/-!
# Forms

The body of a request over HTTP is a form: a fixed part, whose texts are substituted, and the
values of the form parameters, which go in as they are and override what is fixed. A parameter
takes its value from the context, and its default value when the context has none; null is no
value. A parameter without a value is left out, unless the form requires it. Then nothing is
sent, and the step says which parameter it was that lacked a value, the first one.
-/

namespace ActionFlow

/-- The value that a form parameter has in a context, if it has any. -/
inductive Parameter.Has (p : Parameter) (context : Fields) : Value → Prop where
  /-- The entry under its name, when there is one and it is not null. -/
  | given {v : Value} (entry : Keyed.get? context p.name = some v) (present : v ≠ .null) :
    p.Has context v
  /-- Otherwise its default value, when that is not null. -/
  | fallback (noEntry : Keyed.get? context p.name = none ∨ Keyed.get? context p.name = some .null)
    (present : p.defaultValue ≠ .null) : p.Has context p.defaultValue

/-- Whether a form requires a parameter that has no value. -/
def Parameter.Lacks (p : Parameter) (context : Fields) : Prop :=
  p.required = true ∧ ∀ v, ¬p.Has context v

section Parameters

variable {p : Parameter} {context : Fields} {v : Value}

/-- The value that is taken for a parameter is the one that it has. -/
theorem Parameter.value?_eq_some_iff : p.value? context = some v ↔ p.Has context v := by
  have hvalue : p.value? context = some v ↔
      (Keyed.get? context p.name).bind Value.present? = some v ∨
        (Keyed.get? context p.name).bind Value.present? = none ∧
          p.defaultValue.present? = some v := by
    unfold value?
    rw [Option.or_eq_some_iff]
  rw [hvalue, Option.bind_eq_some_iff, Option.bind_eq_none_iff]
  simp only [Value.present?_eq_some_iff, Value.present?_eq_none_iff]
  constructor
  · rintro (⟨w, hw, rfl, hne⟩ | ⟨hnone, rfl, hne⟩)
    · exact .given hw hne
    · refine .fallback ?_ hne
      cases hentry : Keyed.get? context p.name with
      | none => exact .inl rfl
      | some w => exact .inr (by rw [hnone w hentry])
  · intro h
    cases h with
    | given entry present => exact .inl ⟨v, entry, rfl, present⟩
    | fallback noEntry present =>
      refine .inr ⟨fun w hw => ?_, rfl, present⟩
      rcases noEntry with hnone | hnull
      · rw [hnone] at hw
        cases hw
      · rw [hnull] at hw
        exact (Option.some.inj hw).symm

/-- A parameter has no two values. -/
theorem Parameter.Has.unique {w : Value} (h : p.Has context v) (h' : p.Has context w) : v = w :=
  Option.some.inj ((value?_eq_some_iff.mpr h).symm.trans (value?_eq_some_iff.mpr h'))

/-- A parameter has a value, or lacks one that the form requires, or can do without. -/
theorem Parameter.cases (p : Parameter) (context : Fields) :
    (∃ v, p.Has context v) ∨ p.Lacks context ∨
      p.required = false ∧ ∀ v, ¬p.Has context v := by
  by_cases h : ∃ v, p.Has context v
  · exact .inl h
  · rw [not_exists] at h
    cases hr : p.required with
    | true => exact .inr (.inl ⟨hr, h⟩)
    | false => exact .inr (.inr ⟨rfl, h⟩)

variable {rest : List Parameter} {body : Fields}

end Parameters

section Filling

variable {context : Fields} {params : List Parameter} {body filled : Fields}

end Filling

section Requests

variable {h : HttpCall} {context : Fields}

variable {url : String} {headers fixed body : Fields}

end Requests

namespace Services

/-- What a service over HTTP keeps of a request that it is sent: the request, or what goes over
the wire for it. -/
def kept (s : Services) (request : Http.Request) : Exchange :=
  match s.http with
  | .scripted _ => .request (.http request)
  | .session timeout _ => .session (request.sent s.correlation.bound timeout)

/-- A service over HTTP is sent a request once. -/
theorem sendHttp_exchanges (s : Services) (request : Http.Request) :
    (s.sendHttp request).2.exchanges = s.exchanges ++ [s.kept request] := by
  unfold sendHttp kept
  cases s.http <;> rfl

end Services

namespace Run

variable {run : Run} {a : Action} {context input : Fields} {call : HttpCall}

/-- A step at an HTTP call sends its request, once. -/
theorem At.exchanges_of_http (hat : run.At a context) (ht : a.task = .http call)
    {request : Http.Request}
    (hq : call.request (Keyed.merge context input) = .ok (.http request)) (s : Services) :
    (run.step input s).services.exchanges = s.exchanges ++ [(run.announced a s).kept request] := by
  rw [hat.step_exchanges,
    Services.carryOut_of_plan_send (Action.plan_of_http_request ht hq input),
    Services.ask_exchanges]
  exact Services.sendHttp_exchanges _ request

end Run

end ActionFlow
