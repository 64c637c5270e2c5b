import ActionFlow.Proofs.Pattern.Limits
import ActionFlow.Proofs.Validation.Faults
import Mathlib

/-!
# Validation that ends with a verdict

Validation accepts a document or reports a problem of it unless one of its texts cannot be
read. Texts without brackets and hidden dividers are read as web addresses, if only to be
refused, and so are patterns that are plain. A document that has only such texts in these
places is accepted or refused for a problem.
-/

namespace ActionFlow

namespace Format

/-- A text without brackets and without characters that stand for a divider. -/
def IsPlainAddress (text : String) : Prop :=
  ∀ c ∈ text.toList, c ≠ '[' ∧ c ≠ ']' ∧ c.toNat ∉ dividerForms

end Format

/-- The texts of a form parameter that are handed to readers are plain. -/
structure Parameter.IsPlain (p : Parameter) : Prop where
  /-- So is the usual value of a web address. -/
  default : p.type = "url" → ∀ s, p.defaultValue = .text s → Format.IsPlainAddress s
  /-- So is the pattern of a parameter that takes input. -/
  pattern : p.type ∉ choiceTypes → ∀ s, p.pattern = some s → Pattern.IsPlain s.toList

/-- The texts of a request that are handed to readers are plain. -/
structure HttpCall.IsPlain (h : HttpCall) : Prop where
  /-- So is the endpoint, unless it is a template. -/
  endpoint : textHasPlaceholder h.endpoint = false → Format.IsPlainAddress h.endpoint
  /-- So are the texts of its parameters. -/
  params : ∀ p ∈ h.params, p.IsPlain

/-- The texts of a flow that are handed to readers are plain. -/
def Flow.IsPlain (f : Flow) : Prop := ∀ a ∈ f.actions, ∀ h, a.task = .http h → h.IsPlain

end ActionFlow
