import ActionFlow.Proofs.Run.Repetition
import ActionFlow.Proofs.Template.Walkers

/-!
# What a request depends on

The footprint of an action is what it reads of its context: the paths of the placeholders in
its templates, and the entries under the names of its form parameters. In two contexts that
agree there it asks a service for the same, with the same arguments, or fails alike before it
asks for anything. Nothing else in a context can matter, such as what earlier actions left
there or what other users gave.
-/

namespace ActionFlow

/-- The texts of an HTTP call that are templates: its endpoint, its headers and the texts in the
fixed part of its body. -/
def HttpCall.templates (h : HttpCall) : List String :=
  h.endpoint :: (h.headers.map Prod.snd ++ (Value.object h.body).texts)

/-- The texts of an action that are templates: the texts in the arguments of a contract call,
the receiver of a transfer, and those of an HTTP call. -/
def Action.templates (a : Action) : List String :=
  match a.task with
  | .contractCall call => (Value.list call.params).texts
  | .transfer t => t.receiver.toList
  | .http h => h.templates
  | .decision _ => []
  | .completion _ => []

/-- Whether a path is that of a placeholder in a template of an action. -/
def Action.Mentions (a : Action) (path : List Char) : Prop :=
  ∃ text ∈ a.templates, ∃ cut, Cut.Of text.toList cut ∧ path ∈ cut.paths

/-- Whether two contexts agree on the footprint of an action. -/
structure Action.AgreeOn (a : Action) (context other : Fields) : Prop where
  /-- The paths of its placeholders lead to the same value, or nowhere, or fault alike. -/
  paths : ∀ path, a.Mentions path →
    resolvePath path (.object context) = resolvePath path (.object other)
  /-- There is the same entry, or none, under the name of every form parameter. -/
  entries : ∀ p ∈ a.params, Keyed.get? context p.name = Keyed.get? other p.name

/-- The paths that a text may look up are those of its cut. -/
theorem mem_textPaths_iff {text : String} {cut : Cut} (h : Cut.Of text.toList cut)
    {path : List Char} : path ∈ textPaths text ↔ path ∈ cut.paths :=
  ⟨fun hpath => (forall_textPaths_iff h).mpr (fun _ hp => hp) path hpath,
    fun hpath => (forall_textPaths_iff h).mp (fun _ hp => hp) path hpath⟩

/-- The texts of fields are those of their values. -/
theorem Value.textsOfFields_map (fields : List (String × String)) :
    Value.textsOfFields (fields.map fun (key, s) => (key, .text s)) = fields.map Prod.snd := by
  induction fields with
  | nil => rfl
  | cons field rest ih =>
    rw [List.map_cons, List.map_cons, Value.textsOfFields, ih]
    rfl

/-- The paths that an action may look up are those of its templates. -/
theorem Action.paths_eq (a : Action) : a.paths = a.templates.flatMap textPaths := by
  unfold paths templates
  cases a.task with
  | contractCall call => rfl
  | transfer t =>
    dsimp only
    cases t.receiver <;> rfl
  | http h =>
    have hheaders : (Value.object h.headerFields).texts = h.headers.map Prod.snd :=
      Value.textsOfFields_map h.headers
    simp only [HttpCall.templates, Value.paths, hheaders, List.flatMap_cons, List.flatMap_append,
      List.append_assoc]
  | decision d => rfl
  | completion c => rfl

/-- The paths that an action may look up are those that it mentions. -/
theorem Action.mem_paths_iff {a : Action} {path : List Char} :
    path ∈ a.paths ↔ a.Mentions path := by
  rw [paths_eq, List.mem_flatMap]
  constructor
  · rintro ⟨text, htext, hpath⟩
    obtain ⟨cut, hcut⟩ := Cut.exists_of text.toList
    exact ⟨text, htext, cut, hcut, (mem_textPaths_iff hcut).mp hpath⟩
  · rintro ⟨text, htext, cut, hcut, hpath⟩
    exact ⟨text, htext, (mem_textPaths_iff hcut).mpr hpath⟩

/-- An action has the same plan in contexts that agree on its footprint. -/
theorem Action.AgreeOn.plan_eq {a : Action} {context other : Fields} (h : a.AgreeOn context other)
    (input : Fields) : a.plan context input = a.plan other input :=
  a.plan_congr (fun path hpath => h.paths path (mem_paths_iff.mp hpath)) h.entries input

/-- An action that is neither a decision nor a completion plans to send a request, or fails. -/
theorem Action.plan_cases {a : Action} (hd : a.kind ≠ .decision) (hc : a.kind ≠ .completion)
    (context input : Fields) :
    (∃ request, a.plan context input = .ok (.send request)) ∨
      ∃ failure, a.plan context input = .error failure := by
  cases hplan : a.plan context input with
  | error failure => exact .inr ⟨failure, rfl⟩
  | ok plan =>
    cases plan with
    | send request => exact .inl ⟨request, rfl⟩
    | answer result =>
      rcases plan_answer hplan with ⟨d, ht, -⟩ | ⟨c, ht, -⟩
      · exact absurd (by rw [kind, ht]; rfl) hd
      · exact absurd (by rw [kind, ht]; rfl) hc

/-- An action that is neither a decision nor a completion, with any input and in two contexts
that agree on its footprint once the input is merged into them, asks for the same in both, by
one request with the same arguments, or fails in both alike before it asks for anything. -/
theorem Action.footprint_settles_request {a : Action} (hd : a.kind ≠ .decision)
    (hc : a.kind ≠ .completion) (input : Fields) {context other : Fields}
    (h : a.AgreeOn (Keyed.merge context input) (Keyed.merge other input)) :
    (∃ request, ∀ s : Services,
      s.carryOut a (Keyed.merge context input) input = s.ask a.id request ∧
        s.carryOut a (Keyed.merge other input) input = s.ask a.id request) ∨
    ∃ failure, ∀ s : Services,
      s.carryOut a (Keyed.merge context input) input = (.error failure, s) ∧
        s.carryOut a (Keyed.merge other input) input = (.error failure, s) := by
  have hsame := h.plan_eq input
  rcases a.plan_cases hd hc (Keyed.merge context input) input with
    ⟨request, hplan⟩ | ⟨failure, hplan⟩
  · exact .inl ⟨request, fun s => ⟨s.carryOut_of_plan_send hplan,
      s.carryOut_of_plan_send (hsame ▸ hplan)⟩⟩
  · exact .inr ⟨failure, fun s => ⟨s.carryOut_of_plan_error hplan,
      s.carryOut_of_plan_error (hsame ▸ hplan)⟩⟩

/-- An action that sends a form about a user. -/
def orderAction : Action :=
  ⟨"order", "Order", [], .http {
    endpoint := "https://example.org/\x7b\x7buser.id\x7d\x7d"
    method := "POST"
    params := [⟨"size", "Size", "text", true, none, none, .null, [], none, none, none, none, none⟩]
    body := [("notes", .list [.text "for \x7b\x7buser.name\x7d\x7d"])]
    headers := [("X-Tag", "\x7b\x7btag\x7d\x7d")] }⟩

/-- What else stands in a context, such as an earlier result or the card of another user, does
not show in the form, and neither does the order in which its keys stand. -/
theorem orderAction_hides_card :
    let user : Value := .object [("id", .int 7), ("name", .text "Ann")]
    let context : Fields := [("user", user), ("lastResult", .text "done")]
    let other : Fields := [("card", .text "4111"), ("size", .null), ("user", user)]
    let input : Fields := [("size", .text "L")]
    orderAction.kind ≠ .decision ∧ orderAction.kind ≠ .completion ∧
      orderAction.AgreeOn (Keyed.merge context input) (Keyed.merge other input) ∧
      ((∃ request, ∀ s : Services,
        s.carryOut orderAction (Keyed.merge context input) input = s.ask "order" request ∧
          s.carryOut orderAction (Keyed.merge other input) input = s.ask "order" request) ∨
      ∃ failure, ∀ s : Services,
        s.carryOut orderAction (Keyed.merge context input) input = (.error failure, s) ∧
          s.carryOut orderAction (Keyed.merge other input) input = (.error failure, s)) := by
  intro user context other input
  have hpaths : orderAction.paths = ["user.id".toList, "tag".toList, "tag".toList,
      "user.name".toList] := by cbv
  have hagree : orderAction.AgreeOn (Keyed.merge context input) (Keyed.merge other input) := by
    refine ⟨fun path hpath => resolvePath_congr ?_, fun p hp => ?_⟩
    · rw [← Action.mem_paths_iff, hpaths] at hpath
      simp only [List.mem_cons, List.not_mem_nil, or_false] at hpath
      obtain rfl | rfl | rfl | rfl := hpath <;> rfl
    · obtain rfl := List.mem_singleton.mp hp
      rfl
  have hd : orderAction.kind ≠ .decision := by decide
  have hc : orderAction.kind ≠ .completion := by decide
  exact ⟨hd, hc, hagree, Action.footprint_settles_request hd hc input hagree⟩

end ActionFlow
