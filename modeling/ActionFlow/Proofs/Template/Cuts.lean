import ActionFlow.Template
import Mathlib.Data.List.TakeWhile

/-!
# Templates cut at their placeholders

A text has one cut: its placeholders, each at the earliest place at which one begins in what
is left of the text, and the texts before, between and after them. The cut is told without the
reader of templates, which finds just this cut, for every run of braces. A text is substituted
by its cut: the texts between placeholders stand as they are, and what stands for a placeholder
depends on its path and the context alone.
-/

namespace ActionFlow

/-- Whether characters can stand between the braces of a placeholder: there are some, and
none of them closes. -/
def IsPath (path : List Char) : Prop := path ≠ [] ∧ '\x7d' ∉ path

/-- Whether a placeholder begins at the front of a text. -/
def BeginsPlaceholder (text : List Char) : Prop :=
  ∃ path after, IsPath path ∧ text = (Piece.placeholder path).source ++ after

/-- Whether a context can be asked for a path: it leads to a value or nowhere, and no step of
it faults. -/
def Value.Reads (context : Value) (path : List Char) : Prop :=
  ∃ found, resolvePath path context = .ok found

/-- The characters that stand for a placeholder: the text of the value that its path leads to,
and the placeholder itself when that leads nowhere. -/
def replacement (context : Value) (path : List Char) : List Char :=
  match resolvePath path context with
  | .ok (some value) => value.inserted.toList
  | _ => (Piece.placeholder path).source

/-- A text cut at placeholders. -/
structure Cut where
  /-- The placeholders by their paths, each after the text in front of it. -/
  segments : List (List Char × List Char)
  /-- The text after the last placeholder. -/
  tail : List Char

namespace Cut

/-- Whether a cut is that of a text: each placeholder begins at the earliest place at which one
begins in what the placeholders before it leave of the text, and none begins in the tail. -/
inductive Of : List Char → Cut → Prop where
  /-- A text in which no placeholder begins is all tail. -/
  | plain {text : List Char} (bare : ∀ k, ¬BeginsPlaceholder (text.drop k)) : Of text ⟨[], text⟩
  /-- The first placeholder, and the cut of what follows it. -/
  | placeholder (before : List Char) {path after : List Char} {cut : Cut} (hpath : IsPath path)
    (first : ∀ k < before.length,
      ¬BeginsPlaceholder ((before ++ ((Piece.placeholder path).source ++ after)).drop k))
    (others : Of after cut) :
    Of (before ++ ((Piece.placeholder path).source ++ after))
      ⟨(before, path) :: cut.segments, cut.tail⟩

/-- The paths of the placeholders of a cut. -/
def paths (cut : Cut) : List (List Char) := cut.segments.map Prod.snd

/-- The text of a cut with a word for each placeholder, which may depend on its path. -/
def spelled (word : List Char → List Char) (cut : Cut) : List Char :=
  (cut.segments.flatMap fun (before, path) => before ++ word path) ++ cut.tail

/-- The pieces of a cut. -/
def pieces (cut : Cut) : List Piece :=
  (cut.segments.flatMap fun (before, path) => before.map .plain ++ [.placeholder path]) ++
    cut.tail.map .plain

end Cut

section Front

variable {text path after : List Char}

/-- A placeholder at the front of a text is found there. -/
theorem placeholderAtFront_source (hpath : IsPath path) (after : List Char) :
    placeholderAtFront ((Piece.placeholder path).source ++ after) = some (path, after) := by
  obtain ⟨hne, hopen⟩ := hpath
  have hkeep : ∀ c ∈ path, (c != '\x7d') = true := fun c hc =>
    bne_iff_ne.mpr fun h => hopen (h ▸ hc)
  have htake : (path ++ '\x7d' :: '\x7d' :: after).takeWhile (· != '\x7d') = path := by
    rw [List.takeWhile_append_of_pos hkeep]
    simp
  have hdrop : (path ++ '\x7d' :: '\x7d' :: after).dropWhile (· != '\x7d') =
      '\x7d' :: '\x7d' :: after := by
    rw [List.dropWhile_append_of_pos hkeep]
    simp
  have hsource : (Piece.placeholder path).source ++ after =
      '\x7b' :: '\x7b' :: (path ++ '\x7d' :: '\x7d' :: after) := by
    simp [Piece.source]
  rw [hsource, placeholderAtFront, htake, hdrop]
  cases path with
  | nil => exact absurd rfl hne
  | cons c rest => rfl

/-- What is found at the front of a text is a placeholder. -/
theorem eq_source_of_placeholderAtFront (h : placeholderAtFront text = some (path, after)) :
    IsPath path ∧ text = (Piece.placeholder path).source ++ after := by
  unfold placeholderAtFront at h
  split at h
  · next rest =>
    have hopen : '\x7d' ∉ rest.takeWhile (· != '\x7d') := fun hmem =>
      by simpa using List.mem_takeWhile_imp hmem
    have hwhole := List.takeWhile_append_dropWhile (p := (· != '\x7d')) (l := rest)
    generalize rest.takeWhile (· != '\x7d') = taken at h hopen hwhole
    generalize rest.dropWhile (· != '\x7d') = left at h hwhole
    split at h
    · cases h
    · next hne =>
      obtain ⟨rfl, rfl⟩ := Prod.mk.inj (Option.some.inj h)
      refine ⟨⟨fun hnil => hne hnil, hopen⟩, ?_⟩
      simpa [Piece.source] using hwhole.symm
    · cases h
  · cases h

/-- No placeholder is found at the front of a text in which none begins there. -/
theorem placeholderAtFront_eq_none_iff :
    placeholderAtFront text = none ↔ ¬BeginsPlaceholder text := by
  constructor
  · rintro h ⟨path, after, hpath, rfl⟩
    rw [placeholderAtFront_source hpath] at h
    cases h
  · intro h
    cases hfound : placeholderAtFront text with
    | none => rfl
    | some found => exact absurd ⟨_, _, eq_source_of_placeholderAtFront hfound⟩ h

end Front

/-- A text of no characters has no pieces. -/
theorem pieces_nil : pieces [] = [] := by
  rw [pieces]
  split
  · next hfound => cases hfound
  · rfl

/-- The reader takes a placeholder at the front of a text. -/
theorem pieces_source_append {path : List Char} (hpath : IsPath path) (after : List Char) :
    pieces ((Piece.placeholder path).source ++ after) = .placeholder path :: pieces after := by
  rw [pieces]
  split
  · next hfound =>
    rw [placeholderAtFront_source hpath] at hfound
    obtain ⟨rfl, rfl⟩ := Prod.mk.inj (Option.some.inj hfound)
    rfl
  · next hnone =>
    rw [placeholderAtFront_source hpath] at hnone
    cases hnone

/-- The reader takes a character at the front of a text in which no placeholder begins there. -/
theorem pieces_cons {c : Char} {rest : List Char} (h : ¬BeginsPlaceholder (c :: rest)) :
    pieces (c :: rest) = .plain c :: pieces rest := by
  have hnone := placeholderAtFront_eq_none_iff.mpr h
  rw [pieces]
  split
  · next hfound => simp [hnone] at hfound
  · rfl

/-- The reader takes the characters in front of the first placeholder one by one. -/
theorem pieces_append {before : List Char} (rest : List Char)
    (h : ∀ k < before.length, ¬BeginsPlaceholder ((before ++ rest).drop k)) :
    pieces (before ++ rest) = before.map .plain ++ pieces rest := by
  induction before with
  | nil => rfl
  | cons c others ih =>
    have hc : ¬BeginsPlaceholder (c :: (others ++ rest)) := h 0 (Nat.succ_pos _)
    rw [List.cons_append, pieces_cons hc, ih fun k hk => h (k + 1) (Nat.succ_lt_succ hk)]
    rfl

namespace Cut

variable {text : List Char} {cut other : Cut}

/-- The reader finds the cut of a text. -/
theorem Of.pieces_eq (h : Of text cut) : ActionFlow.pieces text = cut.pieces := by
  induction h with
  | @plain text bare =>
    have htext : ActionFlow.pieces (text ++ []) = text.map .plain ++ ActionFlow.pieces [] :=
      pieces_append [] fun k _ => by simpa using bare k
    rw [List.append_nil, pieces_nil, List.append_nil] at htext
    exact htext
  | @placeholder before path after cut hpath first others ih =>
    rw [pieces_append _ first, pieces_source_append hpath, ih]
    simp [Cut.pieces]

/-- A cut with its placeholders written out is the text that was cut. -/
theorem Of.spelled_source (h : Of text cut) :
    cut.spelled (fun path => (Piece.placeholder path).source) = text := by
  induction h with
  | plain bare => rfl
  | placeholder before hpath first others ih =>
    rw [spelled] at ih ⊢
    simp [← ih]

/-- A character in front of a text, with which no placeholder begins, goes in front of its
cut. -/
theorem Of.cons {c : Char} (hc : ¬BeginsPlaceholder (c :: text)) (h : Of text cut) :
    ∃ longer, Of (c :: text) longer := by
  cases h with
  | plain bare =>
    refine ⟨_, .plain fun k => ?_⟩
    cases k with
    | zero => exact hc
    | succ k => exact bare k
  | @placeholder before path after cut hpath first others =>
    refine ⟨_, .placeholder (c :: before) hpath (fun k hk => ?_) others⟩
    cases k with
    | zero => exact hc
    | succ k => exact first k (Nat.lt_of_succ_lt_succ hk)

/-- Every text has a cut. -/
theorem exists_of (text : List Char) : ∃ cut, Of text cut := by
  fun_induction ActionFlow.pieces text with
  | case1 text path after found ih =>
    obtain ⟨cut, hcut⟩ := ih
    obtain ⟨hpath, rfl⟩ := eq_source_of_placeholderAtFront found
    exact ⟨_, .placeholder [] hpath (fun k hk => absurd hk (Nat.not_lt_zero k)) hcut⟩
  | case2 hnone =>
    refine ⟨_, .plain fun k => ?_⟩
    rw [List.drop_nil]
    exact placeholderAtFront_eq_none_iff.mp hnone
  | case3 c rest hnone ih =>
    obtain ⟨cut, hcut⟩ := ih
    exact hcut.cons (placeholderAtFront_eq_none_iff.mp hnone)

/-- The first placeholder of a text, and what stands before and after it, are settled by the
text. -/
theorem first_unique {before path after before' path' after' : List Char} (hpath : IsPath path)
    (hpath' : IsPath path')
    (first : ∀ k < before.length,
      ¬BeginsPlaceholder ((before ++ ((Piece.placeholder path).source ++ after)).drop k))
    (first' : ∀ k < before'.length,
      ¬BeginsPlaceholder ((before' ++ ((Piece.placeholder path').source ++ after')).drop k))
    (same : before ++ ((Piece.placeholder path).source ++ after) =
      before' ++ ((Piece.placeholder path').source ++ after')) :
    before = before' ∧ path = path' ∧ after = after' := by
  have hle : before.length ≤ before'.length := by
    by_contra hlt
    refine first _ (Nat.lt_of_not_le hlt) ⟨path', after', hpath', ?_⟩
    rw [same, List.drop_left]
  have hge : before'.length ≤ before.length := by
    by_contra hlt
    refine first' _ (Nat.lt_of_not_le hlt) ⟨path, after, hpath, ?_⟩
    rw [← same, List.drop_left]
  obtain ⟨hbefore, hrest⟩ := List.append_inj same (Nat.le_antisymm hle hge)
  have hfound := placeholderAtFront_source hpath after
  rw [hrest, placeholderAtFront_source hpath'] at hfound
  obtain ⟨hp, ha⟩ := Prod.mk.inj (Option.some.inj hfound)
  exact ⟨hbefore, hp.symm, ha.symm⟩

/-- A text has no two cuts. -/
theorem Of.unique (h : Of text cut) (h' : Of text other) : cut = other := by
  induction h generalizing other with
  | @plain text bare =>
    cases h' with
    | plain bare' => rfl
    | @placeholder before path after cut hpath first others =>
      exact absurd ⟨path, after, hpath, List.drop_left⟩ (bare before.length)
  | @placeholder before path after cut hpath first others ih =>
    generalize hsame : before ++ ((Piece.placeholder path).source ++ after) = whole at h'
    cases h' with
    | plain bare' =>
      exact absurd ⟨path, after, hpath, by rw [← hsame, List.drop_left]⟩ (bare' before.length)
    | @placeholder before' path' after' cut' hpath' first' others' =>
      obtain ⟨rfl, rfl, rfl⟩ := first_unique hpath hpath' first first' hsame
      rw [ih others']

end Cut

section Filling

variable {context : Value}

/-- Characters in front of pieces are filled with themselves. -/
theorem fillPieces_plain_append (before : List Char) (list : List Piece) :
    fillPieces context (before.map .plain ++ list) =
      (fillPieces context list).map (before ++ ·) := by
  induction before with
  | nil =>
    rw [List.map_nil, List.nil_append]
    cases fillPieces context list <;> rfl
  | cons c rest ih =>
    rw [List.map_cons, List.cons_append, fillPieces, ih]
    cases fillPieces context list <;> rfl

/-- Characters alone are filled with themselves. -/
theorem fillPieces_plain (text : List Char) :
    fillPieces context (text.map .plain) = .ok text := by
  have h : fillPieces context (text.map .plain ++ []) =
      (fillPieces context []).map (text ++ ·) := fillPieces_plain_append text []
  simpa [fillPieces, Except.map] using h

/-- A placeholder is filled when the context can be asked for its path, with what stands for
it. -/
theorem fillPieces_placeholder_eq_ok_iff {path : List Char} {list : List Piece}
    {out : List Char} :
    fillPieces context (.placeholder path :: list) = .ok out ↔
      context.Reads path ∧ ∃ others, fillPieces context list = .ok others ∧
        out = replacement context path ++ others := by
  unfold Value.Reads replacement
  rw [fillPieces, Piece.fill]
  rcases resolvePath path context with fault | _ | value
  · simp
  · cases fillPieces context list <;> simp [eq_comm]
  · cases fillPieces context list <;> simp [eq_comm]

/-- A cut is filled when the context can be asked for all its paths, and not otherwise. -/
theorem Cut.fillPieces_eq_ok_iff (cut : Cut) {out : List Char} :
    fillPieces context cut.pieces = .ok out ↔
      (∀ path ∈ cut.paths, context.Reads path) ∧ out = cut.spelled (replacement context) := by
  obtain ⟨segments, tail⟩ := cut
  induction segments generalizing out with
  | nil => simp [pieces, paths, spelled, fillPieces_plain, eq_comm]
  | cons segment rest ih =>
    obtain ⟨before, path⟩ := segment
    have hpieces : pieces ⟨(before, path) :: rest, tail⟩ =
        before.map .plain ++ .placeholder path :: pieces ⟨rest, tail⟩ := by simp [pieces]
    have hspelled : spelled (replacement context) ⟨(before, path) :: rest, tail⟩ =
        before ++ (replacement context path ++ spelled (replacement context) ⟨rest, tail⟩) := by
      simp [spelled]
    have hpaths : (∀ p ∈ paths ⟨(before, path) :: rest, tail⟩, context.Reads p) ↔
        context.Reads path ∧ ∀ p ∈ paths ⟨rest, tail⟩, context.Reads p := List.forall_mem_cons
    rw [hpieces, hspelled, hpaths, fillPieces_plain_append]
    constructor
    · intro h
      obtain ⟨inner, hinner, rfl⟩ := map_eq_ok h
      obtain ⟨hpath, others, hothers, rfl⟩ := fillPieces_placeholder_eq_ok_iff.mp hinner
      obtain ⟨hrest, rfl⟩ := ih.mp hothers
      exact ⟨⟨hpath, hrest⟩, rfl⟩
    · rintro ⟨⟨hpath, hrest⟩, rfl⟩
      rw [fillPieces_placeholder_eq_ok_iff.mpr ⟨hpath, _, ih.mpr ⟨hrest, rfl⟩, rfl⟩]
      rfl

/-- A text is substituted by its cut: the texts between the placeholders stand as they are, and
each placeholder is replaced by what its path leads to in the context. -/
theorem substituteText_eq_ok_iff {text t : String} {cut : Cut} (h : Cut.Of text.toList cut) :
    substituteText context text = .ok t ↔
      (∀ path ∈ cut.paths, context.Reads path) ∧
        t = String.ofList (cut.spelled (replacement context)) := by
  unfold substituteText
  rw [h.pieces_eq]
  constructor
  · intro ht
    split at ht
    · next out hout =>
      obtain ⟨hpaths, rfl⟩ := cut.fillPieces_eq_ok_iff.mp hout
      exact ⟨hpaths, (Except.ok.inj ht).symm⟩
    · cases ht
  · rintro ⟨hpaths, rfl⟩
    rw [cut.fillPieces_eq_ok_iff.mpr ⟨hpaths, rfl⟩]

end Filling

/-- A brace in front of a placeholder belongs to its path where two of them can open it. -/
example : pieces "\x7b\x7b\x7ba\x7d\x7d\x7d".toList =
    [.placeholder ['\x7b', 'a'], .plain '\x7d'] := by cbv

end ActionFlow
