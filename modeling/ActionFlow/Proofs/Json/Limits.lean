import ActionFlow.Json.Reader
import ActionFlow.Proofs.Json.Numbers
import Mathlib.Data.List.TakeWhile

/-!
# Numbers that are too long

Text is refused for its size, and not for its form, only when more digits stand in a row in it
than a whole number may have. Readers only move on, so that what they look at is always an end
of the text.
-/

namespace ActionFlow.Json

/-- More digits stand in a row in a text than a whole number may have. -/
def HasLongRun (text : List Char) : Prop :=
  ∃ run, run <:+: text ∧ AllDigits run ∧ digitLimit < run.length

/-- What comes of reading within a text: an end of the text is left, or the text has a long run
of digits when it is refused for its size. -/
def Within {α : Type} (text : List Char) : Outcome (α × List Char) → Prop
  | .ok (_, rest) => rest <:+ text
  | .error (.tooManyDigits _, _) => HasLongRun text
  | .error _ => True

variable {α β : Type} {text cs : List Char}

/-- What is read after something else is read within the text, if both are. -/
theorem Within.bind {x : Outcome (α × List Char)} {f : α × List Char → Outcome (β × List Char)}
    (hx : Within text x) (hf : ∀ a rest, rest <:+ text → Within text (f (a, rest))) :
    Within text (x >>= f) := by
  match x with
  | .ok (a, rest) => exact hf a rest hx
  | .error (fault, remaining) => cases fault <;> exact hx

/-- What is left after spacing is an end of the text. -/
theorem skipSpacing_suffix (h : cs <:+ text) : skipSpacing cs <:+ text :=
  (List.dropWhile_suffix _).trans h

/-- What follows a character is an end of the text. -/
theorem suffix_of_cons {c : Char} (h : c :: cs <:+ text) : cs <:+ text :=
  (List.suffix_cons c cs).trans h

/-- A string is read within the text. -/
theorem within_readString (opening done : List Char) (h : cs <:+ text) :
    Within text (readString opening done cs) := by
  fun_induction readString opening done cs with
  | case1 | case3 | case4 | case5 | case9 | case10 | case12 => trivial
  | case2 => exact suffix_of_cons h
  | case6 done a b c d unit _ e f g h' following beyond _ low _ _ code ih =>
    exact ih ((List.suffix_append ['\\', 'u', a, b, c, d, '\\', 'u', e, f, g, h'] _).trans h)
  | case7 done a b c d unit _ e f g h' following beyond _ low _ _ ih =>
    exact ih ((List.suffix_append ['\\', 'u', a, b, c, d] _).trans h)
  | case8 done a b c d unit _ first others _ ih =>
    exact ih ((List.suffix_append ['\\', 'u', a, b, c, d] _).trans h)
  | case11 done letter rest _ _ c _ ih => exact ih (suffix_of_cons (suffix_of_cons h))
  | case13 done c rest _ _ _ _ _ _ ih => exact ih (suffix_of_cons h)

/-- Digits are taken from the front. -/
theorem spanDigits_eq {digits rest : List Char} (h : spanDigits cs = (digits, rest)) :
    AllDigits digits ∧ digits ++ rest = cs := by
  obtain ⟨rfl, rfl⟩ := Prod.mk.inj h
  exact ⟨fun c hc => List.mem_takeWhile_imp hc, List.takeWhile_append_dropWhile⟩

/-- The whole part of a number is made of digits at the front. -/
theorem readWhole_eq {whole rest : List Char} (h : readWhole cs = some (whole, rest)) :
    AllDigits whole ∧ whole ++ rest = cs := by
  unfold readWhole at h
  split at h
  · obtain ⟨rfl, rfl⟩ := Prod.mk.inj (Option.some.inj h)
    exact ⟨by simp [AllDigits, Text.isAsciiDigit], rfl⟩
  · split at h
    · cases h
    · exact spanDigits_eq (Option.some.inj h)

/-- What follows digits is an end of the text. -/
theorem spanDigits_suffix (cs : List Char) : (spanDigits cs).2 <:+ cs := List.dropWhile_suffix _

/-- What follows a fraction is an end of the text. -/
theorem readFraction_suffix {found : List Char × List Char} (h : readFraction cs = some found) :
    found.2 <:+ cs := by
  unfold readFraction at h
  split at h
  · next rest =>
    split at h
    · cases h
    · obtain rfl := Option.some.inj h
      exact (spanDigits_suffix rest).trans (List.suffix_cons '.' rest)
  · cases h

/-- What follows a power of ten is an end of the text. -/
theorem readPower_suffix {found : Int × List Char} (h : readPower cs = some found) :
    found.2 <:+ cs := by
  unfold readPower at h
  split at h
  · next letter rest =>
    split at h
    · dsimp only at h
      split at h
      · cases h
      · next found after _ hspan =>
        obtain rfl := Option.some.inj h
        have hafter : (spanDigits _).2 = after := congrArg Prod.snd hspan
        change after <:+ letter :: rest
        rw [← hafter]
        refine (spanDigits_suffix _).trans (List.IsSuffix.trans ?_ (List.suffix_cons letter rest))
        -- A sign may stand before the digits.
        split
        · exact List.suffix_cons _ _
        · exact List.suffix_cons _ _
        · exact List.suffix_rfl
    · cases h
  · cases h

/-- A number is read within the text. -/
theorem within_readNumber (h : cs <:+ text) : Within text (readNumber cs) := by
  have hunsigned : (splitSign cs).2 <:+ text := by
    unfold splitSign
    split
    · exact suffix_of_cons h
    · exact h
  unfold readNumber
  dsimp only
  split
  · trivial
  · next whole rest hwhole =>
    obtain ⟨hdigits, happend⟩ := readWhole_eq hwhole
    have hrest : rest <:+ text := (List.suffix_append whole rest).trans (happend ▸ hunsigned)
    have hfraction : ((readFraction rest).map Prod.snd).getD rest <:+ text := by
      cases hf : readFraction rest with
      | none => exact hrest
      | some found => exact (readFraction_suffix hf).trans hrest
    have hpower : ∀ before, before <:+ text →
        ((readPower before).map Prod.snd).getD before <:+ text := by
      intro before hbefore
      cases hp : readPower before with
      | none => exact hbefore
      | some found => exact (readPower_suffix hp).trans hbefore
    split
    · split
      · next hlong =>
        have hrun : whole <:+: text :=
          (List.prefix_append whole rest).isInfix.trans (happend ▸ hunsigned).isInfix
        exact ⟨whole, hrun, hdigits, hlong⟩
      · exact hpower _ hfraction
    · exact hpower _ hfraction

/-- A fixed word or a number is read within the text. -/
theorem within_readScalar (h : cs <:+ text) : Within text (readScalar cs) := by
  unfold readScalar
  split
  case h_7 => exact within_readNumber h
  all_goals
    repeat replace h := suffix_of_cons h
    exact h

/-- What is read of a text with a number of steps is read within the text. -/
structure ReadsWithin (text : List Char) (steps : Nat) : Prop where
  /-- So it is with a value. -/
  value : ∀ cs, cs <:+ text → Within text (readValue steps cs)
  /-- So it is with the items of a list. -/
  items : ∀ done cs, cs <:+ text → Within text (readItems steps done cs)
  /-- So it is with the members of an object. -/
  members : ∀ done cs, cs <:+ text → Within text (readMembers steps done cs)

namespace ReadsWithin

variable {steps : Nat}

/-- A value is read with one step more. -/
theorem value_succ (h : ReadsWithin text steps) (cs : List Char) (hcs : cs <:+ text) :
    Within text (readValue (steps + 1) cs) := by
  unfold readValue
  split
  · exact (within_readString _ [] (suffix_of_cons hcs)).bind fun _ _ hrest => hrest
  · next rest =>
    have hnext := skipSpacing_suffix (suffix_of_cons hcs)
    split
    · next after hskip => exact suffix_of_cons (hskip ▸ hnext)
    · exact h.items [] _ hnext
  · next rest =>
    have hnext := skipSpacing_suffix (suffix_of_cons hcs)
    split
    · next after hskip => exact suffix_of_cons (hskip ▸ hnext)
    · exact h.members [] _ hnext
  · exact within_readScalar hcs

/-- The items of a list are read with one step more. -/
theorem items_succ (h : ReadsWithin text steps) (done : List Value) (cs : List Char)
    (hcs : cs <:+ text) : Within text (readItems (steps + 1) done cs) := by
  unfold readItems
  refine (h.value cs hcs).bind fun item rest hrest => ?_
  have hnext := skipSpacing_suffix hrest
  dsimp only
  split
  · next after hskip => exact suffix_of_cons (hskip ▸ hnext)
  · next next hskip => exact h.items _ _ (skipSpacing_suffix (suffix_of_cons (hskip ▸ hnext)))
  · trivial

/-- The members of an object are read with one step more. -/
theorem members_succ (h : ReadsWithin text steps) (done : Fields) (cs : List Char)
    (hcs : cs <:+ text) : Within text (readMembers (steps + 1) done cs) := by
  unfold readMembers
  split
  · refine (within_readString _ [] (suffix_of_cons hcs)).bind fun name afterName hname => ?_
    have hcolon := skipSpacing_suffix hname
    dsimp only
    split
    · next afterColon hskip =>
      have hvalue := skipSpacing_suffix (suffix_of_cons (hskip ▸ hcolon))
      refine (h.value _ hvalue).bind fun value afterValue hafter => ?_
      have hnext := skipSpacing_suffix hafter
      dsimp only
      split
      · next after hskip => exact suffix_of_cons (hskip ▸ hnext)
      · next next hskip =>
        exact h.members _ _ (skipSpacing_suffix (suffix_of_cons (hskip ▸ hnext)))
      · trivial
    · trivial
  · trivial

/-- Everything is read within the text, with any number of steps. -/
theorem all (text : List Char) (steps : Nat) : ReadsWithin text steps := by
  induction steps with
  | zero => exact ⟨fun _ _ => trivial, fun _ _ _ => trivial, fun _ _ _ => trivial⟩
  | succ steps ih => exact ⟨ih.value_succ, ih.items_succ, ih.members_succ⟩

end ReadsWithin

end ActionFlow.Json
