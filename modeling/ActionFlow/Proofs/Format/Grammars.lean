import ActionFlow.Proofs.Validation.Requirements
import Mathlib.Data.List.Basic

/-!
# The grammars of account and email addresses

The recognisers of addresses take a text apart. Here it is told how addresses are put together:
an account address from two fixed characters and forty digits, an email address from a name and
the labels of a domain. The recognisers accept just these texts, and each of them once more with
a line break at its end. So an account address in a valid flow has forty-two characters, or
forty-three of which the last is a line break.
-/

namespace ActionFlow

namespace Format

/-- The digits of account addresses. -/
def hexDigits : List Char := "0123456789abcdefABCDEF".toList

/-- The form of an account address: `0x` and forty hexadecimal digits, in either case. -/
def AccountForm (text : List Char) : Prop :=
  ∃ digits, text = '0' :: 'x' :: digits ∧ digits.length = 40 ∧ ∀ c ∈ digits, c ∈ hexDigits

/-- The parts of an email address. -/
structure EmailParts where
  /-- What stands before the at sign. -/
  name : List Char
  /-- The labels of the domain that a dot follows. -/
  labels : List (List Char)
  /-- The last label of the domain. -/
  last : List Char

/-- The domain of an email address: each label but the last one is followed by a dot. -/
def EmailParts.domain (p : EmailParts) : List Char := p.labels.flatMap (· ++ ['.']) ++ p.last

/-- The text of an email address. -/
def EmailParts.text (p : EmailParts) : List Char := p.name ++ '@' :: p.domain

/-- What is required of the parts of an email address. -/
structure EmailParts.IsSound (p : EmailParts) : Prop where
  /-- There is a name. -/
  named : p.name ≠ []
  /-- The name has word characters, dots, plus and minus signs. -/
  name : ∀ c ∈ p.name, Text.isWord c = true ∨ c = '.' ∨ c = '+' ∨ c = '-'
  /-- There is a label before the last one. -/
  divided : p.labels ≠ []
  /-- No label is empty. -/
  labelled : ∀ label ∈ p.labels, label ≠ []
  /-- Labels have word characters and minus signs. -/
  labels : ∀ label ∈ p.labels, ∀ c ∈ label, Text.isWord c = true ∨ c = '-'
  /-- The last label has two characters or more. -/
  long : 2 ≤ p.last.length
  /-- They are of the same kind. -/
  last : ∀ c ∈ p.last, Text.isWord c = true ∨ c = '-'

/-- The form of an email address. -/
def EmailForm (text : List Char) : Prop := ∃ p : EmailParts, p.IsSound ∧ text = p.text

/-- A text of a form with a line break after it. -/
def BrokenAfter (form : List Char → Prop) (text : List Char) : Prop :=
  ∃ line, form line ∧ text = line ++ ['\n']

/-! ### The line break at the end -/

/-- A line break at the end is dropped. -/
theorem dropFinalBreak_concat (line : List Char) : dropFinalBreak (line ++ ['\n']) = line := by
  unfold dropFinalBreak
  rw [List.getLast?_concat]
  exact List.dropLast_concat

/-- A text that no line break ends stays. -/
theorem dropFinalBreak_of_not_broken {text : List Char} (h : ∀ line, text ≠ line ++ ['\n']) :
    dropFinalBreak text = text := by
  unfold dropFinalBreak
  split
  · next hlast =>
    obtain ⟨line, hline⟩ := List.getLast?_eq_some_iff.mp hlast
    exact absurd hline (h line)
  · rfl

/-- What is left after dropping a line break has a form that no line break ends when the text has
it, or has it but for that line break. -/
theorem dropFinalBreak_iff {form : List Char → Prop} (h : ∀ line, ¬ form (line ++ ['\n']))
    (text : List Char) :
    form (dropFinalBreak text) ↔ form text ∨ BrokenAfter form text := by
  by_cases hbroken : ∃ line, text = line ++ ['\n']
  · obtain ⟨line, rfl⟩ := hbroken
    have hdrop := dropFinalBreak_concat line
    rw [hdrop, or_iff_right (h line)]
    constructor
    · exact fun hform => ⟨line, hform, rfl⟩
    · rintro ⟨other, hform, hsame⟩
      have hother := List.append_cancel_right hsame
      exact hother ▸ hform
  · have hkeep : dropFinalBreak text = text :=
      dropFinalBreak_of_not_broken fun line hline => hbroken ⟨line, hline⟩
    have hnone : ¬ BrokenAfter form text := fun ⟨line, _, hline⟩ => hbroken ⟨line, hline⟩
    rw [hkeep, or_iff_left hnone]

/-! ### Account addresses -/

/-- The hexadecimal digits are those of account addresses. -/
theorem isHexDigit_iff (c : Char) : Text.isHexDigit c = true ↔ c ∈ hexDigits := by
  have hascii : ∀ n < 128, (Text.isHexDigit (Char.ofNat n) = true ↔ Char.ofNat n ∈ hexDigits) := by
    decide +kernel
  by_cases hc : c.toNat < 128
  · have h := hascii c.toNat hc
    rwa [Char.ofNat_toNat] at h
  · have hlow : hexDigits.all (fun d => decide (d.toNat < 128)) = true := by decide +kernel
    have hmem : c ∉ hexDigits := fun h => hc (by simpa using List.all_eq_true.mp hlow c h)
    refine iff_of_false (fun h => hc ?_) hmem
    unfold Text.isHexDigit Text.hexDigit? Text.isAsciiDigit at h
    split at h
    · next hdigit =>
      have hle : c ≤ '9' := by simpa using (Bool.and_eq_true_iff.mp hdigit).2
      exact Nat.lt_of_le_of_lt (UInt32.le_iff_toNat_le.mp hle) (by decide)
    · split at h
      · next hlower =>
        have hle : c ≤ 'f' := by simpa using (Bool.and_eq_true_iff.mp hlower).2
        exact Nat.lt_of_le_of_lt (UInt32.le_iff_toNat_le.mp hle) (by decide)
      · split at h
        · next hupper =>
          have hle : c ≤ 'F' := by simpa using (Bool.and_eq_true_iff.mp hupper).2
          exact Nat.lt_of_le_of_lt (UInt32.le_iff_toNat_le.mp hle) (by decide)
        · cases h

/-- The texts that are account addresses and nothing else are those of their form. -/
theorem isPlainAddress_iff (text : List Char) :
    isPlainAddress text = true ↔ AccountForm text := by
  have hdigits : ∀ digits : List Char,
      (digits.length == 40 && digits.all Text.isHexDigit) = true ↔
        digits.length = 40 ∧ ∀ c ∈ digits, c ∈ hexDigits := by
    intro digits
    simp only [Bool.and_eq_true, beq_iff_eq, List.all_eq_true, isHexDigit_iff]
  unfold isPlainAddress AccountForm
  split
  · next digits =>
    rw [hdigits]
    constructor
    · exact fun h => ⟨digits, rfl, h⟩
    · rintro ⟨other, hsame, h⟩
      obtain rfl : digits = other := by simpa using hsame
      exact h
  · next hother =>
    refine iff_of_false Bool.false_ne_true ?_
    rintro ⟨digits, rfl, -⟩
    exact hother digits rfl

/-- An account address has forty-two characters. -/
theorem AccountForm.length_eq {text : List Char} (h : AccountForm text) : text.length = 42 := by
  obtain ⟨digits, rfl, hlength, -⟩ := h
  simp [hlength]

/-- An account address does not end with a line break. -/
theorem not_accountForm_concat (line : List Char) : ¬ AccountForm (line ++ ['\n']) := by
  rintro ⟨digits, htext, -, hdigits⟩
  have hbreak : '\n' ∉ digits := fun hmem => absurd (hdigits _ hmem) (by decide)
  have hmem : '\n' ∈ '0' :: 'x' :: digits := htext ▸ List.mem_append_right _ List.mem_cons_self
  simp [hbreak] at hmem

/-- The account addresses are the texts of their form, and these with a line break after them. -/
theorem isAddress_iff (s : String) :
    isAddress s = true ↔ AccountForm s.toList ∨ BrokenAfter AccountForm s.toList := by
  unfold isAddress
  rw [isPlainAddress_iff]
  exact dropFinalBreak_iff not_accountForm_concat s.toList

/-! ### Email addresses -/

/-- A text is cut at a character as lists are. -/
theorem splitAtChar_eq_splitOn (divider : Char) (text : List Char) :
    splitAtChar divider text = text.splitOn divider := by
  induction text with
  | nil => rfl
  | cons c rest ih =>
    have hne : rest.splitOn divider ≠ [] := List.splitOn_ne_nil _ _
    have hcons : (c :: rest).splitOn divider =
        if c == divider then [] :: rest.splitOn divider
        else (rest.splitOn divider).modifyHead (c :: ·) := by
      rw [List.splitOn_eq_splitOnP, List.splitOnP_cons_eq_if_modifyHead, List.splitOn_eq_splitOnP]
    rw [splitAtChar, ih, hcons]
    cases hsplit : rest.splitOn divider with
    | nil => exact absurd hsplit hne
    | cons first others => simp

/-- Lists put together with a divider between them are the last one after the others, each of
which a divider follows. -/
theorem intercalate_concat (divider : Char) (pieces : List (List Char)) (last : List Char) :
    [divider].intercalate (pieces ++ [last]) = pieces.flatMap (· ++ [divider]) ++ last := by
  induction pieces with
  | nil => simp
  | cons piece rest ih =>
    have hne : rest ++ [last] ≠ [] := by simp
    obtain ⟨first, others, hrest⟩ := List.exists_cons_of_ne_nil hne
    rw [List.cons_append, hrest, List.intercalate_cons_cons, ← hrest, ih]
    simp

/-- A text is put together from the pieces that it is cut into. -/
theorem eq_of_splitAtChar {divider : Char} {text last : List Char} {pieces : List (List Char)}
    (h : splitAtChar divider text = pieces ++ [last]) :
    text = pieces.flatMap (· ++ [divider]) ++ last := by
  rw [splitAtChar_eq_splitOn] at h
  rw [← intercalate_concat, ← h, List.intercalate_splitOn]

/-- A text put together from pieces without dividers is cut into these. -/
theorem splitAtChar_flatMap {divider : Char} {last : List Char} {pieces : List (List Char)}
    (hpieces : ∀ piece ∈ pieces, divider ∉ piece) (hlast : divider ∉ last) :
    splitAtChar divider (pieces.flatMap (· ++ [divider]) ++ last) = pieces ++ [last] := by
  have hall : ∀ piece ∈ pieces ++ [last], divider ∉ piece := by
    intro piece hpiece
    rcases List.mem_append.mp hpiece with h | h
    · exact hpieces piece h
    · rwa [List.mem_singleton.mp h]
  rw [splitAtChar_eq_splitOn, ← intercalate_concat]
  exact List.splitOn_intercalate divider hall (by simp)

/-- There is a last one among the pieces that a text is cut into. -/
theorem exists_splitAtChar (divider : Char) (text : List Char) :
    ∃ pieces last, splitAtChar divider text = pieces ++ [last] := by
  have hne : splitAtChar divider text ≠ [] := by
    rw [splitAtChar_eq_splitOn]
    exact List.splitOn_ne_nil _ _
  exact ⟨_, _, (List.dropLast_append_getLast hne).symm⟩

/-- The characters of labels are word characters and minus signs. -/
theorem isLabelChar_iff (c : Char) : isLabelChar c = true ↔ Text.isWord c = true ∨ c = '-' := by
  simp [isLabelChar]

/-- The characters of names are word characters, dots, plus and minus signs. -/
theorem isLocalChar_iff (c : Char) :
    isLocalChar c = true ↔ Text.isWord c = true ∨ c = '.' ∨ c = '+' ∨ c = '-' := by
  simp [isLocalChar, or_assoc]

/-- A label is a text of characters of labels that is not empty. -/
theorem isLabel_iff (label : List Char) :
    isLabel label = true ↔ label ≠ [] ∧ ∀ c ∈ label, Text.isWord c = true ∨ c = '-' := by
  unfold isLabel
  rw [Bool.and_eq_true, Bool.not_eq_true', List.isEmpty_eq_false_iff, List.all_eq_true]
  simp only [isLabelChar_iff]

/-- A label has no character that is none of labels. -/
theorem not_mem_of_isLabel {c : Char} {label : List Char} (hc : isLabelChar c = false)
    (h : isLabel label = true) : c ∉ label := by
  intro hmem
  have hchar := ((isLabel_iff label).mp h).2 c hmem
  rw [← isLabelChar_iff, hc] at hchar
  cases hchar

/-- A domain is made of labels, at least one before the last, which is long enough. -/
theorem isDomain_iff (text : List Char) :
    isDomain text = true ↔ ∃ labels last, text = labels.flatMap (· ++ ['.']) ++ last ∧
      labels ≠ [] ∧ (∀ label ∈ labels, isLabel label = true) ∧ isLabel last = true ∧
        2 ≤ last.length := by
  have hpieces : ∀ (labels : List (List Char)) (last : List Char),
      splitAtChar '.' text = labels ++ [last] →
        (isDomain text = true ↔ labels ≠ [] ∧ (∀ label ∈ labels, isLabel label = true) ∧
          isLabel last = true ∧ 2 ≤ last.length) := by
    intro labels last hsplit
    have hmany : 2 ≤ (labels ++ [last]).length ↔ labels ≠ [] := by
      rw [List.length_append, List.length_singleton, ← List.length_pos_iff]
      omega
    unfold isDomain
    rw [hsplit]
    dsimp only
    rw [List.getLastD_concat]
    simp only [List.all_append, List.all_cons, List.all_nil, Bool.and_true, Bool.and_eq_true,
      decide_eq_true_eq, List.all_eq_true, hmany]
    tauto
  constructor
  · intro h
    obtain ⟨labels, last, hsplit⟩ := exists_splitAtChar '.' text
    exact ⟨labels, last, eq_of_splitAtChar hsplit, (hpieces labels last hsplit).mp h⟩
  · rintro ⟨labels, last, rfl, hne, hlabels, hlast, hlong⟩
    have hdot : isLabelChar '.' = false := by decide +kernel
    have hsplit := splitAtChar_flatMap (fun label h => not_mem_of_isLabel hdot (hlabels label h))
      (not_mem_of_isLabel hdot hlast)
    exact (hpieces labels last hsplit).mpr ⟨hne, hlabels, hlast, hlong⟩

/-- There is no at sign in a domain. -/
theorem at_not_mem_of_isDomain {domain : List Char} (h : isDomain domain = true) :
    '@' ∉ domain := by
  have hat : isLabelChar '@' = false := by decide +kernel
  obtain ⟨labels, last, rfl, -, hlabels, hlast, -⟩ := (isDomain_iff domain).mp h
  intro hmem
  rcases List.mem_append.mp hmem with hmem | hmem
  · obtain ⟨label, hin, hdotted⟩ := List.mem_flatMap.mp hmem
    rcases List.mem_append.mp hdotted with hlabel | hdot
    · exact not_mem_of_isLabel hat (hlabels label hin) hlabel
    · exact absurd hdot (by decide)
  · exact not_mem_of_isLabel hat hlast hmem

/-- A text is an email address and nothing else when it is a name and a domain around an at
sign. -/
theorem isPlainEmail_iff_domain (text : List Char) :
    isPlainEmail text = true ↔ ∃ name domain, text = name ++ '@' :: domain ∧ name ≠ [] ∧
      (∀ c ∈ name, isLocalChar c = true) ∧ isDomain domain = true := by
  unfold isPlainEmail
  constructor
  · intro h
    split at h
    · next name domain hsplit =>
      have htext : text = [name].flatMap (· ++ ['@']) ++ domain := eq_of_splitAtChar hsplit
      simp only [Bool.and_eq_true, Bool.not_eq_true', List.isEmpty_eq_false_iff,
        List.all_eq_true] at h
      obtain ⟨⟨hne, hname⟩, hdomain⟩ := h
      exact ⟨name, domain, by simpa using htext, hne, hname, hdomain⟩
    · cases h
  · rintro ⟨name, domain, rfl, hne, hname, hdomain⟩
    have hat : '@' ∉ name := fun hmem => absurd (hname '@' hmem) (by decide +kernel)
    have hafter := at_not_mem_of_isDomain hdomain
    have hpieces : ∀ piece ∈ [name], '@' ∉ piece := by simpa using hat
    have hsplit : splitAtChar '@' (name ++ '@' :: domain) = [name, domain] := by
      simpa using splitAtChar_flatMap hpieces hafter
    rw [hsplit]
    simp only [Bool.and_eq_true, Bool.not_eq_true', List.isEmpty_eq_false_iff, List.all_eq_true]
    exact ⟨⟨hne, hname⟩, hdomain⟩

/-- The texts that are email addresses and nothing else are those of their form. -/
theorem isPlainEmail_iff (text : List Char) : isPlainEmail text = true ↔ EmailForm text := by
  rw [isPlainEmail_iff_domain]
  simp only [isLocalChar_iff]
  constructor
  · rintro ⟨name, domain, rfl, hne, hname, hdomain⟩
    obtain ⟨labels, last, rfl, hdivided, hlabels, hlast, hlong⟩ := (isDomain_iff domain).mp hdomain
    have hsound : ∀ label ∈ labels, label ≠ [] ∧ ∀ c ∈ label, Text.isWord c = true ∨ c = '-' :=
      fun label h => (isLabel_iff label).mp (hlabels label h)
    refine ⟨⟨name, labels, last⟩, ?_, rfl⟩
    exact ⟨hne, hname, hdivided, fun label h => (hsound label h).1,
      fun label h => (hsound label h).2, hlong, ((isLabel_iff last).mp hlast).2⟩
  · rintro ⟨p, h, rfl⟩
    have hlabels : ∀ label ∈ p.labels, isLabel label = true := fun label hin =>
      (isLabel_iff label).mpr ⟨h.labelled label hin, h.labels label hin⟩
    have hne : p.last ≠ [] := fun hnil => absurd h.long (by simp [hnil])
    have hlast : isLabel p.last = true := (isLabel_iff p.last).mpr ⟨hne, h.last⟩
    have hdomain : isDomain p.domain = true :=
      (isDomain_iff _).mpr ⟨p.labels, p.last, rfl, h.divided, hlabels, hlast, h.long⟩
    exact ⟨p.name, p.domain, rfl, h.named, h.name, hdomain⟩

/-- An email address does not end with a line break. -/
theorem not_emailForm_concat (line : List Char) : ¬ EmailForm (line ++ ['\n']) := by
  rintro ⟨p, h, htext⟩
  have hne : p.last ≠ [] := fun hnil => absurd h.long (by simp [hnil])
  have hends : p.text = (p.name ++ '@' :: (p.labels.flatMap (· ++ ['.']) ++ p.last.dropLast)) ++
      [p.last.getLast hne] := by
    have hlast := List.dropLast_append_getLast hne
    simp [EmailParts.text, EmailParts.domain, hlast]
  obtain ⟨-, hbreak⟩ := List.append_inj' (htext.trans hends) rfl
  have hmem : '\n' ∈ p.last := List.singleton_inj.mp hbreak ▸ List.getLast_mem hne
  exact absurd (h.last _ hmem) (by decide +kernel)

/-- The email addresses are the texts of their form, and these with a line break after them. -/
theorem isEmail_iff (s : String) :
    isEmail s = true ↔ EmailForm s.toList ∨ BrokenAfter EmailForm s.toList := by
  unfold isEmail
  rw [isPlainEmail_iff]
  exact dropFinalBreak_iff not_emailForm_concat s.toList

/-- A recogniser that accepts a form with and without a line break after it accepts just the form
at the texts that are not broken after it. -/
theorem accepts_form_iff {form : List Char → Prop} (h : ∀ line, ¬ form (line ++ ['\n']))
    (text : List Char) :
    (form text ∨ BrokenAfter form text ↔ form text) ↔ ¬ BrokenAfter form text := by
  have hapart : BrokenAfter form text → ¬ form text := by
    rintro ⟨line, -, rfl⟩
    exact h line
  tauto

/-- An account address with a line break after it has forty-three characters. -/
theorem BrokenAfter.length_eq {text : List Char} (h : BrokenAfter AccountForm text) :
    text.length = 43 := by
  obtain ⟨line, hform, rfl⟩ := h
  rw [List.length_append, hform.length_eq, List.length_singleton]

end Format

/-- The addresses of an action that are fixed: that of the contract that it calls, and that of the
receiver of its transfer, if it is not empty and holds no placeholder. -/
inductive Action.HasAddress (a : Action) : String → Prop where
  /-- The address of a contract. -/
  | contract {c : ContractCall} (task : a.task = .contractCall c) : a.HasAddress c.address
  /-- The address of a receiver. -/
  | receiver {t : Transfer} {address : String} (task : a.task = .transfer t)
    (given : t.receiver = some address) (named : address ≠ "")
    (fixed : textHasPlaceholder address = false) : a.HasAddress address

/-- The fixed addresses of an action that passes its check are recognised. -/
theorem Action.HasAddress.isAddress {a : Action} {address : String} (h : a.HasAddress address)
    (hc : a.check = .ok ()) : Format.isAddress address = true := by
  obtain ⟨-, -, htask⟩ := check_eq_ok_iff.mp hc
  unfold checkTask at htask
  cases h with
  | contract task =>
    rw [task] at htask
    obtain ⟨haddress, -⟩ := Check.bind_eq_ok_iff.mp htask
    simpa using refuseIf_eq_ok_iff.mp haddress
  | receiver task given named fixed =>
    rw [task] at htask
    dsimp only at htask
    rw [given] at htask
    obtain ⟨haddress, -⟩ := Check.bind_eq_ok_iff.mp htask
    have hform := refuseIf_eq_ok_iff.mp haddress
    simpa [named, fixed] using hform

/-- For every text: it is recognised as an account address when it is `0x` and forty hexadecimal
digits, perhaps with a line break after them, and as an email address when it is a name, an at
sign and a domain of two labels or more, the last of them of two characters or more, perhaps with
a line break after it. So a recogniser accepts the text just when it has the form, unless the text
has the form and a line break after it. Hence a fixed address of a valid flow has forty-two
characters, or forty-three of which the last is a line break. -/
theorem Format.recognises_forms_up_to_break (s : String) :
    (isAddress s = true ↔ AccountForm s.toList ∨ BrokenAfter AccountForm s.toList) ∧
      ((isAddress s = true ↔ AccountForm s.toList) ↔ ¬ BrokenAfter AccountForm s.toList) ∧
    (isEmail s = true ↔ EmailForm s.toList ∨ BrokenAfter EmailForm s.toList) ∧
      ((isEmail s = true ↔ EmailForm s.toList) ↔ ¬ BrokenAfter EmailForm s.toList) ∧
    ∀ f : Flow, f.validated = .ok f → ∀ a ∈ f.actions, a.HasAddress s →
      AccountForm s.toList ∧ s.length = 42 ∨
        BrokenAfter AccountForm s.toList ∧ s.length = 43 := by
  refine ⟨isAddress_iff s, ?_, isEmail_iff s, ?_, fun f hf a ha haddress => ?_⟩
  · rw [isAddress_iff]
    exact accepts_form_iff not_accountForm_concat s.toList
  · rw [isEmail_iff]
    exact accepts_form_iff not_emailForm_concat s.toList
  · have hcheck := f.validated_eq_ok_iff.mp hf .actionsComplete a ha
    have hrecognised := haddress.isAddress hcheck
    rw [← String.length_toList]
    rcases (isAddress_iff s).mp hrecognised with hform | hbroken
    · exact .inl ⟨hform, hform.length_eq⟩
    · exact .inr ⟨hbroken, hbroken.length_eq⟩

/-- The contract that the small flow calls has an address of forty-two characters. -/
theorem sampleFlow_address_written :
    let address := "0x0000000000000000000000000000000000000000"
    sampleFlow.validated = .ok sampleFlow ∧
      ∃ a ∈ sampleFlow.actions, a.HasAddress address ∧
        (Format.AccountForm address.toList ∧ address.length = 42 ∨
          Format.BrokenAfter Format.AccountForm address.toList ∧ address.length = 43) := by
  intro address
  have hmem : sampleFlow.actions[1] ∈ sampleFlow.actions := List.getElem_mem _
  have haddress := Action.HasAddress.contract (a := sampleFlow.actions[1]) rfl
  obtain ⟨-, -, -, -, hflows⟩ := Format.recognises_forms_up_to_break address
  exact ⟨sampleFlow_validated, _, hmem, haddress,
    hflows sampleFlow sampleFlow_validated _ hmem haddress⟩

/-- An account address and an email address with a line break after them are recognised, although
they are not of the forms, and the first has forty-three characters. -/
theorem Format.recognises_broken_lines :
    let account := "0x0000000000000000000000000000000000000000\n"
    let email := "a@b.co\n"
    isAddress account = true ∧ ¬ AccountForm account.toList ∧ account.length = 43 ∧
      isEmail email = true ∧ ¬ EmailForm email.toList := by
  intro account email
  have haccount : ¬ AccountForm account.toList := fun h => absurd h.length_eq (by decide)
  have hbroken : email.toList = "a@b.co".toList ++ ['\n'] := by decide
  have hemail : ¬ EmailForm email.toList := hbroken ▸ not_emailForm_concat _
  exact ⟨by decide +kernel, haccount, by decide, by decide +kernel, hemail⟩

end ActionFlow
