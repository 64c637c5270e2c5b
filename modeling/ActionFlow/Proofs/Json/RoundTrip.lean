import ActionFlow.Proofs.Json.Numbers
import ActionFlow.Proofs.Json.Strings

/-!
# JSON read back

The JSON text of a value is read as the value. Of a value that is no number the text does not
tell where it was found. A whole number must not have more digits than are taken, and no key of
an object may occur twice; a value that keeps to this is called legible. The reader goes through
the text along the value: one lemma for values, one for the items of a list and one for the
members of an object.
-/

namespace ActionFlow

namespace Value

mutual

/-- Whether a value can be read back from its JSON text. -/
def isLegible : Value → Bool
  | .int n => (Nat.toDigits 10 n.natAbs).length ≤ Json.digitLimit
  | .list items => itemsLegible items
  | .object fields => decide (fields.map Prod.fst).Nodup && fieldsLegible fields
  | _ => true

/-- Whether some items can be read back. -/
def itemsLegible : List Value → Bool
  | [] => true
  | v :: rest => isLegible v && itemsLegible rest

/-- Whether the values of some fields can be read back. -/
def fieldsLegible : List (String × Value) → Bool
  | [] => true
  | (_, v) :: rest => isLegible v && fieldsLegible rest

end

end Value

/-- A number as it is read back: it stands as a number, also if it is none. -/
def Binary64.reread : Binary64 → Binary64
  | .nan _ => .nan .number
  | x => x

namespace Value

mutual

/-- A value as it is read back. -/
def reread : Value → Value
  | .float x => .float x.reread
  | .list items => .list (rereadItems items)
  | .object fields => .object (rereadFields fields)
  | v => v

/-- Items as they are read back. -/
def rereadItems : List Value → List Value
  | [] => []
  | v :: rest => reread v :: rereadItems rest

/-- Fields as they are read back. -/
def rereadFields : List (String × Value) → List (String × Value)
  | [] => []
  | (key, v) :: rest => (key, reread v) :: rereadFields rest

end

end Value

namespace Json

/-- A text that begins as a number does: with a digit, or with a minus sign and a digit. -/
def BeginsNumber (cs : List Char) : Prop :=
  ∃ c rest, Text.isAsciiDigit c = true ∧ (cs = c :: rest ∨ cs = '-' :: c :: rest)

/-- A numeral with a sign begins as a number does. -/
theorem Numeral.WellFormed.beginsNumber {n : Numeral} (hn : n.WellFormed) (negative : Bool)
    (rest : List Char) : BeginsNumber (signed negative n.chars ++ rest) := by
  obtain ⟨c, others, hc⟩ := List.exists_cons_of_ne_nil hn.nonempty
  have hdigit : Text.isAsciiDigit c = true := hn.whole c (hc ▸ List.mem_cons_self)
  refine ⟨c, others ++ (fractionChars n.fraction ++ powerChars n.power) ++ rest, hdigit, ?_⟩
  unfold chars
  rw [hc]
  cases negative with
  | true => exact .inr rfl
  | false => exact .inl rfl

/-- What begins as a number does is read as a number. -/
theorem readValue_of_beginsNumber {cs : List Char} (h : BeginsNumber cs) (steps : Nat) :
    readValue (steps + 1) cs = readNumber cs := by
  obtain ⟨c, rest, hdigit, hcs⟩ := h
  have hne : ∀ d, Text.isAsciiDigit d = false → c ≠ d := by
    rintro d hd rfl
    rw [hdigit] at hd
    cases hd
  have hhead : ∀ d tail, Text.isAsciiDigit d = false → d ≠ '-' → cs ≠ d :: tail := by
    rintro d tail hd hminus rfl
    rcases hcs with hcs | hcs
    · exact hne d hd (List.cons.inj hcs).1.symm
    · exact hminus (List.cons.inj hcs).1
  unfold readValue
  split
  · exact absurd rfl (hhead _ _ (by decide) (by decide))
  · exact absurd rfl (hhead _ _ (by decide) (by decide))
  · exact absurd rfl (hhead _ _ (by decide) (by decide))
  · unfold readScalar
    split
    · exact absurd rfl (hhead _ _ (by decide) (by decide))
    · exact absurd rfl (hhead _ _ (by decide) (by decide))
    · exact absurd rfl (hhead _ _ (by decide) (by decide))
    · exact absurd rfl (hhead _ _ (by decide) (by decide))
    · exact absurd rfl (hhead _ _ (by decide) (by decide))
    · -- The word for infinity goes on with a letter after the minus sign.
      rcases hcs with hcs | hcs
      · exact absurd (List.cons.inj hcs).1.symm (hne _ (by decide))
      · exact absurd (List.cons.inj (List.cons.inj hcs).2).1.symm (hne _ (by decide))
    · rfl

/-- No value begins with spacing or with the closing bracket of a list. -/
theorem readValue_of_closing {c : Char} (h : isSpacing c = true ∨ c = ']') (steps : Nat)
    (cs : List Char) : readValue steps (c :: cs) = .error (.expectingValue, cs.length + 1) := by
  have hall : c = ' ' ∨ c = '\t' ∨ c = '\n' ∨ c = '\r' ∨ c = ']' := by
    simpa [isSpacing, or_assoc] using h
  cases steps with
  | zero => rfl
  | succ steps => rcases hall with rfl | rfl | rfl | rfl | rfl <;> rfl

/-- What is read as a value begins neither with spacing nor with the closing bracket of a
list. -/
theorem head_of_readValue {steps : Nat} {cs : List Char} {read : Value × List Char}
    (h : readValue steps cs = .ok read) :
    ∃ c rest, cs = c :: rest ∧ isSpacing c = false ∧ c ≠ ']' := by
  cases cs with
  | nil => cases steps <;> cases h
  | cons c rest =>
    have hopen : ¬ (isSpacing c = true ∨ c = ']') := fun hclosing => by
      rw [readValue_of_closing hclosing] at h
      cases h
    obtain ⟨hspacing, hbracket⟩ := not_or.mp hopen
    exact ⟨c, rest, rfl, Bool.eq_false_iff.mpr hspacing, hbracket⟩

/-- Nothing is skipped before a character that is no spacing. -/
theorem skipSpacing_cons {c : Char} (h : isSpacing c = false) (rest : List Char) :
    skipSpacing (c :: rest) = c :: rest := List.dropWhile_cons_of_neg (Bool.eq_false_iff.mp h)

/-- Nothing is skipped before a value. -/
theorem skipSpacing_of_readValue {steps : Nat} {cs : List Char} {read : Value × List Char}
    (h : readValue steps cs = .ok read) : skipSpacing cs = cs := by
  obtain ⟨c, rest, rfl, hspacing, -⟩ := head_of_readValue h
  exact skipSpacing_cons hspacing rest

/-- The end or the next part of what holds a value ends it. -/
theorem endsValue_cons {c : Char} (h : c = ',' ∨ c = ']' ∨ c = '\x7d') (rest : List Char) :
    EndsValue (c :: rest) := by
  rintro d ⟨⟩
  exact h

/-- A written text is its characters between two marks. -/
theorem writeString_append (s : String) (rest : List Char) :
    writeString s ++ rest = '"' :: (s.toList.flatMap escapeChar ++ '"' :: rest) := by
  unfold writeString
  rw [List.cons_append, List.append_assoc]
  rfl

/-- A written text is read back. -/
theorem readValue_writeString (s : String) (rest : List Char) (steps : Nat) :
    readValue (steps + 1) (writeString s ++ rest) = .ok (.text s, rest) := by
  rw [writeString_append, readValue, readString_flatMap]
  exact congrArg (fun text => Except.ok (Value.text text, rest)) String.ofList_toList

/-- A written number is read back. -/
theorem readValue_render (x : Binary64) {rest : List Char} (hr : EndsValue rest) (steps : Nat) :
    readValue (steps + 1) ((x.render numberWords).toList ++ rest) =
      .ok (.float x.reread, rest) := by
  cases x with
  | nan source => cases source <;> rfl
  | infinite negative => cases negative <;> rfl
  | finite negative m =>
    obtain ⟨hchars, hwell, -⟩ := magnitudeNumeral_spec m
    have hrender : (Binary64.render numberWords (.finite negative m)).toList =
        signed negative (Binary64.magnitudeText m) := String.toList_ofList
    have hbegins := hwell.beginsNumber negative rest
    rw [hchars] at hbegins
    rw [hrender, readValue_of_beginsNumber hbegins, readNumber_finite negative m hr]
    rfl

/-- A written whole number is read back. -/
theorem readValue_toString {n : Int} (hn : (Nat.toDigits 10 n.natAbs).length ≤ digitLimit)
    {rest : List Char} (hr : EndsValue rest) (steps : Nat) :
    readValue (steps + 1) ((toString n).toList ++ rest) = .ok (.int n, rest) := by
  have hbegins := (wholeNumeral_wellFormed n.natAbs).beginsNumber (n < 0) rest
  rw [← toString_toList] at hbegins
  rw [readValue_of_beginsNumber hbegins, readNumber_int hn hr]

section Steps

variable {steps : Nat} {cs next rest : List Char} {v : Value} {read : Value × List Char}

/-- What is read as items begins as its first item does. -/
theorem head_of_readItems {done : List Value} (h : readItems steps done cs = .ok read) :
    ∃ c rest, cs = c :: rest ∧ isSpacing c = false ∧ c ≠ ']' := by
  cases steps with
  | zero => cases h
  | succ steps =>
    unfold readItems at h
    cases hv : readValue steps cs with
    | error fault =>
      rw [hv] at h
      cases h
    | ok item => exact head_of_readValue hv

/-- What is read as members begins with a mark. -/
theorem head_of_readMembers {done : Fields} (h : readMembers steps done cs = .ok read) :
    ∃ rest, cs = '"' :: rest := by
  cases steps with
  | zero => cases h
  | succ steps =>
    unfold readMembers at h
    split at h
    · next rest => exact ⟨rest, rfl⟩
    · cases h

/-- A list of items is read as its items are. -/
theorem readValue_list (h : readItems steps [] cs = .ok read) :
    readValue (steps + 1) ('[' :: cs) = .ok read := by
  obtain ⟨c, rest, rfl, hspacing, hbracket⟩ := head_of_readItems h
  rw [readValue, skipSpacing_cons hspacing]
  split
  · next hcons => exact absurd (List.cons.inj hcons).1 hbracket
  · exact h

/-- An object of members is read as its members are. -/
theorem readValue_object (h : readMembers steps [] cs = .ok read) :
    readValue (steps + 1) ('\x7b' :: cs) = .ok read := by
  obtain ⟨rest, rfl⟩ := head_of_readMembers h
  exact h

/-- The last item ends a list. -/
theorem readItems_last (done : List Value) (h : readValue steps cs = .ok (v, ']' :: rest)) :
    readItems (steps + 1) done cs = .ok (.list (v :: done).reverse, rest) := by
  unfold readItems
  rw [h]
  rfl

/-- After an item and a comma the other items are read. -/
theorem readItems_next {done : List Value} (h : readValue steps cs = .ok (v, ',' :: ' ' :: next))
    (hnext : readItems steps (v :: done) next = .ok read) :
    readItems (steps + 1) done cs = .ok read := by
  obtain ⟨c, rest, rfl, hspacing, -⟩ := head_of_readItems hnext
  have hskip : skipSpacing (' ' :: c :: rest) = c :: rest := skipSpacing_cons hspacing rest
  rw [readItems, h]
  change readItems steps (v :: done) (skipSpacing (' ' :: c :: rest)) = .ok read
  rw [hskip, hnext]

/-- A member is read as its name and its value. -/
theorem readMembers_name {done : Fields} (key : String)
    (h : readValue steps cs = .ok (v, rest)) :
    readMembers (steps + 1) done (writeString key ++ ':' :: ' ' :: cs) =
      match skipSpacing rest with
      | '\x7d' :: after => .ok (.object (Keyed.set key v done), after)
      | ',' :: next => readMembers steps (Keyed.set key v done) (skipSpacing next)
      | other => .error (.expectingComma, other.length) := by
  have hskip : skipSpacing (' ' :: cs) = cs := skipSpacing_of_readValue h
  have hcolon : skipSpacing (':' :: ' ' :: cs) = ':' :: ' ' :: cs := rfl
  rw [writeString_append, readMembers, readString_flatMap]
  simp only [bind, Except.bind, hcolon, hskip, h, List.reverse_nil, List.nil_append,
    String.ofList_toList]
  rfl

/-- The last member ends an object. -/
theorem readMembers_last (done : Fields) (key : String)
    (h : readValue steps cs = .ok (v, '\x7d' :: rest)) :
    readMembers (steps + 1) done (writeString key ++ ':' :: ' ' :: cs) =
      .ok (.object (Keyed.set key v done), rest) := by
  rw [readMembers_name key h]
  rfl

/-- After a member and a comma the other members are read. -/
theorem readMembers_next {done : Fields} (key : String)
    (h : readValue steps cs = .ok (v, ',' :: ' ' :: next))
    (hnext : readMembers steps (Keyed.set key v done) next = .ok read) :
    readMembers (steps + 1) done (writeString key ++ ':' :: ' ' :: cs) = .ok read := by
  rw [readMembers_name key h, ← hnext]
  obtain ⟨rest, rfl⟩ := head_of_readMembers hnext
  rfl

end Steps

/-- The first of several pieces is followed by a comma, a blank and the others. -/
theorem joinPieces_cons_cons (piece next : List Char) (others : List (List Char)) :
    joinPieces (piece :: next :: others) = piece ++ ',' :: ' ' :: joinPieces (next :: others) := rfl

/-- The text of several pieces is longer than that of the first and that of the others. -/
theorem length_joinPieces_cons (piece next : List Char) (others : List (List Char)) :
    (joinPieces (piece :: next :: others)).length =
      piece.length + (joinPieces (next :: others)).length + 2 := by
  rw [joinPieces_cons_cons, List.length_append, List.length_cons, List.length_cons]
  omega

/-- A name that is new among some fields is added to them, and the names after it stay new. -/
theorem set_of_nodup {done fields : Fields} {key : String} {v w : Value}
    (hkeys : ((done ++ (key, v) :: fields).map Prod.fst).Nodup) :
    Keyed.set key w done = done ++ [(key, w)] ∧
      ((done ++ [(key, w)] ++ fields).map Prod.fst).Nodup := by
  simp only [List.map_append, List.map_cons] at hkeys
  have hnew : key ∉ done.map Prod.fst := by
    intro hmem
    exact (List.nodup_append.mp hkeys).2.2 key hmem key List.mem_cons_self rfl
  refine ⟨Keyed.set_of_not_mem hnew w, ?_⟩
  simpa only [List.map_append, List.map_cons, List.map_nil, List.append_assoc,
    List.singleton_append] using hkeys

-- The induction is on the value. A bracket and an item each take a step, and each has at least
-- one character, so twice the length of the text leaves enough steps at every place.
mutual

/-- What is written for a legible value is read as the value, if the steps are more than twice
the length of the text. -/
theorem readValue_writeChars : (v : Value) → v.isLegible = true → (steps : Nat) →
    (rest : List Char) → 2 * (writeChars v).length < steps → EndsValue rest →
    readValue steps (writeChars v ++ rest) = .ok (v.reread, rest)
  | _, _, 0, _, hsteps, _ => absurd hsteps (Nat.not_lt_zero _)
  | .null, _, _ + 1, _, _, _ => rfl
  | .bool true, _, _ + 1, _, _, _ => rfl
  | .bool false, _, _ + 1, _, _, _ => rfl
  | .int _, hv, steps + 1, _, _, hr => readValue_toString (of_decide_eq_true hv) hr steps
  | .float x, _, steps + 1, _, _, hr => readValue_render x hr steps
  | .text s, _, steps + 1, rest, _, _ => readValue_writeString s rest steps
  | .list [], _, _ + 1, _, _, _ => rfl
  | .list (v :: items), hv, steps + 1, rest, hsteps, _ => by
    have hlength : 2 * (joinPieces (writeItems (v :: items))).length + 1 < steps := by
      simp only [writeChars, List.length_cons, List.length_append, List.length_nil] at hsteps
      omega
    have hitems := readItems_joinPieces (v :: items) (List.cons_ne_nil v items) hv steps rest
      hlength []
    rw [writeChars, List.cons_append, List.append_assoc]
    exact readValue_list hitems
  | .object [], _, _ + 1, _, _, _ => rfl
  | .object (field :: fields), hv, steps + 1, rest, hsteps, _ => by
    obtain ⟨hkeys, hfields⟩ := Bool.and_eq_true_iff.mp hv
    have hlength : 2 * (joinPieces (writeFields (field :: fields))).length + 1 < steps := by
      simp only [writeChars, List.length_cons, List.length_append, List.length_nil] at hsteps
      omega
    have hmembers := readMembers_joinPieces (field :: fields) (List.cons_ne_nil field fields)
      hfields steps rest hlength [] (of_decide_eq_true hkeys)
    rw [writeChars, List.cons_append, List.append_assoc]
    exact readValue_object hmembers

/-- What is written for legible items is read as the items. -/
theorem readItems_joinPieces : (items : List Value) → items ≠ [] →
    Value.itemsLegible items = true → (steps : Nat) → (rest : List Char) →
    2 * (joinPieces (writeItems items)).length + 1 < steps → (done : List Value) →
    readItems steps done (joinPieces (writeItems items) ++ ']' :: rest) =
      .ok (.list (done.reverse ++ Value.rereadItems items), rest)
  | _, _, _, 0, _, hsteps, _ => absurd hsteps (Nat.not_lt_zero _)
  | [], hne, _, _ + 1, _, _, _ => absurd rfl hne
  | [v], _, hv, steps + 1, rest, hsteps, done => by
    obtain ⟨hv, -⟩ := Bool.and_eq_true_iff.mp hv
    have hlength : 2 * (writeChars v).length < steps := by
      simp only [writeItems, joinPieces] at hsteps
      omega
    have hread := readValue_writeChars v hv steps _ hlength
      (endsValue_cons (.inr (.inl rfl)) rest)
    have hlast := readItems_last done hread
    rw [List.reverse_cons] at hlast
    exact hlast
  | v :: w :: others, _, hv, steps + 1, rest, hsteps, done => by
    obtain ⟨hv, hothers⟩ := Bool.and_eq_true_iff.mp hv
    simp only [writeItems, length_joinPieces_cons] at hsteps
    have hlength : 2 * (writeChars v).length < steps := by omega
    have hnext := readItems_joinPieces (w :: others) (List.cons_ne_nil w others) hothers
      steps rest (by simp only [writeItems]; omega) (v.reread :: done)
    have hread := readValue_writeChars v hv steps _ hlength
      (endsValue_cons (.inl rfl) (' ' :: (joinPieces (writeItems (w :: others)) ++ ']' :: rest)))
    rw [List.reverse_cons, List.append_assoc] at hnext
    rw [writeItems, writeItems, joinPieces_cons_cons, List.append_assoc]
    exact readItems_next hread hnext

/-- What is written for legible fields of new names is read as the fields. -/
theorem readMembers_joinPieces : (fields : List (String × Value)) → fields ≠ [] →
    Value.fieldsLegible fields = true → (steps : Nat) → (rest : List Char) →
    2 * (joinPieces (writeFields fields)).length + 1 < steps → (done : Fields) →
    ((done ++ fields).map Prod.fst).Nodup →
    readMembers steps done (joinPieces (writeFields fields) ++ '\x7d' :: rest) =
      .ok (.object (done ++ Value.rereadFields fields), rest)
  | _, _, _, 0, _, hsteps, _, _ => absurd hsteps (Nat.not_lt_zero _)
  | [], hne, _, _ + 1, _, _, _, _ => absurd rfl hne
  | [(key, v)], _, hv, steps + 1, rest, hsteps, done, hkeys => by
    obtain ⟨hv, -⟩ := Bool.and_eq_true_iff.mp hv
    have hlength : 2 * (writeChars v).length < steps := by
      simp only [writeFields, joinPieces, List.length_append, List.length_cons] at hsteps
      omega
    have hread := readValue_writeChars v hv steps _ hlength
      (endsValue_cons (.inr (.inr rfl)) rest)
    have hlast := readMembers_last done key hread
    rw [(set_of_nodup hkeys).1] at hlast
    rw [writeFields, writeFields, joinPieces, List.append_assoc]
    exact hlast
  | (key, v) :: (name, w) :: others, _, hv, steps + 1, rest, hsteps, done, hkeys => by
    obtain ⟨hv, hothers⟩ := Bool.and_eq_true_iff.mp hv
    have hpieces : (writeChars v).length +
        (joinPieces (writeFields ((name, w) :: others))).length + 4 ≤
        (joinPieces (writeFields ((key, v) :: (name, w) :: others))).length := by
      simp only [writeFields, length_joinPieces_cons, List.length_append, List.length_cons]
      omega
    obtain ⟨hset, hnew⟩ := set_of_nodup (w := v.reread) hkeys
    have hnext := readMembers_joinPieces ((name, w) :: others) (List.cons_ne_nil _ others) hothers
      steps rest (by omega) (done ++ [(key, v.reread)]) hnew
    have hread := readValue_writeChars v hv steps _ (by omega)
      (endsValue_cons (.inl rfl)
        (' ' :: (joinPieces (writeFields ((name, w) :: others)) ++ '\x7d' :: rest)))
    rw [← hset] at hnext
    have hmembers := readMembers_next key hread hnext
    rw [hset, List.append_assoc] at hmembers
    rw [writeFields, writeFields, joinPieces_cons_cons, List.append_assoc, List.append_assoc]
    exact hmembers

end

/-- The JSON text of a legible value is read as the value. -/
theorem readChars_writeChars {v : Value} (h : v.isLegible = true) :
    readChars (writeChars v) = .ok v.reread := by
  have hread : readValue (2 * (writeChars v).length + 2) (writeChars v) = .ok (v.reread, []) := by
    have happend := readValue_writeChars v h _ [] (Nat.lt_add_of_pos_right (Nat.succ_pos 1)) nofun
    rwa [List.append_nil] at happend
  unfold readChars readDocument
  rw [skipSpacing_of_readValue hread, hread]
  rfl

end Json

end ActionFlow
