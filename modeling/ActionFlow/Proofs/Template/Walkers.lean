import ActionFlow.Proofs.Template.Cuts
import ActionFlow.Proofs.Template.Lookups

/-!
# Two walks through a value

A value can be substituted throughout, which gives texts for its texts, or resolved
throughout, which gives values for those texts that are one placeholder. Both walks keep the
shape of the value and differ only at such texts: there the one gives the value that the path
leads to, and the other the text of that value between the margins of the placeholder.
-/

namespace ActionFlow

/-- Whether a text is one placeholder between margins. -/
structure IsSole (text lead path trail : List Char) : Prop where
  /-- The text is written so. -/
  written : text = lead ++ ((Piece.placeholder path).source ++ trail)
  /-- Between the braces stands a path. -/
  isPath : IsPath path
  /-- What is in front of the placeholder is margin. -/
  lead_margin : ∀ c ∈ lead, Text.isMargin c = true
  /-- What is after the placeholder is margin. -/
  trail_margin : ∀ c ∈ trail, Text.isMargin c = true

/-- What the two walks make of a text: first the one that substitutes, then the one that
resolves. -/
inductive LeafBecomes (context : Value) (text : String) : Value → Value → Prop where
  /-- A text that is not one placeholder between margins is substituted by both. -/
  | mixed {t : Value} (hmixed : ∀ lead path trail, ¬IsSole text.toList lead path trail)
    (ht : (Value.text text).substitute context = .ok t) : LeafBecomes context text t t
  /-- A placeholder whose path leads nowhere stays, with its margins. -/
  | unresolved {lead path trail : List Char} (hsole : IsSole text.toList lead path trail)
    (hnone : resolvePath path context = .ok none) :
    LeafBecomes context text (.text text) (.text text)
  /-- Any other placeholder becomes the text of a value between its margins, and that value. -/
  | resolved {lead path trail : List Char} {value : Value}
    (hsole : IsSole text.toList lead path trail)
    (hsome : resolvePath path context = .ok (some value)) :
    LeafBecomes context text (.text (String.ofList (lead ++ (value.inserted.toList ++ trail))))
      value

mutual

/-- What the two walks make of a value: the same shape, with other texts. -/
inductive Walked (context : Value) : Value → Value → Value → Prop where
  /-- A text becomes what the walks make of it. -/
  | text {s : String} {x y : Value} (hs : LeafBecomes context s x y) : Walked context (.text s) x y
  /-- Null stays. -/
  | null : Walked context .null .null .null
  /-- A truth value stays. -/
  | bool (b : Bool) : Walked context (.bool b) (.bool b) (.bool b)
  /-- A whole number stays. -/
  | int (n : Int) : Walked context (.int n) (.int n) (.int n)
  /-- A floating-point number stays. -/
  | float (x : Binary64) : Walked context (.float x) (.float x) (.float x)
  /-- A list stays a list of as many items. -/
  | list {items xs ys : List Value} (hitems : WalkedItems context items xs ys) :
    Walked context (.list items) (.list xs) (.list ys)
  /-- An object stays an object with the same keys in the same order. -/
  | object {fields xs ys : List (String × Value)} (hfields : WalkedFields context fields xs ys) :
    Walked context (.object fields) (.object xs) (.object ys)

/-- What the two walks make of the items of a list. -/
inductive WalkedItems (context : Value) : List Value → List Value → List Value → Prop where
  /-- No items. -/
  | nil : WalkedItems context [] [] []
  /-- An item, and those after it. -/
  | cons {v x y : Value} {rest xs ys : List Value} (first : Walked context v x y)
    (others : WalkedItems context rest xs ys) :
    WalkedItems context (v :: rest) (x :: xs) (y :: ys)

/-- What the two walks make of the fields of an object. -/
inductive WalkedFields (context : Value) :
    List (String × Value) → List (String × Value) → List (String × Value) → Prop where
  /-- No fields. -/
  | nil : WalkedFields context [] [] []
  /-- A field, which keeps its key, and those after it. -/
  | cons {key : String} {v x y : Value} {rest xs ys : List (String × Value)}
    (first : Walked context v x y) (others : WalkedFields context rest xs ys) :
    WalkedFields context ((key, v) :: rest) ((key, x) :: xs) ((key, y) :: ys)

end

section Margins

variable {drop : Char → Bool}

/-- A text is what is left of it by trimming, between what was dropped. -/
theorem Text.exists_eq_append_trim (drop : Char → Bool) (text : List Char) :
    ∃ lead trail, text = lead ++ (Text.trim drop text ++ trail) ∧
      (∀ c ∈ lead, drop c = true) ∧ ∀ c ∈ trail, drop c = true := by
  refine ⟨text.takeWhile drop, ((text.dropWhile drop).reverse.takeWhile drop).reverse, ?_,
    fun c hc => List.mem_takeWhile_imp hc,
    fun c hc => List.mem_takeWhile_imp (List.mem_reverse.mp hc)⟩
  rw [trim, ← List.reverse_append, List.takeWhile_append_dropWhile, List.reverse_reverse,
    List.takeWhile_append_dropWhile]

/-- Nothing is dropped from a text that begins with something else. -/
theorem Text.dropWhile_eq_self {text : List Char} (h : ∃ c ∈ text.head?, drop c = false) :
    text.dropWhile drop = text := by
  obtain ⟨c, hc, hkept⟩ := h
  obtain ⟨rest, rfl⟩ := List.head?_eq_some_iff.mp hc
  rw [List.dropWhile_cons_of_neg (by simp [hkept])]

/-- Trimming leaves what stands between margins and has none at its own ends. -/
theorem Text.trim_append {lead middle trail : List Char} (hlead : ∀ c ∈ lead, drop c = true)
    (htrail : ∀ c ∈ trail, drop c = true) (hfirst : ∃ c ∈ middle.head?, drop c = false)
    (hlast : ∃ c ∈ middle.getLast?, drop c = false) :
    Text.trim drop (lead ++ (middle ++ trail)) = middle := by
  have hfront : ∃ c ∈ (middle ++ trail).head?, drop c = false := by
    obtain ⟨c, hc, hkept⟩ := hfirst
    exact ⟨c, by simp [Option.mem_def.mp hc], hkept⟩
  have hback : ∃ c ∈ middle.reverse.head?, drop c = false := by
    rwa [List.head?_reverse]
  rw [trim, List.dropWhile_append_of_pos hlead, dropWhile_eq_self hfront, List.reverse_append,
    List.dropWhile_append_of_pos fun c hc => htrail c (List.mem_reverse.mp hc),
    dropWhile_eq_self hback, List.reverse_reverse]

end Margins

/-- A placeholder begins with a brace. -/
theorem BeginsPlaceholder.head?_eq {text : List Char} (h : BeginsPlaceholder text) :
    text.head? = some '\x7b' := by
  obtain ⟨path, after, -, rfl⟩ := h
  rfl

/-- No placeholder begins in a margin. -/
theorem not_beginsPlaceholder_of_margin {margin : List Char}
    (hm : ∀ c ∈ margin, Text.isMargin c = true) (rest : List Char) {k : Nat}
    (hk : k < margin.length) : ¬BeginsPlaceholder ((margin ++ rest).drop k) := by
  intro h
  have hbrace := h.head?_eq
  rw [List.head?_drop, List.getElem?_append_left hk] at hbrace
  have hmem := hm _ (List.mem_of_getElem? hbrace)
  exact absurd hmem (by decide)

namespace IsSole

variable {text lead path trail : List Char}

/-- The cut of a text that is one placeholder between margins. -/
theorem cut (h : IsSole text lead path trail) : Cut.Of text ⟨[(lead, path)], trail⟩ := by
  have hbare : ∀ k, ¬BeginsPlaceholder (trail.drop k) := by
    intro k
    rcases Nat.lt_or_ge k trail.length with hk | hk
    · simpa using not_beginsPlaceholder_of_margin h.trail_margin [] hk
    · rw [List.drop_eq_nil_of_le hk]
      exact fun hnil => by simpa using hnil.head?_eq
  rw [h.written]
  exact .placeholder lead h.isPath
    (fun k hk => not_beginsPlaceholder_of_margin h.lead_margin _ hk) (.plain hbare)

/-- Trimming finds the placeholder of a text that is one between margins. -/
theorem solePlaceholder?_eq {text : String} (h : IsSole text.toList lead path trail) :
    solePlaceholder? text = some path := by
  have htrim : Text.trim Text.isMargin text.toList = (Piece.placeholder path).source := by
    have hlast : (Piece.placeholder path).source =
        ('\x7b' :: '\x7b' :: (path ++ ['\x7d'])) ++ ['\x7d'] := by simp [Piece.source]
    rw [h.written]
    refine Text.trim_append h.lead_margin h.trail_margin ⟨'\x7b', rfl, by decide⟩
      ⟨'\x7d', ?_, by decide⟩
    rw [hlast, List.getLast?_concat]
    rfl
  have hfront := placeholderAtFront_source h.isPath []
  rw [List.append_nil] at hfront
  rw [solePlaceholder?, htrim, hfront]

/-- A text is one placeholder between margins in no two ways. -/
theorem unique {lead' path' trail' : List Char} (h : IsSole text lead path trail)
    (h' : IsSole text lead' path' trail') : lead = lead' ∧ path = path' ∧ trail = trail' := by
  have hcut := h.cut.unique h'.cut
  simpa [and_assoc] using hcut

/-- A placeholder between margins is resolved to what its path leads to, and to itself when that
leads nowhere. -/
theorem resolveText_eq {text : String} (h : IsSole text.toList lead path trail)
    (context : Value) :
    resolveText context text = (resolvePath path context).map (·.getD (.text text)) := by
  rw [resolveText, h.solePlaceholder?_eq]
  dsimp only
  rcases resolvePath path context with fault | _ | value <;> rfl

end IsSole

/-- A text of which trimming leaves one placeholder is that between margins. -/
theorem exists_isSole {text : String} {path : List Char} (h : solePlaceholder? text = some path) :
    ∃ lead trail, IsSole text.toList lead path trail := by
  unfold solePlaceholder? at h
  split at h
  · next found hfront =>
    obtain rfl := Option.some.inj h
    obtain ⟨lead, trail, htext, hlead, htrail⟩ :=
      Text.exists_eq_append_trim Text.isMargin text.toList
    obtain ⟨hpath, htrim⟩ := eq_source_of_placeholderAtFront hfront
    rw [htrim, List.append_nil] at htext
    exact ⟨lead, trail, htext, hpath, hlead, htrail⟩
  · cases h

section Leaves

variable {context : Value} {text : String}

end Leaves

/-- The paths among the pieces of a cut are its paths. -/
theorem Cut.filterMap_path?_pieces (cut : Cut) : cut.pieces.filterMap Piece.path? = cut.paths := by
  have hplain : ∀ text : List Char, (text.map Piece.plain).filterMap Piece.path? = [] := by
    intro text
    rw [List.filterMap_eq_nil_iff]
    simp [Piece.path?]
  obtain ⟨segments, tail⟩ := cut
  induction segments with
  | nil => simpa [pieces, paths] using hplain tail
  | cons segment rest ih =>
    simp only [pieces, paths, List.filterMap_append, hplain, List.append_nil] at ih ⊢
    simp [hplain, Piece.path?, ih]

/-- The paths of the placeholders of a text are those of its cut. -/
theorem forall_textPaths_iff {text : String} {cut : Cut} (h : Cut.Of text.toList cut)
    {P : List Char → Prop} : (∀ path ∈ textPaths text, P path) ↔ ∀ path ∈ cut.paths, P path := by
  have hpieces : (pieces text.toList).filterMap Piece.path? = cut.paths := by
    rw [h.pieces_eq, Cut.filterMap_path?_pieces]
  have hsole : ∀ path ∈ (solePlaceholder? text).toList, path ∈ cut.paths := by
    intro path hpath
    obtain ⟨lead, trail, hsole⟩ := exists_isSole (Option.mem_toList.mp hpath)
    rw [h.unique hsole.cut]
    exact List.mem_cons_self
  unfold textPaths
  rw [hpieces]
  constructor
  · exact fun hall path hpath => hall path (List.mem_append_right _ hpath)
  · intro hall path hpath
    rcases List.mem_append.mp hpath with hpath | hpath
    · exact hall path (hsole path hpath)
    · exact hall path hpath

namespace Value

variable {change : String → Resolved Value}

/-- A list is changed by changing its items. -/
theorem mapTexts_list_eq_ok_iff {items : List Value} {out : Value} :
    (Value.list items).mapTexts change = .ok out ↔
      ∃ xs, mapTextsItems change items = .ok xs ∧ out = .list xs := by
  rw [mapTexts]
  cases mapTextsItems change items <;> simp [Except.map, eq_comm]

/-- An object is changed by changing its fields. -/
theorem mapTexts_object_eq_ok_iff {fields : List (String × Value)} {out : Value} :
    (Value.object fields).mapTexts change = .ok out ↔
      ∃ xs, mapTextsFields change fields = .ok xs ∧ out = .object xs := by
  rw [mapTexts]
  cases mapTextsFields change fields <;> simp [Except.map, eq_comm]

/-- Items are changed one after the other. -/
theorem mapTextsItems_cons_eq_ok_iff {v : Value} {rest out : List Value} :
    mapTextsItems change (v :: rest) = .ok out ↔
      ∃ x xs, v.mapTexts change = .ok x ∧ mapTextsItems change rest = .ok xs ∧
        out = x :: xs := by
  rw [mapTextsItems]
  cases v.mapTexts change <;> cases mapTextsItems change rest <;>
    simp [bind, Except.bind, pure, Except.pure, eq_comm]

/-- Fields are changed one after the other, and keep their keys. -/
theorem mapTextsFields_cons_eq_ok_iff {key : String} {v : Value}
    {rest out : List (String × Value)} :
    mapTextsFields change ((key, v) :: rest) = .ok out ↔
      ∃ x xs, v.mapTexts change = .ok x ∧ mapTextsFields change rest = .ok xs ∧
        out = (key, x) :: xs := by
  rw [mapTextsFields]
  cases v.mapTexts change <;> cases mapTextsFields change rest <;>
    simp [bind, Except.bind, pure, Except.pure, eq_comm]

/-- Changing the texts in fields leaves their keys as they are. -/
theorem keys_mapTextsFields {fields out : List (String × Value)}
    (h : mapTextsFields change fields = .ok out) : out.map Prod.fst = fields.map Prod.fst := by
  induction fields generalizing out with
  | nil =>
    cases h
    rfl
  | cons field rest ih =>
    obtain ⟨key, v⟩ := field
    obtain ⟨x, xs, -, hxs, rfl⟩ := mapTextsFields_cons_eq_ok_iff.mp h
    rw [List.map_cons, List.map_cons, ih hxs]

/-- Each changed field stood under its key before, with its texts unchanged. -/
theorem mem_of_mem_mapTextsFields {fields out : List (String × Value)}
    (h : mapTextsFields change fields = .ok out) {key : String} {w : Value}
    (hw : (key, w) ∈ out) : ∃ v, (key, v) ∈ fields ∧ v.mapTexts change = .ok w := by
  induction fields generalizing out with
  | nil =>
    cases h
    cases hw
  | cons field rest ih =>
    obtain ⟨k, first⟩ := field
    obtain ⟨x, xs, hx, hxs, rfl⟩ := mapTextsFields_cons_eq_ok_iff.mp h
    rcases List.mem_cons.mp hw with heq | hrest
    · obtain ⟨rfl, rfl⟩ := Prod.mk.inj heq
      exact ⟨first, List.mem_cons_self, hx⟩
    · obtain ⟨v, hv, hchange⟩ := ih hxs hrest
      exact ⟨v, List.mem_cons_of_mem _ hv, hchange⟩

mutual

/-- A value is changed when all its texts can be, and not otherwise. -/
theorem exists_mapTexts_iff (change : String → Resolved Value) (v : Value) :
    (∃ out, v.mapTexts change = .ok out) ↔ ∀ s ∈ v.texts, ∃ x, change s = .ok x := by
  cases v with
  | text s => simp [mapTexts, texts]
  | list items =>
    have hitems := exists_mapTextsItems_iff change items
    simp only [mapTexts_list_eq_ok_iff, texts, ← hitems]
    exact ⟨fun ⟨_, xs, hxs, _⟩ => ⟨xs, hxs⟩, fun ⟨xs, hxs⟩ => ⟨_, xs, hxs, rfl⟩⟩
  | object fields =>
    have hfields := exists_mapTextsFields_iff change fields
    simp only [mapTexts_object_eq_ok_iff, texts, ← hfields]
    exact ⟨fun ⟨_, xs, hxs, _⟩ => ⟨xs, hxs⟩, fun ⟨xs, hxs⟩ => ⟨_, xs, hxs, rfl⟩⟩
  | null | bool _ | int _ | float _ => simp [mapTexts, texts]

/-- Items are changed when all their texts can be, and not otherwise. -/
theorem exists_mapTextsItems_iff (change : String → Resolved Value) (items : List Value) :
    (∃ out, mapTextsItems change items = .ok out) ↔
      ∀ s ∈ textsOfItems items, ∃ x, change s = .ok x := by
  cases items with
  | nil => simp [mapTextsItems, textsOfItems]
  | cons v rest =>
    rw [textsOfItems, List.forall_mem_append, ← exists_mapTexts_iff change v,
      ← exists_mapTextsItems_iff change rest]
    simp only [mapTextsItems_cons_eq_ok_iff]
    exact ⟨fun ⟨_, x, xs, hx, hxs, _⟩ => ⟨⟨x, hx⟩, xs, hxs⟩,
      fun ⟨⟨x, hx⟩, xs, hxs⟩ => ⟨_, x, xs, hx, hxs, rfl⟩⟩

/-- Fields are changed when all their texts can be, and not otherwise. -/
theorem exists_mapTextsFields_iff (change : String → Resolved Value)
    (fields : List (String × Value)) :
    (∃ out, mapTextsFields change fields = .ok out) ↔
      ∀ s ∈ textsOfFields fields, ∃ x, change s = .ok x := by
  cases fields with
  | nil => simp [mapTextsFields, textsOfFields]
  | cons field rest =>
    obtain ⟨key, v⟩ := field
    rw [textsOfFields, List.forall_mem_append, ← exists_mapTexts_iff change v,
      ← exists_mapTextsFields_iff change rest]
    simp only [mapTextsFields_cons_eq_ok_iff]
    exact ⟨fun ⟨_, x, xs, hx, hxs, _⟩ => ⟨⟨x, hx⟩, xs, hxs⟩,
      fun ⟨⟨x, hx⟩, xs, hxs⟩ => ⟨_, x, xs, hx, hxs, rfl⟩⟩

end

end Value

section Walks

variable {context : Value} {change other : String → Resolved Value}

mutual

/-- Two changes make of a value what the walks do when they make that of its texts. -/
theorem walked_iff
    (hleaf : ∀ s x y, change s = .ok x ∧ other s = .ok y ↔ LeafBecomes context s x y)
    (v : Value) {x y : Value} :
    v.mapTexts change = .ok x ∧ v.mapTexts other = .ok y ↔ Walked context v x y := by
  cases v with
  | text s =>
    rw [Value.mapTexts, Value.mapTexts, hleaf]
    exact ⟨.text, fun h => by cases h with | text hs => exact hs⟩
  | list items =>
    rw [Value.mapTexts_list_eq_ok_iff, Value.mapTexts_list_eq_ok_iff]
    constructor
    · rintro ⟨⟨xs, hxs, rfl⟩, ys, hys, rfl⟩
      exact .list ((walkedItems_iff hleaf items).mp ⟨hxs, hys⟩)
    · intro h
      cases h with
      | list hitems =>
        obtain ⟨hxs, hys⟩ := (walkedItems_iff hleaf items).mpr hitems
        exact ⟨⟨_, hxs, rfl⟩, _, hys, rfl⟩
  | object fields =>
    rw [Value.mapTexts_object_eq_ok_iff, Value.mapTexts_object_eq_ok_iff]
    constructor
    · rintro ⟨⟨xs, hxs, rfl⟩, ys, hys, rfl⟩
      exact .object ((walkedFields_iff hleaf fields).mp ⟨hxs, hys⟩)
    · intro h
      cases h with
      | object hfields =>
        obtain ⟨hxs, hys⟩ := (walkedFields_iff hleaf fields).mpr hfields
        exact ⟨⟨_, hxs, rfl⟩, _, hys, rfl⟩
  | null | bool _ | int _ | float _ =>
    constructor
    · rintro ⟨hx, hy⟩
      cases hx
      cases hy
      constructor
    · intro h
      cases h
      exact ⟨rfl, rfl⟩

/-- Two changes make of items what the walks do when they make that of their texts. -/
theorem walkedItems_iff
    (hleaf : ∀ s x y, change s = .ok x ∧ other s = .ok y ↔ LeafBecomes context s x y)
    (items : List Value) {xs ys : List Value} :
    Value.mapTextsItems change items = .ok xs ∧ Value.mapTextsItems other items = .ok ys ↔
      WalkedItems context items xs ys := by
  cases items with
  | nil =>
    constructor
    · rintro ⟨hxs, hys⟩
      cases hxs
      cases hys
      exact .nil
    · intro h
      cases h
      exact ⟨rfl, rfl⟩
  | cons v rest =>
    rw [Value.mapTextsItems_cons_eq_ok_iff, Value.mapTextsItems_cons_eq_ok_iff]
    constructor
    · rintro ⟨⟨x, xs, hx, hxs, rfl⟩, y, ys, hy, hys, rfl⟩
      exact .cons ((walked_iff hleaf v).mp ⟨hx, hy⟩)
        ((walkedItems_iff hleaf rest).mp ⟨hxs, hys⟩)
    · intro h
      cases h with
      | cons first others =>
        obtain ⟨hx, hy⟩ := (walked_iff hleaf v).mpr first
        obtain ⟨hxs, hys⟩ := (walkedItems_iff hleaf rest).mpr others
        exact ⟨⟨_, _, hx, hxs, rfl⟩, _, _, hy, hys, rfl⟩

/-- Two changes make of fields what the walks do when they make that of their texts. -/
theorem walkedFields_iff
    (hleaf : ∀ s x y, change s = .ok x ∧ other s = .ok y ↔ LeafBecomes context s x y)
    (fields : List (String × Value)) {xs ys : List (String × Value)} :
    Value.mapTextsFields change fields = .ok xs ∧ Value.mapTextsFields other fields = .ok ys ↔
      WalkedFields context fields xs ys := by
  cases fields with
  | nil =>
    constructor
    · rintro ⟨hxs, hys⟩
      cases hxs
      cases hys
      exact .nil
    · intro h
      cases h
      exact ⟨rfl, rfl⟩
  | cons field rest =>
    obtain ⟨key, v⟩ := field
    rw [Value.mapTextsFields_cons_eq_ok_iff, Value.mapTextsFields_cons_eq_ok_iff]
    constructor
    · rintro ⟨⟨x, xs, hx, hxs, rfl⟩, y, ys, hy, hys, rfl⟩
      exact .cons ((walked_iff hleaf v).mp ⟨hx, hy⟩)
        ((walkedFields_iff hleaf rest).mp ⟨hxs, hys⟩)
    · intro h
      cases h with
      | cons first others =>
        obtain ⟨hx, hy⟩ := (walked_iff hleaf v).mpr first
        obtain ⟨hxs, hys⟩ := (walkedFields_iff hleaf rest).mpr others
        exact ⟨⟨_, _, hx, hxs, rfl⟩, _, _, hy, hys, rfl⟩

end

end Walks

end ActionFlow
