import ActionFlow.Flow.Condition

/-!
# What templates look up

A template looks up the paths of its placeholders and nothing else. Hence it gives the same
in two contexts in which those paths lead to the same, and it faults only where one of them
does. A path reads a context at its first step alone, and faults only at a step of digits
that are no index.
-/

namespace ActionFlow

/-- The path of a piece, if it is a placeholder. -/
def Piece.path? : Piece → Option (List Char)
  | .plain _ => none
  | .placeholder path => some path

/-- The paths that a text may look up: that of its sole placeholder, and those of all
placeholders in it. -/
def textPaths (text : String) : List (List Char) :=
  (solePlaceholder? text).toList ++ (pieces text.toList).filterMap Piece.path?

/-- The key of a context at which a path begins. -/
def pathKey (path : List Char) : String := String.ofList ((pathSteps path).headD [])

namespace Value

mutual

/-- The texts at the leaves of a value. -/
def texts : Value → List String
  | .text s => [s]
  | .list items => textsOfItems items
  | .object fields => textsOfFields fields
  | _ => []

/-- The texts at the leaves of the items of a list. -/
def textsOfItems : List Value → List String
  | [] => []
  | v :: rest => texts v ++ textsOfItems rest

/-- The texts at the leaves of the fields of an object. -/
def textsOfFields : List (String × Value) → List String
  | [] => []
  | (_, v) :: rest => texts v ++ textsOfFields rest

end

/-- The paths that the texts of a value may look up. -/
def paths (v : Value) : List (List Char) := v.texts.flatMap textPaths

mutual

/-- Changes that agree on the texts of a value change the value alike. -/
theorem mapTexts_congr {change other : String → Resolved Value} (v : Value)
    (h : ∀ s ∈ v.texts, change s = other s) : v.mapTexts change = v.mapTexts other := by
  cases v with
  | text s => exact h s List.mem_cons_self
  | list items => rw [mapTexts, mapTexts, mapTextsItems_congr items h]
  | object fields => rw [mapTexts, mapTexts, mapTextsFields_congr fields h]
  | _ => rfl

/-- Changes that agree on the texts of some items change the items alike. -/
theorem mapTextsItems_congr {change other : String → Resolved Value} (items : List Value)
    (h : ∀ s ∈ textsOfItems items, change s = other s) :
    mapTextsItems change items = mapTextsItems other items := by
  cases items with
  | nil => rfl
  | cons v rest =>
    rw [mapTextsItems, mapTextsItems,
      mapTexts_congr v fun s hs => h s (List.mem_append_left _ hs),
      mapTextsItems_congr rest fun s hs => h s (List.mem_append_right _ hs)]

/-- Changes that agree on the texts of some fields change the fields alike. -/
theorem mapTextsFields_congr {change other : String → Resolved Value}
    (fields : List (String × Value)) (h : ∀ s ∈ textsOfFields fields, change s = other s) :
    mapTextsFields change fields = mapTextsFields other fields := by
  cases fields with
  | nil => rfl
  | cons field rest =>
    obtain ⟨key, v⟩ := field
    rw [mapTextsFields, mapTextsFields,
      mapTexts_congr v fun s hs => h s (List.mem_append_left _ hs),
      mapTextsFields_congr rest fun s hs => h s (List.mem_append_right _ hs)]

end

end Value

section Agreement

variable {context other : Value}

/-- Pieces become the same where their paths lead to the same. -/
theorem fillPieces_congr {list : List Piece}
    (h : ∀ path ∈ list.filterMap Piece.path?, resolvePath path context = resolvePath path other) :
    fillPieces context list = fillPieces other list := by
  induction list with
  | nil => rfl
  | cons piece rest ih =>
    cases piece with
    | plain c =>
      unfold fillPieces
      rw [ih h]
      rfl
    | placeholder path =>
      have hpath := h path List.mem_cons_self
      have hrest := ih fun later hlater => h later (List.mem_cons_of_mem _ hlater)
      unfold fillPieces Piece.fill
      dsimp only
      rw [hpath, hrest]

/-- A text is substituted alike where its paths lead to the same. -/
theorem substituteText_congr {text : String}
    (h : ∀ path ∈ textPaths text, resolvePath path context = resolvePath path other) :
    substituteText context text = substituteText other text := by
  unfold substituteText
  rw [fillPieces_congr fun path hpath => h path (List.mem_append_right _ hpath)]

/-- A text is resolved alike where its paths lead to the same. -/
theorem resolveText_congr {text : String}
    (h : ∀ path ∈ textPaths text, resolvePath path context = resolvePath path other) :
    resolveText context text = resolveText other text := by
  unfold resolveText
  cases hsole : solePlaceholder? text with
  | some path =>
    have hpath := h path (List.mem_append_left _ (by rw [hsole]; exact List.mem_cons_self))
    dsimp only
    rw [hpath]
  | none =>
    dsimp only
    rw [substituteText_congr h]

/-- A text has at least one piece between its dots. -/
theorem splitAtDots_ne_nil (text : List Char) : splitAtDots text ≠ [] := by
  cases text with
  | nil => exact List.cons_ne_nil _ _
  | cons c rest =>
    unfold splitAtDots
    split
    · exact List.cons_ne_nil _ _
    · split <;> exact List.cons_ne_nil _ _

/-- A path leads to the same in two objects that agree at the key at which it begins. -/
theorem resolvePath_congr {path : List Char} {fields others : Fields}
    (h : Keyed.get? fields (pathKey path) = Keyed.get? others (pathKey path)) :
    resolvePath path (.object fields) = resolvePath path (.object others) := by
  unfold pathKey at h
  unfold resolvePath
  cases hsteps : pathSteps path with
  | nil => exact absurd hsteps (splitAtDots_ne_nil _)
  | cons first rest =>
    rw [hsteps, List.headD_cons] at h
    unfold Value.follow
    simp only [Value.step, h]

end Agreement

section Readability

/-- The paths that a condition may look up: its field, and those of its value. -/
def Condition.paths (c : Condition) : List (List Char) := c.field.toList :: c.value.toValue.paths

end Readability

end ActionFlow
