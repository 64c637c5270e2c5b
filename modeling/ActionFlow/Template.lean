import ActionFlow.Path
import ActionFlow.Json.Writer

/-!
# Templates

A placeholder is two opening braces, a path and two closing braces; the path is not empty
and holds no closing brace. A text is read from the left, and each place at which a
placeholder can begin takes one. Substituting puts the text of the value for the
placeholder and leaves one whose path leads nowhere as it stands; what is put in is never
read again. A text that is one placeholder and margins can instead be resolved to the
value itself.
-/

namespace ActionFlow

/-- What templates give: a result, or the fault of the first lookup that failed. -/
abbrev Resolved (α : Type) : Type := Except IndexFault α

/-- A result that was changed comes from a result. -/
theorem map_eq_ok {ε α β : Type} {f : α → β} {x : Except ε α} {b : β} (h : x.map f = .ok b) :
    ∃ a, x = .ok a ∧ f a = b := by
  cases x with
  | error e => cases h
  | ok a => exact ⟨a, rfl, Except.ok.inj h⟩

/-- The result of two steps comes from results of both. -/
theorem bind_eq_ok {ε α β : Type} {x : Except ε α} {f : α → Except ε β} {b : β}
    (h : x >>= f = .ok b) : ∃ a, x = .ok a ∧ f a = .ok b := by
  cases x with
  | error e => cases h
  | ok a => exact ⟨a, rfl, h⟩

/-- A placeholder at the front of a text: its path and the text after it. -/
def placeholderAtFront : List Char → Option (List Char × List Char)
  | '\x7b' :: '\x7b' :: rest =>
    match rest.takeWhile (· != '\x7d'), rest.dropWhile (· != '\x7d') with
    | [], _ => none
    | path, '\x7d' :: '\x7d' :: after => some (path, after)
    | _, _ => none
  | _ => none

/-- What follows a placeholder is shorter than what begins with it. -/
theorem placeholderAtFront_length {text path after : List Char}
    (found : placeholderAtFront text = some (path, after)) : after.length < text.length := by
  unfold placeholderAtFront at found
  split at found
  · next rest =>
    split at found
    · simp at found
    · next hdrop _ =>
      have hle := (List.dropWhile_sublist (l := rest) (· != '\x7d')).length_le
      simp only [Option.some.injEq, Prod.mk.injEq] at found
      obtain ⟨-, rfl⟩ := found
      simp_all only [List.length_cons]
      omega
    · simp at found
  · simp at found

/-- A piece of a template. -/
inductive Piece where
  /-- A character that stands for itself. -/
  | plain (c : Char)
  /-- A placeholder with its path. -/
  | placeholder (path : List Char)
deriving DecidableEq, Repr

/-- The characters that a piece is written with. -/
def Piece.source : Piece → List Char
  | .plain c => [c]
  | .placeholder path => '\x7b' :: '\x7b' :: (path ++ ['\x7d', '\x7d'])

/-- The pieces of a text, placeholders taken as early as possible. -/
def pieces (text : List Char) : List Piece :=
  match _found : placeholderAtFront text with
  | some (path, after) => .placeholder path :: pieces after
  | none =>
    match text with
    | [] => []
    | c :: rest => .plain c :: pieces rest
termination_by text.length
decreasing_by
  · exact placeholderAtFront_length _found
  · simp

/-- Whether a piece is a placeholder. -/
def Piece.isPlaceholder : Piece → Bool
  | .plain _ => false
  | .placeholder _ => true

/-- Whether a text holds a placeholder. -/
def textHasPlaceholder (text : String) : Bool := (pieces text.toList).any Piece.isPlaceholder

/-- The text that is put in for a value: a text itself, a number in its decimal form, and
everything else as JSON. -/
def Value.inserted : Value → String
  | .text s => s
  | .int n => toString n
  | .float x => x.render ⟨"nan", "inf"⟩
  | v => Json.write v

/-- The characters that a piece becomes. -/
def Piece.fill (context : Value) : Piece → Resolved (List Char)
  | .plain c => .ok [c]
  | .placeholder path =>
    match resolvePath path context with
    | .ok (some value) => .ok value.inserted.toList
    | .ok none => .ok (Piece.placeholder path).source
    | .error fault => .error fault

/-- The characters that a list of pieces becomes. -/
def fillPieces (context : Value) : List Piece → Resolved (List Char)
  | [] => .ok []
  | piece :: rest =>
    match piece.fill context with
    | .error fault => .error fault
    | .ok filled =>
      match fillPieces context rest with
      | .error fault => .error fault
      | .ok others => .ok (filled ++ others)

/-- A text with its placeholders replaced. -/
def substituteText (context : Value) (text : String) : Resolved String :=
  match fillPieces context (pieces text.toList) with
  | .ok filled => .ok (String.ofList filled)
  | .error fault => .error fault

/-- The path of a text that is exactly one placeholder between margins. -/
def solePlaceholder? (text : String) : Option (List Char) :=
  match placeholderAtFront (Text.trim Text.isMargin text.toList) with
  | some (path, []) => some path
  | _ => none

/-- A text resolved: to the value of its sole placeholder when that leads somewhere, to
itself when it does not, and otherwise to the text with its placeholders replaced. -/
def resolveText (context : Value) (text : String) : Resolved Value :=
  match solePlaceholder? text with
  | some path =>
    match resolvePath path context with
    | .ok (some value) => .ok value
    | .ok none => .ok (.text text)
    | .error fault => .error fault
  | none =>
    match substituteText context text with
    | .ok s => .ok (.text s)
    | .error fault => .error fault

namespace Value

/-- Whether a value is a text that holds a placeholder. -/
def hasPlaceholder : Value → Bool
  | .text s => textHasPlaceholder s
  | _ => false

/-- A value with its placeholders replaced when it is a text. -/
def substitute (value context : Value) : Resolved Value :=
  match value with
  | .text s => (substituteText context s).map .text
  | v => .ok v

/-- A value resolved when it is a text. -/
def resolve (value context : Value) : Resolved Value :=
  match value with
  | .text s => resolveText context s
  | v => .ok v

mutual

/-- A value with every text at its leaves changed; keys and shape stay. -/
def mapTexts (change : String → Resolved Value) : Value → Resolved Value
  | .text s => change s
  | .list items => (mapTextsItems change items).map .list
  | .object fields => (mapTextsFields change fields).map .object
  | v => .ok v

/-- The items of a list with their texts changed, from the first on. -/
def mapTextsItems (change : String → Resolved Value) : List Value → Resolved (List Value)
  | [] => .ok []
  | v :: rest => do
    let first ← mapTexts change v
    let others ← mapTextsItems change rest
    pure (first :: others)

/-- The fields of an object with their texts changed, from the first on. -/
def mapTextsFields (change : String → Resolved Value) :
    List (String × Value) → Resolved (List (String × Value))
  | [] => .ok []
  | (key, v) :: rest => do
    let first ← mapTexts change v
    let others ← mapTextsFields change rest
    pure ((key, first) :: others)

end

/-- A value with the placeholders of every text in it replaced. -/
def substituteAll (value context : Value) : Resolved Value :=
  value.mapTexts fun s => (substituteText context s).map .text

/-- A value with every text in it resolved; resolved values are not walked further. -/
def resolveAll (value context : Value) : Resolved Value := value.mapTexts (resolveText context)

end Value

end ActionFlow
