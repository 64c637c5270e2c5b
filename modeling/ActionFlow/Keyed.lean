/-!
# Values under keys

A list of values under keys that remembers the order in which the keys came. Reading a
key finds its first value. Setting a known key keeps its place, and a new one goes to the
end, so that a key that is only ever set stands once. Main statements: what was set is
read back, what was erased is gone, and all other keys are as before; entries that are merged
in settle their own keys.
-/

namespace ActionFlow

/-- Values under keys, in order. -/
abbrev Keyed (α : Type) : Type := List (String × α)

namespace Keyed

variable {α : Type}

/-- The value under a key. -/
def get? (entries : Keyed α) (key : String) : Option α := List.lookup key entries

/-- Whether a key is present. -/
def has (entries : Keyed α) (key : String) : Bool := (get? entries key).isSome

/-- The entries with a key set: in place when the key is known, else at the end. -/
def set (key : String) (value : α) : Keyed α → Keyed α
  | [] => [(key, value)]
  | (k, v) :: rest => if k = key then (k, value) :: rest else (k, v) :: set key value rest

/-- The entries overridden by others, one after the other. -/
def merge (entries others : Keyed α) : Keyed α :=
  others.foldl (fun merged (key, value) => set key value merged) entries

/-- The entries without a key. -/
def erase (key : String) (entries : Keyed α) : Keyed α := entries.filter fun (k, _) => k != key

/-- The keys, in the order of their characters. -/
def sortedKeys (entries : Keyed α) : List String := (entries.map Prod.fst).mergeSort (· ≤ ·)

/-- Reading a key that was just set gives its value. -/
theorem get?_set_self (key : String) (value : α) (entries : Keyed α) :
    get? (set key value entries) key = some value := by
  induction entries with
  | nil => simp [set, get?]
  | cons entry rest ih =>
    obtain ⟨k, v⟩ := entry
    unfold set
    split
    · next h => simp [get?, h]
    · next h =>
      have hk : (key == k) = false := by simpa using fun hk : key = k => h hk.symm
      simpa [get?, List.lookup_cons, hk] using ih

/-- Setting a key leaves every other key as it was. -/
theorem get?_set_of_ne {key other : String} (value : α) (entries : Keyed α)
    (different : other ≠ key) : get? (set key value entries) other = get? entries other := by
  induction entries with
  | nil =>
    have hk : (other == key) = false := by simpa using different
    simp [set, get?, List.lookup_cons, hk]
  | cons entry rest ih =>
    obtain ⟨k, v⟩ := entry
    unfold set
    split
    · next h =>
      have hk : (other == k) = false := by simpa [h] using different
      simp [get?, List.lookup_cons, hk]
    · by_cases hk : other = k
      · simp [get?, hk]
      · have hk' : (other == k) = false := by simpa using hk
        simpa [get?, List.lookup_cons, hk'] using ih

/-- Setting a key changes what is read under that key, and nothing else. -/
theorem get?_set (key other : String) (value : α) (entries : Keyed α) :
    get? (set key value entries) other = if other = key then some value else get? entries other := by
  split
  · next h => rw [h, get?_set_self]
  · next h => exact get?_set_of_ne value entries h

/-- A new key goes to the end. -/
theorem set_of_not_mem {key : String} {entries : Keyed α}
    (h : key ∉ entries.map Prod.fst) (value : α) :
    set key value entries = entries ++ [(key, value)] := by
  induction entries with
  | nil => rfl
  | cons entry rest ih =>
    obtain ⟨k, v⟩ := entry
    rw [List.map_cons, List.mem_cons, not_or] at h
    rw [set, if_neg (Ne.symm h.1), ih h.2]
    rfl

/-- What stands among entries with a key set is the new entry or an old one. -/
theorem mem_set {key : String} {value : α} {entries : Keyed α} {entry : String × α}
    (h : entry ∈ set key value entries) : entry = (key, value) ∨ entry ∈ entries := by
  induction entries with
  | nil => exact .inl (List.mem_singleton.mp h)
  | cons first rest ih =>
    obtain ⟨k, v⟩ := first
    unfold set at h
    split at h
    · next hk =>
      subst hk
      rcases List.mem_cons.mp h with rfl | hrest
      · exact .inl rfl
      · exact .inr (List.mem_cons_of_mem _ hrest)
    · rcases List.mem_cons.mp h with rfl | hrest
      · exact .inr List.mem_cons_self
      · exact (ih hrest).imp_right (List.mem_cons_of_mem _)

/-- Setting a key never makes a key stand twice. -/
theorem nodup_set {key : String} {value : α} {entries : Keyed α}
    (h : (entries.map Prod.fst).Nodup) : ((set key value entries).map Prod.fst).Nodup := by
  induction entries with
  | nil => simp [set]
  | cons first rest ih =>
    obtain ⟨k, v⟩ := first
    obtain ⟨hnew, hrest⟩ := List.nodup_cons.mp h
    unfold set
    split
    · exact h
    · next hk =>
      refine List.nodup_cons.mpr ⟨fun hmem => ?_, ih hrest⟩
      obtain ⟨entry, hentry, hfst⟩ := List.mem_map.mp hmem
      rcases mem_set hentry with rfl | hold
      · exact hk hfst.symm
      · exact hnew (List.mem_map.mpr ⟨entry, hold, hfst⟩)

/-- Of what is merged in, the last entry under a key counts; without one the key is as it was. -/
theorem get?_merge (entries given : Keyed α) (key : String) :
    get? (merge entries given) key = (get? given.reverse key).or (get? entries key) := by
  induction given generalizing entries with
  | nil => rfl
  | cons entry rest ih =>
    obtain ⟨k, v⟩ := entry
    have hlast : get? (rest.reverse ++ [(k, v)]) key =
        (get? rest.reverse key).or (if key = k then some v else none) := by
      unfold get?
      rw [List.lookup_append, List.lookup_cons, List.lookup_nil]
      by_cases h : key = k
      · simp [h]
      · rw [if_neg h, beq_false_of_ne h]
    calc get? (merge entries ((k, v) :: rest)) key
        = (get? rest.reverse key).or (get? (set k v entries) key) := ih (set k v entries)
      _ = (get? ((k, v) :: rest).reverse key).or (get? entries key) := by
          rw [get?_set, List.reverse_cons, hlast, Option.or_assoc]
          by_cases h : key = k <;> simp [h]

/-- A key is present when some entry carries it, in whatever order they stand. -/
theorem isSome_get?_reverse (entries : Keyed α) (key : String) :
    (get? entries.reverse key).isSome = has entries key := by
  unfold has get?
  rw [Bool.eq_iff_iff, List.lookup_isSome_iff, List.lookup_isSome_iff]
  simp only [List.mem_reverse]

/-- A key has a value when some entry carries it. -/
theorem isSome_get?_iff {entries : Keyed α} {key : String} :
    (get? entries key).isSome = true ↔ key ∈ entries.map Prod.fst := by
  unfold get?
  rw [List.lookup_isSome_iff, List.mem_map]
  simp only [beq_iff_eq]
  exact ⟨fun ⟨entry, hmem, hkey⟩ => ⟨entry, hmem, hkey.symm⟩,
    fun ⟨entry, hmem, hkey⟩ => ⟨entry, hmem, hkey.symm⟩⟩

/-- Merging entries that lack a key leaves the key as it was. -/
theorem get?_merge_of_not_has {given : Keyed α} {key : String} (absent : has given key = false)
    (entries : Keyed α) : get? (merge entries given) key = get? entries key := by
  rw [← isSome_get?_reverse, Option.isSome_eq_false_iff, Option.isNone_iff_eq_none] at absent
  rw [get?_merge, absent, Option.none_or]

/-- What is merged in settles its own keys, and keeps any agreement on the others. -/
theorem get?_merge_congr {entries others : Keyed α} {given : Keyed α} {key : String}
    (agree : has given key = true ∨ get? entries key = get? others key) :
    get? (merge entries given) key = get? (merge others given) key := by
  rw [get?_merge, get?_merge]
  rcases agree with given | same
  · rw [← isSome_get?_reverse, Option.isSome_iff_exists] at given
    obtain ⟨v, hv⟩ := given
    rw [hv, Option.some_or, Option.some_or]
  · rw [same]

/-- A key that was erased has no value. -/
theorem get?_erase_self (key : String) (entries : Keyed α) :
    get? (erase key entries) key = none := by
  simp only [erase, get?, List.lookup_eq_none_iff, List.mem_filter]
  rintro ⟨k, v⟩ ⟨-, kept⟩
  have other : k ≠ key := by simpa using kept
  simpa using fun same : key = k => other same.symm

/-- Erasing a key leaves every other key as it was. -/
theorem get?_erase_of_ne {key other : String} (entries : Keyed α) (different : other ≠ key) :
    get? (erase key entries) other = get? entries other := by
  induction entries with
  | nil => rfl
  | cons entry rest ih =>
    obtain ⟨k, v⟩ := entry
    unfold erase get? at ih ⊢
    by_cases h : k = key
    · have hk : (other == k) = false := by simpa [h] using different
      rw [List.filter_cons_of_neg (by simpa using h), List.lookup_cons, hk, ih]
    · rw [List.filter_cons_of_pos (by simpa using h), List.lookup_cons, List.lookup_cons, ih]

end Keyed

end ActionFlow
