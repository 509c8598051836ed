import ComponentViews.Dict

/-! Dictionaries by the values of their keys: what filling, laying over and filtering does
to them, and that equal values make equal dictionaries. -/

namespace ComponentViews

namespace Dict
variable {α : Type}

theorem get?_insertNew (dict : Dict α) (key name : String) (value : α) :
    (dict.insertNew key value).get? name = (dict.get? name).or (if name = key then some value else none) := by
  unfold insertNew contains
  cases present : dict.get? key with
  | none => by_cases same : name = key <;> simp [same, present]
  | some kept => by_cases same : name = key <;> simp [same, present]

theorem get?_eq_none_iff {dict : Dict α} {name : String} : dict.get? name = none ↔ name ∉ dict.keys := by
  simp only [get?, keys]
  induction dict.entries with
  | nil => simp
  | cons entry rest ih => grind

theorem mem_keys_iff {dict : Dict α} {name : String} : name ∈ dict.keys ↔ ∃ value, dict.get? name = some value := by
  rw [← Option.ne_none_iff_exists', ne_eq, get?_eq_none_iff, Decidable.not_not]

theorem lookup_of_le_first {entries : List (String × α)} {first name : String}
    (behind : ∀ key ∈ entries.map Prod.fst, first < key) (reach : name ≤ first) : entries.lookup name = none := by
  refine List.lookup_eq_none_iff.mpr fun entry member => ?_
  have less := behind entry.1 (List.mem_map_of_mem member)
  have apart : name ≠ entry.1 := fun same => String.not_lt.mpr reach (same ▸ less)
  simpa using apart

theorem lookup_foldl_insert {entries : List (String × α)} (ordered : (entries.map Prod.fst).Pairwise (· < ·))
    (dict : Dict α) (name : String) :
    (entries.foldl (fun dict entry => dict.insert entry.1 entry.2) dict).get? name =
      (entries.lookup name).or (dict.get? name) := by
  induction entries generalizing dict with
  | nil => rfl
  | cons entry rest ih =>
    obtain ⟨key, value⟩ := entry
    simp only [List.map_cons, List.pairwise_cons] at ordered
    rw [List.foldl_cons, ih ordered.2, get?_insert]
    have later : rest.lookup key = none := lookup_of_le_first ordered.1 (String.le_refl key)
    grind

@[simp] theorem get?_overlay (lower upper : Dict α) (name : String) :
    (lower.overlay upper).get? name = (upper.get? name).or (lower.get? name) :=
  lookup_foldl_insert upper.ordered lower name

theorem lookup_filter (kept : String → Bool) (entries : List (String × α)) (name : String) :
    (entries.filter fun entry => kept entry.1).lookup name = if kept name then entries.lookup name else none := by
  induction entries with
  | nil => simp
  | cons entry rest ih => grind

@[simp] theorem get?_filter (kept : String → Bool) (dict : Dict α) (name : String) :
    (dict.filter kept).get? name = if kept name then dict.get? name else none :=
  lookup_filter kept dict.entries name

theorem eq_of_lookup {left right : List (String × α)} (ordered : (left.map Prod.fst).Pairwise (· < ·))
    (ordered' : (right.map Prod.fst).Pairwise (· < ·)) (same : ∀ name, left.lookup name = right.lookup name) :
    left = right := by
  induction left generalizing right with
  | nil =>
    cases right with
    | nil => rfl
    | cons entry rest =>
      have found := same entry.1
      rw [List.lookup_cons_self] at found
      cases found
  | cons entry rest ih =>
    obtain ⟨key, value⟩ := entry
    cases right with
    | nil =>
      have found := same key
      rw [List.lookup_cons_self] at found
      cases found
    | cons entry' rest' =>
      obtain ⟨key', value'⟩ := entry'
      simp only [List.map_cons, List.pairwise_cons] at ordered ordered'
      -- The lesser of two first keys would have no value on the other side.
      have first : key = key' := by
        have found := same key
        have found' := same key'
        have absent : key' ≤ key → rest.lookup key' = none := lookup_of_le_first ordered.1
        have absent' : key ≤ key' → rest'.lookup key = none := lookup_of_le_first ordered'.1
        grind [String.le_total]
      subst first
      have value : value = value' := by simpa [List.lookup_cons_self] using same key
      have later : rest = rest' := by
        refine ih ordered.2 ordered'.2 fun name => ?_
        by_cases here : name = key
        · subst here
          rw [lookup_of_le_first ordered.1 (String.le_refl name), lookup_of_le_first ordered'.1 (String.le_refl name)]
        · have found := same name
          grind
      rw [value, later]

/-- A dictionary is the values of its keys. -/
theorem ext_get? {left right : Dict α} (same : ∀ name, left.get? name = right.get? name) : left = right := by
  have entries := eq_of_lookup left.ordered right.ordered same
  cases left
  cases right
  cases entries
  rfl

/-- Entries in key order are those of the dictionary that they make. -/
theorem entries_ofList {entries : List (String × α)} (ordered : (entries.map Prod.fst).Pairwise (· < ·)) :
    (ofList entries).entries = entries := by
  refine eq_of_lookup (ofList entries).ordered ordered fun name => ?_
  have found := lookup_foldl_insert ordered empty name
  rwa [get?_empty, Option.or_none] at found

@[simp] theorem ofList_entries (dict : Dict α) : ofList dict.entries = dict := by
  have same := entries_ofList dict.ordered
  cases dict
  cases made : ofList _
  rw [made] at same
  cases same
  rfl

end Dict

end ComponentViews
