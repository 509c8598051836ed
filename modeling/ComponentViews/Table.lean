/-! Tables: at most one value per key, in the order in which the keys came. -/

namespace ComponentViews

structure Table (κ α : Type) where
  entries : List (κ × α)
  deriving DecidableEq

namespace Table
variable {κ α : Type} [DecidableEq κ]

def empty : Table κ α := { entries := [] }

instance : Inhabited (Table κ α) := ⟨empty⟩

def find? (table : Table κ α) (key : κ) : Option α := table.entries.lookup key

def size (table : Table κ α) : Nat := table.entries.length

/-- Replaces the value of a key, or adds the key at the end. -/
def insertEntry (key : κ) (value : α) : List (κ × α) → List (κ × α)
  | [] => [(key, value)]
  | (other, kept) :: rest =>
    if key = other then (key, value) :: rest else (other, kept) :: insertEntry key value rest

def insert (table : Table κ α) (key : κ) (value : α) : Table κ α :=
  { entries := insertEntry key value table.entries }

@[simp] theorem find?_empty (key : κ) : (empty : Table κ α).find? key = none := rfl

@[simp] theorem find?_insert (table : Table κ α) (key other : κ) (value : α) :
    (table.insert key value).find? other = if other = key then some value else table.find? other := by
  unfold find? insert
  induction table.entries with
  | nil => grind [insertEntry]
  | cons entry rest ih => grind [insertEntry]

/-- The entry of a new key comes last. -/
theorem entries_insert_of_find?_eq_none {table : Table κ α} {key : κ} (absent : table.find? key = none) (value : α) :
    (table.insert key value).entries = table.entries ++ [(key, value)] := by
  obtain ⟨entries⟩ := table
  simp only [find?, insert] at absent ⊢
  induction entries with
  | nil => rfl
  | cons entry rest ih => grind [insertEntry]

theorem mem_entries_of_find? {table : Table κ α} {key : κ} {value : α} (found : table.find? key = some value) :
    (key, value) ∈ table.entries := by
  obtain ⟨entries⟩ := table
  simp only [find?] at found ⊢
  induction entries with
  | nil => simp at found
  | cons entry rest ih => grind

theorem find?_eq_none_iff {table : Table κ α} {key : κ} :
    table.find? key = none ↔ key ∉ table.entries.map Prod.fst := by
  simp only [find?, List.lookup_eq_none_iff, List.mem_map, not_exists, not_and]
  grind

theorem find?_of_mem_entries {table : Table κ α} (distinct : (table.entries.map Prod.fst).Nodup) {key : κ} {value : α}
    (member : (key, value) ∈ table.entries) : table.find? key = some value := by
  obtain ⟨entries⟩ := table
  simp only [find?] at distinct member ⊢
  induction entries with
  | nil => simp at member
  | cons entry rest ih => grind

theorem find?_of_prefix {table longer : Table κ α} (grows : table.entries <+: longer.entries) {key : κ} {value : α}
    (found : table.find? key = some value) : longer.find? key = some value := by
  obtain ⟨more, same⟩ := grows
  rw [find?] at found ⊢
  rw [← same, List.lookup_append, found]
  rfl

/-- A key is added at the end unless it is there. -/
theorem keys_insert (table : Table κ α) (key : κ) (value : α) :
    (table.insert key value).entries.map Prod.fst =
      if key ∈ table.entries.map Prod.fst then table.entries.map Prod.fst else table.entries.map Prod.fst ++ [key] := by
  obtain ⟨entries⟩ := table
  simp only [insert]
  induction entries with
  | nil => rfl
  | cons entry rest ih =>
    simp only [insertEntry, List.map_cons, List.mem_cons]
    split <;> grind

theorem nodup_keys_insert {table : Table κ α} (distinct : (table.entries.map Prod.fst).Nodup) (key : κ) (value : α) :
    ((table.insert key value).entries.map Prod.fst).Nodup := by
  rw [keys_insert]
  split
  · exact distinct
  next absent => exact List.nodup_append.mpr ⟨distinct, by simp, by grind⟩

end Table
end ComponentViews
