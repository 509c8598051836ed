/-! Dictionaries: finitely many texts, each with one value, listed by the code
points of the texts. Equal dictionaries list equal entries, so the written form
of a dictionary does not depend on the order in which it was filled. -/

namespace ComponentViews

structure Dict (α : Type) where
  entries : List (String × α)
  ordered : (entries.map Prod.fst).Pairwise (· < ·) := by simp
  deriving DecidableEq

namespace Dict
variable {α β : Type}

def empty : Dict α := { entries := [] }

instance : EmptyCollection (Dict α) := ⟨empty⟩
instance : Inhabited (Dict α) := ⟨empty⟩

/-- Puts an entry at its place, in the stead of one with the same key. -/
def insertEntry (key : String) (value : α) : List (String × α) → List (String × α)
  | [] => [(key, value)]
  | (other, kept) :: rest =>
    if key < other then (key, value) :: (other, kept) :: rest
    else if key = other then (key, value) :: rest
    else (other, kept) :: insertEntry key value rest

theorem mem_keys_insertEntry {key name : String} {value : α} {entries : List (String × α)} :
    name ∈ (insertEntry key value entries).map Prod.fst ↔ name = key ∨ name ∈ entries.map Prod.fst := by
  induction entries with
  | nil => simp [insertEntry]
  | cons entry rest ih =>
    obtain ⟨other, kept⟩ := entry
    unfold insertEntry
    split
    · simp
    · split
      next same => subst same; simp
      next => simp only [List.map_cons, List.mem_cons, ih]; grind

theorem ordered_insertEntry {key : String} {value : α} {entries : List (String × α)}
    (ordered : (entries.map Prod.fst).Pairwise (· < ·)) :
    ((insertEntry key value entries).map Prod.fst).Pairwise (· < ·) := by
  induction entries with
  | nil => simp [insertEntry]
  | cons entry rest ih =>
    obtain ⟨other, kept⟩ := entry
    simp only [List.map_cons, List.pairwise_cons] at ordered
    unfold insertEntry
    split
    next less =>
      simp only [List.map_cons, List.pairwise_cons, List.mem_cons]
      refine ⟨?_, ordered⟩
      rintro name (rfl | member)
      · exact less
      · exact String.lt_trans less (ordered.1 name member)
    next more =>
      split
      next same => subst same; simpa using ordered
      next different =>
        simp only [List.map_cons, List.pairwise_cons, mem_keys_insertEntry]
        refine ⟨?_, ih ordered.2⟩
        rintro name (rfl | member)
        · apply Decidable.byContradiction
          intro notLess
          exact different (String.le_antisymm (String.not_lt.mp notLess) (String.not_lt.mp more))
        · exact ordered.1 name member

def insert (dict : Dict α) (key : String) (value : α) : Dict α :=
  { entries := insertEntry key value dict.entries, ordered := ordered_insertEntry dict.ordered }

def get? (dict : Dict α) (key : String) : Option α := dict.entries.lookup key

def contains (dict : Dict α) (key : String) : Bool := (dict.get? key).isSome

def keys (dict : Dict α) : List String := dict.entries.map Prod.fst

def size (dict : Dict α) : Nat := dict.entries.length

def isEmpty (dict : Dict α) : Bool := dict.entries.isEmpty

/-- Keeps an entry that is there already. -/
def insertNew (dict : Dict α) (key : String) (value : α) : Dict α :=
  if dict.contains key then dict else dict.insert key value

/-- Of entries with one key the last one counts. -/
def ofList (entries : List (String × α)) : Dict α :=
  entries.foldl (fun dict entry => dict.insert entry.1 entry.2) empty

/-- The entries of `upper` in front of those of `lower`. -/
def overlay (lower upper : Dict α) : Dict α :=
  upper.entries.foldl (fun dict entry => dict.insert entry.1 entry.2) lower

def map (f : α → β) (dict : Dict α) : Dict β where
  entries := dict.entries.map fun entry => (entry.1, f entry.2)
  ordered := by simpa [Function.comp_def] using dict.ordered

/-- The entries whose keys are kept. -/
def filter (kept : String → Bool) (dict : Dict α) : Dict α where
  entries := dict.entries.filter fun entry => kept entry.1
  ordered := dict.ordered.sublist (List.filter_sublist.map _)

theorem lookup_insertEntry {key name : String} {value : α} {entries : List (String × α)}
    (ordered : (entries.map Prod.fst).Pairwise (· < ·)) :
    (insertEntry key value entries).lookup name = if name = key then some value else entries.lookup name := by
  induction entries with
  | nil => grind [insertEntry]
  | cons entry rest ih =>
    obtain ⟨other, kept⟩ := entry
    simp only [List.map_cons, List.pairwise_cons] at ordered
    have ih := ih ordered.2
    grind [insertEntry]

@[simp] theorem get?_insert (dict : Dict α) (key name : String) (value : α) :
    (dict.insert key value).get? name = if name = key then some value else dict.get? name :=
  lookup_insertEntry dict.ordered

@[simp] theorem get?_empty (name : String) : (empty : Dict α).get? name = none := rfl

end Dict
end ComponentViews
