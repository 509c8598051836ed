/-! A tree of directories and regular files, listed by location: the names from
the root down. Every entry lies in a directory of the tree, and the root is
always a directory. -/

namespace ComponentViews

/-- What a file holds: text, or bytes that are no text. -/
inductive Content where
  | text (value : String)
  | binary (bytes : List UInt8)
  deriving DecidableEq

namespace Content

/-- The content that bytes make up, text where they encode one. -/
def ofBytes (bytes : List UInt8) : Content :=
  match String.fromUTF8? (ByteArray.mk bytes.toArray) with
  | some value => .text value
  | none => .binary bytes

def bytes : Content → List UInt8
  | .text value => value.toUTF8.toList
  | .binary bytes => bytes

end Content

abbrev Location := List String

namespace FileTree

inductive Entry where
  | file (content : Content) (executable : Bool)
  | directory
  deriving DecidableEq

/-- A name that a directory can hold. -/
def ValidName (name : String) : Prop :=
  name ≠ "" ∧ name ≠ "." ∧ name ≠ ".." ∧ '/' ∉ name.toList ∧ '\x00' ∉ name.toList ∧ name.utf8ByteSize ≤ 255

instance (name : String) : Decidable (ValidName name) := by unfold ValidName; infer_instance

/-- The location of an entry ends in a valid name below the root or a listed directory. -/
def Placed (entries : List (Location × Entry)) (location : Location) : Prop :=
  ∃ parent name, location = parent ++ [name] ∧ ValidName name ∧ (parent = [] ∨ (parent, .directory) ∈ entries)

end FileTree

open FileTree in
structure FileTree where
  entries : List (Location × Entry)
  distinct : (entries.map Prod.fst).Nodup
  placed : ∀ entry ∈ entries, Placed entries entry.1

namespace FileTree

def empty : FileTree := { entries := [], distinct := by simp, placed := by simp }

instance : Inhabited FileTree := ⟨empty⟩

/-- What stands at a location. -/
def get? (tree : FileTree) (location : Location) : Option Entry :=
  if location = [] then some .directory else tree.entries.lookup location

theorem mem_of_lookup {entries : List (Location × Entry)} {location : Location} {entry : Entry}
    (found : entries.lookup location = some entry) : (location, entry) ∈ entries := by
  induction entries with
  | nil => simp at found
  | cons first rest ih => grind

theorem lookup_of_mem {entries : List (Location × Entry)} {location : Location} {entry : Entry}
    (distinct : (entries.map Prod.fst).Nodup) (member : (location, entry) ∈ entries) :
    entries.lookup location = some entry := by
  induction entries with
  | nil => simp at member
  | cons first rest ih =>
    obtain ⟨other, kept⟩ := first
    simp only [List.map_cons, List.nodup_cons, List.mem_map, not_exists, not_and] at distinct
    rcases List.mem_cons.mp member with same | inside
    · cases same; simp
    · have different : location ≠ other := fun same => distinct.1 _ inside same
      have ih := ih distinct.2 inside
      grind

theorem directory_of_get? {tree : FileTree} {location : Location} (found : tree.get? location = some .directory) :
    location = [] ∨ (location, .directory) ∈ tree.entries := by
  unfold get? at found
  split at found
  next root => exact .inl root
  next => exact .inr (mem_of_lookup found)

@[simp] theorem get?_root (tree : FileTree) : tree.get? [] = some .directory := rfl

theorem get?_eq_some_iff {tree : FileTree} {location : Location} {entry : Entry} (inner : location ≠ []) :
    tree.get? location = some entry ↔ (location, entry) ∈ tree.entries := by
  simp only [get?, inner, if_false]
  exact ⟨mem_of_lookup, lookup_of_mem tree.distinct⟩

theorem ne_nil_of_mem {tree : FileTree} {entry : Location × Entry} (member : entry ∈ tree.entries) : entry.1 ≠ [] := by
  obtain ⟨parent, name, shape, _⟩ := tree.placed entry member
  simp [shape]

/-- Whatever stands at a location stands in a directory. -/
theorem get?_parent {tree : FileTree} {location : Location} {name : String} {entry : Entry}
    (found : tree.get? (location ++ [name]) = some entry) : tree.get? location = some .directory := by
  have member := (get?_eq_some_iff (by simp)).mp found
  obtain ⟨parent, last, shape, _, listed⟩ := tree.placed _ member
  obtain ⟨rfl, -⟩ := List.append_inj' shape rfl
  rcases listed with rfl | listed
  · rfl
  · exact (get?_eq_some_iff (ne_nil_of_mem listed)).mpr listed

theorem validName_of_get? {tree : FileTree} {location : Location} {name : String} {entry : Entry}
    (found : tree.get? (location ++ [name]) = some entry) : ValidName name := by
  obtain ⟨parent, last, shape, valid, _⟩ := tree.placed _ ((get?_eq_some_iff (by simp)).mp found)
  obtain ⟨-, same⟩ := List.append_inj' shape rfl
  cases same
  exact valid

theorem get?_above {tree : FileTree} {location rest : Location} {entry : Entry}
    (found : tree.get? (location ++ rest) = some entry) (inner : rest ≠ []) :
    tree.get? location = some .directory := by
  induction rest generalizing location with
  | nil => exact absurd rfl inner
  | cons name rest ih =>
    by_cases last : rest = []
    · subst last; exact get?_parent found
    · exact get?_parent (ih (by simpa using found) last)

/-- Puts an entry into a directory. A directory that is there already stays one. -/
def put (tree : FileTree) (parent : Location) (name : String) (entry : Entry)
    (within : tree.get? parent = some .directory) (valid : ValidName name)
    (keeps : tree.get? (parent ++ [name]) = some .directory → entry = .directory) : FileTree where
  entries := (parent ++ [name], entry) :: tree.entries.filter fun other => other.1 ≠ parent ++ [name]
  distinct := by
    simp only [List.map_cons, List.nodup_cons]
    refine ⟨by simp, ?_⟩
    exact List.Nodup.sublist (List.Sublist.map _ List.filter_sublist) tree.distinct
  placed := by
    have stays : ∀ location, location = [] ∨ (location, Entry.directory) ∈ tree.entries → location = [] ∨
        (location, Entry.directory) ∈ (parent ++ [name], entry) ::
          tree.entries.filter fun other => other.1 ≠ parent ++ [name] := by
      rintro location (root | member)
      · exact .inl root
      · right
        by_cases here : location = parent ++ [name]
        · have found : tree.get? (parent ++ [name]) = some .directory := by
            simp [get?, ← here, lookup_of_mem tree.distinct member]
          simp [here, keeps found]
        · simp [member, here]
    intro other member
    rcases List.mem_cons.mp member with same | inside
    · subst same
      exact ⟨parent, name, rfl, valid, stays parent (directory_of_get? within)⟩
    · obtain ⟨above, last, shape, named, listed⟩ := tree.placed other (List.mem_filter.mp inside).1
      exact ⟨above, last, shape, named, stays above listed⟩

theorem get?_put {tree : FileTree} {parent : Location} {name : String} {entry : Entry}
    {within : tree.get? parent = some .directory} {valid : ValidName name}
    {keeps : tree.get? (parent ++ [name]) = some .directory → entry = .directory} (location : Location) :
    (tree.put parent name entry within valid keeps).get? location =
      if location = parent ++ [name] then some entry else tree.get? location := by
  by_cases root : location = []
  · simp [root]
  · apply Option.ext
    intro found
    rw [get?_eq_some_iff root]
    split
    next here => subst here; simp [put, eq_comm]
    next other => simp [put, other, get?_eq_some_iff root]

/-- Takes away a location and everything below it. -/
def remove (tree : FileTree) (location : Location) : FileTree where
  entries := tree.entries.filter fun entry => !location.isPrefixOf entry.1
  distinct := List.Nodup.sublist (List.Sublist.map _ List.filter_sublist) tree.distinct
  placed := by
    intro entry member
    simp only [List.mem_filter, Bool.not_eq_true'] at member
    obtain ⟨above, last, shape, named, listed⟩ := tree.placed entry member.1
    refine ⟨above, last, shape, named, listed.imp_right fun inside => ?_⟩
    simp only [List.mem_filter, Bool.not_eq_true', inside, true_and]
    apply Bool.eq_false_iff.mpr
    intro below
    have covers : location.isPrefixOf entry.1 = true := by
      rw [shape]
      have start := List.isPrefixOf_iff_prefix.mp below
      exact List.isPrefixOf_iff_prefix.mpr (start.trans (List.prefix_append above [last]))
    simp [covers] at member

theorem get?_remove {tree : FileTree} {removed : Location} (inner : removed ≠ []) (location : Location) :
    (tree.remove removed).get? location = if removed <+: location then none else tree.get? location := by
  by_cases root : location = []
  · simp [root, inner]
  · apply Option.ext
    intro found
    rw [get?_eq_some_iff root]
    split
    next below => simp [remove, below]
    next apart =>
      have outside := Bool.eq_false_iff.mpr (mt List.isPrefixOf_iff_prefix.mp apart)
      simp [remove, outside, get?_eq_some_iff root]

/-- The part of a location below a directory, when it is below it. -/
def relative? : Location → Location → Option Location
  | [], [] => none
  | [], rest => some rest
  | _ :: _, [] => none
  | name :: directory, first :: rest => if name = first then relative? directory rest else none

theorem relative?_eq_some_iff {directory location rest : Location} :
    relative? directory location = some rest ↔ location = directory ++ rest ∧ rest ≠ [] := by
  induction directory generalizing location with
  | nil => cases location <;> grind [relative?]
  | cons name directory ih => cases location <;> grind [relative?]

theorem relative?_isSome_iff {directory location : Location} :
    (relative? directory location).isSome ↔ directory <+: location ∧ location ≠ directory := by
  simp only [Option.isSome_iff_exists, relative?_eq_some_iff]
  constructor
  · rintro ⟨rest, rfl, inner⟩
    exact ⟨List.prefix_append .., by simpa using inner⟩
  · rintro ⟨⟨rest, rfl⟩, different⟩
    exact ⟨rest, rfl, by simpa using different⟩

/-- Takes away everything below a location. -/
def clear (tree : FileTree) (location : Location) : FileTree where
  entries := tree.entries.filter fun entry => (relative? location entry.1).isNone
  distinct := List.Nodup.sublist (List.Sublist.map _ List.filter_sublist) tree.distinct
  placed := by
    intro entry member
    simp only [List.mem_filter, Option.isNone_iff_eq_none] at member
    obtain ⟨above, last, shape, named, listed⟩ := tree.placed entry member.1
    refine ⟨above, last, shape, named, listed.imp_right fun inside => ?_⟩
    simp only [List.mem_filter, Option.isNone_iff_eq_none, inside, true_and]
    apply Option.eq_none_iff_forall_ne_some.mpr
    intro rest found
    obtain ⟨reach, _⟩ := relative?_eq_some_iff.mp found
    have covers : relative? location entry.1 = some (rest ++ [last]) :=
      relative?_eq_some_iff.mpr ⟨by simp [shape, reach], by simp⟩
    simp [covers] at member

theorem get?_clear (tree : FileTree) (cleared location : Location) :
    (tree.clear cleared).get? location =
      if cleared <+: location ∧ location ≠ cleared then none else tree.get? location := by
  by_cases root : location = []
  · subst root
    rw [if_neg (by rintro ⟨start, different⟩; exact different (List.prefix_nil.mp start).symm)]
    rfl
  · apply Option.ext
    intro found
    rw [get?_eq_some_iff root]
    simp only [clear, List.mem_filter]
    split
    next below => simp [Option.isNone_iff_eq_none, Option.isSome_iff_ne_none.mp (relative?_isSome_iff.mpr below)]
    next apart =>
      have outside := Option.not_isSome_iff_eq_none.mp (mt relative?_isSome_iff.mp apart)
      simp [outside, get?_eq_some_iff root]

/-- A location comes before another by its first differing name; a directory comes before what it holds. -/
def precedes : Location → Location → Bool
  | [], _ => true
  | _ :: _, [] => false
  | a :: left, b :: right => if a = b then precedes left right else decide (a < b)

/-- Everything below a directory, by relative location: each directory before what it
holds, and what one directory holds by name. -/
def below (tree : FileTree) (directory : Location) : List (Location × Entry) :=
  (tree.entries.filterMap fun entry => (relative? directory entry.1).map (·, entry.2)).mergeSort
    fun left right => precedes left.1 right.1

theorem mem_below_iff {tree : FileTree} {directory rest : Location} {entry : Entry} :
    (rest, entry) ∈ tree.below directory ↔ rest ≠ [] ∧ tree.get? (directory ++ rest) = some entry := by
  simp only [below, List.mem_mergeSort, List.mem_filterMap, Option.map_eq_some_iff, Prod.mk.injEq, Prod.exists,
    relative?_eq_some_iff]
  constructor
  · rintro ⟨location, found, member, reached, ⟨rfl, inner⟩, rfl, rfl⟩
    exact ⟨inner, (get?_eq_some_iff (by simp [inner])).mpr member⟩
  · rintro ⟨inner, found⟩
    exact ⟨_, entry, (get?_eq_some_iff (by simp [inner])).mp found, rest, ⟨rfl, inner⟩, rfl, rfl⟩

theorem nodup_below (tree : FileTree) (directory : Location) : ((tree.below directory).map Prod.fst).Nodup := by
  have listed : (tree.entries.filterMap fun entry => (relative? directory entry.1).map (·, entry.2)).map Prod.fst =
      (tree.entries.map Prod.fst).filterMap (relative? directory) := by
    simp [List.map_filterMap, List.filterMap_map, Function.comp_def]
  rw [below, ((List.mergeSort_perm ..).map Prod.fst).nodup_iff, listed]
  refine List.Pairwise.filterMap _ ?_ tree.distinct
  intro first second different rest reached other again same
  subst same
  rw [relative?_eq_some_iff] at reached again
  exact different (reached.1.trans again.1.symm)

end FileTree
end ComponentViews
