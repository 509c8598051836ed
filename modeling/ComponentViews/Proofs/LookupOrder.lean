import ComponentViews.Proofs.LookupReach

/-! The order in which a lookup tries paths. It takes the roots in turn, and in each of them the file of the name
before the index file that stands for it, so a root decides before the next one is looked at. -/

namespace ComponentViews.View
open Path (steps)

variable {files : FileSystem} {roots group : List Path} {root file index : Path}
  {name defaultExtension extension full last stem : String}

/-- The last component of a name has an extension: what is behind its last dot, unless it starts with that dot. -/
def HasExtension (name extension : String) : Prop :=
  ∃ above stem, Path.components { text := name } = above ++ [.name (stem ++ ("." ++ extension))] ∧ stem ≠ "" ∧
    '.' ∉ extension.toList

/-- What is joined to the roots for a name, and the extension of its index files. -/
inductive Extended (name defaultExtension : String) : String → String → Prop where
  | own {extension : String} (has : HasExtension name extension) : Extended name defaultExtension name ("." ++ extension)
  | added (lacks : ∀ extension, ¬ HasExtension name extension) :
    Extended name defaultExtension (name ++ defaultExtension) defaultExtension

/-- A name without an ending, where it has that. -/
inductive Cut (ending name : String) : String → Prop where
  | short {stem : String} (ends : name = stem ++ ending) : Cut ending name stem
  | whole (other : ∀ stem, name ≠ stem ++ ending) : Cut ending name name

/-- The paths tried for a name in one root: its file, and where the path of that ends in a name, the index file of
the directory with this name, less the extension, beside it. -/
inductive Tried (files : FileSystem) (name defaultExtension : String) (root : Path) : List Path → Prop where
  | alone {full extension : String} {file : Path} (extended : Extended name defaultExtension full extension)
    (whole : file = files.absolute (root / full)) (unnamed : file.fileName? = none) :
    Tried files name defaultExtension root [file]
  | indexed {full extension last stem : String} {file above : Path} (extended : Extended name defaultExtension full extension)
    (whole : file = files.absolute (root / full)) (named : file.fileName? = some last) (under : file.parent? = some above)
    (cut : Cut extension last stem) :
    Tried files name defaultExtension root [file, above / stem / ("index" ++ extension)]

theorem extension?_eq_some_iff : Path.extension? { text := name } = some extension ↔ HasExtension name extension := by
  unfold Path.extension? HasExtension
  rw [Option.bind_eq_some_iff]
  constructor
  · rintro ⟨last, named, ends⟩
    obtain ⟨above, shape⟩ := Path.fileName?_eq_some_iff.mp named
    obtain ⟨spelled, inner, plain⟩ := Path.splitName_eq_iff.mp (Prod.ext rfl ends : Path.splitName last = (_, some extension))
    exact ⟨above, _, spelled ▸ shape, inner, plain⟩
  · rintro ⟨above, stem, shape, inner, plain⟩
    exact ⟨_, Path.fileName?_eq_some_iff.mpr ⟨above, shape⟩, by rw [Path.splitName_eq_iff.mpr ⟨rfl, inner, plain⟩]⟩

theorem extended_iff : Extended name defaultExtension full extension ↔
    full = withExtension name defaultExtension ∧ extension = extensionOf name defaultExtension := by
  unfold withExtension extensionOf
  split
  next own has =>
    have has := extension?_eq_some_iff.mp has
    constructor
    · rintro (other | lacks)
      · have same := (extension?_eq_some_iff.mpr has).symm.trans (extension?_eq_some_iff.mpr other)
        cases same
        exact ⟨rfl, rfl⟩
      · exact absurd has (lacks own)
    · rintro ⟨rfl, rfl⟩
      exact .own has
  next lacks =>
    have lacks : ∀ extension, ¬ HasExtension name extension := fun extension has => by
      rw [extension?_eq_some_iff.mpr has] at lacks
      cases lacks
    constructor
    · rintro (has | -)
      · exact absurd has (lacks _)
      · exact ⟨rfl, rfl⟩
    · rintro ⟨rfl, rfl⟩
      exact .added lacks

theorem cut_iff : Cut extension name stem ↔ stem = stemOf extension name := by
  have ends : extension.toList.isSuffixOf name.toList ↔ ∃ front, name = front ++ extension := by
    rw [List.isSuffixOf_iff_suffix]
    constructor
    · rintro ⟨front, shape⟩
      exact ⟨String.ofList front, String.toList_inj.mp (by simp [← shape])⟩
    · rintro ⟨front, rfl⟩
      exact ⟨front.toList, by simp⟩
  have short : ∀ front, stemOf extension (front ++ extension) = front := by
    intro front
    have taken : dropEnding extension.toList (front ++ extension).toList = front.toList := by
      simp [dropEnding, List.isSuffixOf_iff_suffix]
    rw [stemOf, taken, String.ofList_toList]
  constructor
  · rintro (rfl | other)
    · exact (short stem).symm
    · simp [stemOf, dropEnding, ends, other]
  · rintro rfl
    by_cases known : ∃ front, name = front ++ extension
    · obtain ⟨front, rfl⟩ := known
      exact .short (by rw [short])
    · have other : ∀ front, name ≠ front ++ extension := fun front same => known ⟨front, same⟩
      have same : stemOf extension name = name := by simp [stemOf, dropEnding, ends, other]
      rw [same]
      exact .whole other

theorem indexFile?_eq_none (unnamed : file.fileName? = none) : indexFile? file extension = none := by
  unfold indexFile?
  cases file.parent? with
  | none => rfl
  | some above => simp [unnamed]

theorem indexFile?_of_cut {above : Path} (named : file.fileName? = some last) (under : file.parent? = some above)
    (cut : Cut extension last stem) : indexFile? file extension = some (above / stem / ("index" ++ extension)) := by
  rw [cut_iff.mp cut]
  simp [indexFile?, named, under, stemOf]

theorem candidatesIn_of_extended (extended : Extended name defaultExtension full extension) :
    candidatesIn files name defaultExtension root =
      files.absolute (root / full) :: (indexFile? (files.absolute (root / full)) extension).toList := by
  obtain ⟨rfl, rfl⟩ := extended_iff.mp extended
  rfl

theorem tried_iff : Tried files name defaultExtension root group ↔ group = candidatesIn files name defaultExtension root := by
  constructor
  · rintro (⟨extended, rfl, unnamed⟩ | ⟨extended, rfl, named, under, cut⟩)
    · rw [candidatesIn_of_extended extended, indexFile?_eq_none unnamed, Option.toList_none]
    · rw [candidatesIn_of_extended extended, indexFile?_of_cut named under cut, Option.toList_some]
  · rintro rfl
    have extended : Extended name defaultExtension _ _ := extended_iff.mpr ⟨rfl, rfl⟩
    rw [candidatesIn_of_extended extended]
    cases named : (files.absolute (root / withExtension name defaultExtension)).fileName? with
    | none =>
      rw [indexFile?_eq_none named]
      exact .alone extended rfl named
    | some last =>
      obtain ⟨above, under⟩ := Path.exists_parent named
      have cut : Cut (extensionOf name defaultExtension) last _ := cut_iff.mpr rfl
      rw [indexFile?_of_cut named under cut]
      exact .indexed extended rfl named under cut

/-- Below an absolute root the index file takes the place of the last component of the file. -/
theorem Tried.index_components (rooted : root.isAbsolute) (tried : Tried files name defaultExtension root [file, index]) :
    ∃ full extension above last stem, Extended name defaultExtension full extension ∧ Cut extension last stem ∧
      file.components = above ++ [.name last] ∧
      index.components = above ++ (steps { text := stem } ++ steps { text := "index" ++ extension }) := by
  have shape := tried_iff.mp tried
  simp only [candidatesIn, List.cons.injEq] at shape
  obtain ⟨same, rest⟩ := shape
  have absolute : file.isAbsolute := by
    have joined := (file_components name defaultExtension rooted).1
    rw [same]
    exact Path.absolute_of_isAbsolute files joined ▸ joined
  obtain ⟨above, last, spelled, -, spelled'⟩ := indexFile?_components absolute
    (same ▸ Option.mem_toList.mp (rest ▸ List.mem_singleton_self index))
  exact ⟨_, _, above, last, _, extended_iff.mpr ⟨rfl, rfl⟩, cut_iff.mpr rfl, spelled, spelled'⟩

/-- A lookup in more roots goes on where it finds nothing in the first ones. -/
theorem lookup?_append (files : FileSystem) (earlier later : List Path) (name defaultExtension : String) :
    lookup? files (earlier ++ later) name defaultExtension =
      (lookup? files earlier name defaultExtension).or (lookup? files later name defaultExtension) := by
  simp only [lookup?, List.findSome?_append]

theorem lookup?_root : lookup? files [root] name defaultExtension =
    (candidatesIn files name defaultExtension root).find? files.isFile := by
  rw [lookup?, List.findSome?_singleton, resolve?_eq_find?]

theorem groups_iff {groups : List (List Path)} : List.Forall₂ (Tried files name defaultExtension) roots groups ↔
    groups = roots.map (candidatesIn files name defaultExtension) := by
  constructor
  · intro tried
    induction tried with
    | nil => rfl
    | cons first _ ih => rw [List.map_cons, tried_iff.mp first, ih]
  · rintro rfl
    induction roots with
    | nil => exact .nil
    | cons root rest ih => exact .cons (tried_iff.mpr rfl) ih

/-- A lookup finds the first file among the paths that are tried in the roots in turn. The index file of a root comes
before all files of the roots behind it, and roots that are added at the end change nothing that is found. -/
theorem lookup_order (files : FileSystem) (roots : List Path) (name defaultExtension : String) :
    (∃! groups, List.Forall₂ (Tried files name defaultExtension) roots groups) ∧
    (∀ root file index, root.isAbsolute → Tried files name defaultExtension root [file, index] →
      ∃ full extension above last stem, Extended name defaultExtension full extension ∧ Cut extension last stem ∧
        file.components = above ++ [.name last] ∧
        index.components = above ++ (steps { text := stem } ++ steps { text := "index" ++ extension })) ∧
    (∀ groups, List.Forall₂ (Tried files name defaultExtension) roots groups →
      (∀ found, lookup? files roots name defaultExtension = some found ↔ ∃ earlier later,
        groups.flatten = earlier ++ found :: later ∧ files.isFile found ∧ ∀ path ∈ earlier, ¬ files.isFile path) ∧
      (lookup? files roots name defaultExtension = none ↔ ∀ path ∈ groups.flatten, ¬ files.isFile path)) ∧
    (∀ earlier root later file index, roots = earlier ++ root :: later → lookup? files earlier name defaultExtension = none →
      Tried files name defaultExtension root [file, index] → ¬ files.isFile file → files.isFile index →
      lookup? files roots name defaultExtension = some index) ∧
    (∀ more found, lookup? files roots name defaultExtension = some found →
      lookup? files (roots ++ more) name defaultExtension = some found) := by
  refine ⟨⟨_, groups_iff.mpr rfl, fun _ => groups_iff.mp⟩, fun _ _ _ => Tried.index_components, ?_, ?_, ?_⟩
  · intro groups tried
    rw [groups_iff.mp tried, ← List.flatMap_def, lookup?_eq_find?]
    constructor
    · intro found
      rw [candidates, List.find?_eq_some_iff_append]
      constructor
      · rintro ⟨stands, earlier, later, shape, missing⟩
        exact ⟨earlier, later, shape, stands, fun path member => by simpa using missing path member⟩
      · rintro ⟨earlier, later, shape, stands, missing⟩
        exact ⟨stands, earlier, later, shape, fun path member => by simpa using missing path member⟩
    · exact List.find?_eq_none
  · rintro earlier root later file index rfl nowhere tried missing stands
    have here : lookup? files [root] name defaultExtension = some index := by
      rw [lookup?_root, ← tried_iff.mp tried, List.find?_cons_of_neg missing, List.find?_cons_of_pos stands]
    rw [lookup?_append, nowhere, Option.none_or, ← List.singleton_append, lookup?_append, here, Option.some_or]
  · intro more found result
    rw [lookup?_append, result, Option.some_or]

end ComponentViews.View
