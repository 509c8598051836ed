import ComponentViews.Proofs.PathComponents
import ComponentViews.View.Lookup

/-! Where the files of views lie that a lookup finds. A lookup joins a name to a root without
looking at what the name says: the file lies below the root unless the way to it climbs
out of the root and does not come back in. -/

namespace ComponentViews.View
open FileTree
open Path (Component steps walk course)

variable {files : FileSystem} {roots : List Path} {root file index found : Path} {name defaultExtension : String}

/-- A name without an ending that it has. -/
def stemOf (extension name : String) : String := String.ofList (dropEnding extension.toList name.toList)

/-- The name that a lookup joins to each root. -/
def joined (name defaultExtension : String) : Path := { text := withExtension name defaultExtension }

/-- What an index file adds to the directory that holds the file it stands for. -/
def indexSteps (name defaultExtension last : String) : List Component :=
  let extension := extensionOf name defaultExtension
  steps { text := stemOf extension last } ++ steps { text := "index" ++ extension }

/-- The ways from a root that a lookup tries: to the file of a name, to the index file in its stead, and, where the name
leads nowhere from the root, to the index file in the stead of the root itself. -/
inductive Way (root : Path) (name defaultExtension : String) : List Component → Prop where
  | file : Way root name defaultExtension (joined name defaultExtension).steps
  | index {above : List Component} {last : String} (shape : (joined name defaultExtension).steps = above ++ [.name last]) :
    Way root name defaultExtension (above ++ indexSteps name defaultExtension last)
  | beside {last : String} (blank : (joined name defaultExtension).steps = []) (named : root.fileName? = some last) :
    Way root name defaultExtension (.up :: indexSteps name defaultExtension last)

/-- Where the ways from a root start: an absolute name replaces the root. -/
def start (root : Path) (name defaultExtension : String) : Location :=
  if (joined name defaultExtension).isAbsolute then [] else root.resolved

theorem mem_of_mem_dropEnding {ending text : List Char} {c : Char} (member : c ∈ dropEnding ending text) : c ∈ text := by
  unfold dropEnding at member
  split at member
  · exact List.mem_of_mem_take member
  · exact member

theorem relative_index (extension : String) : ({ text := "index" ++ extension } : Path).isAbsolute = false := by
  simp [Path.isAbsolute]

/-- An index file lies behind the parent of the file that it stands for. -/
theorem indexFile?_components (rooted : file.isAbsolute) {extension : String} (stands : indexFile? file extension = some index) :
    ∃ above last, file.components = above ++ [.name last] ∧ index.isAbsolute ∧ index.components =
      above ++ (steps { text := stemOf extension last } ++ steps { text := "index" ++ extension }) := by
  obtain ⟨parent, under, stands⟩ := Option.bind_eq_some_iff.mp stands
  obtain ⟨last, named, stands⟩ := Option.bind_eq_some_iff.mp stands
  obtain ⟨above, shape⟩ := Path.fileName?_eq_some_iff.mp named
  obtain ⟨rooted', upper⟩ := Path.components_parent rooted under
  have plain : '/' ∉ (stemOf extension last).toList := by
    have listed : .name last ∈ file.components := by simp [shape]
    have slashless := Path.notMem_of_mem_components listed
    exact fun member => slashless (mem_of_mem_dropEnding (by simpa [stemOf] using member))
  have stem := Path.relative_of_notMem plain
  have inner := Path.isAbsolute_join rooted' stem
  obtain rfl : (parent.join { text := stemOf extension last }).join { text := "index" ++ extension } = index :=
    Option.some.inj stands
  refine ⟨above, last, shape, Path.isAbsolute_join inner (relative_index extension), ?_⟩
  rw [Path.components_join inner (relative_index extension), Path.components_join rooted' stem, upper, shape,
    List.dropLast_concat, List.append_assoc]

/-- The file of a name lies on the way that the name spells. -/
theorem file_components (name defaultExtension : String) (rooted : root.isAbsolute) :
    (root.join (joined name defaultExtension)).isAbsolute ∧
      (root.join (joined name defaultExtension)).components =
        (if (joined name defaultExtension).isAbsolute then [.root] else root.components) ++ (joined name defaultExtension).steps := by
  by_cases absolute : (joined name defaultExtension).isAbsolute
  · simp [Path.join, absolute, Path.components_of_isAbsolute]
  · have relative : (joined name defaultExtension).isAbsolute = false := by simpa using absolute
    rw [if_neg absolute]
    exact ⟨Path.isAbsolute_join rooted relative, Path.components_join rooted relative⟩

theorem walk_origin (root : Path) (name defaultExtension : String) (way : List Component) :
    walk [] ((if (joined name defaultExtension).isAbsolute then [.root] else root.components) ++ way) =
      walk (start root name defaultExtension) way := by
  rw [Path.walk_append, start]
  split <;> rfl

/-- Every candidate in a root lies on a way that is tried from there. -/
theorem candidate_way (rooted : root.isAbsolute) (member : found ∈ candidatesIn files name defaultExtension root) :
    found.isAbsolute ∧ ∃ way, Way root name defaultExtension way ∧
      found.resolved = walk (start root name defaultExtension) way := by
  obtain ⟨absolute, shape⟩ := file_components name defaultExtension rooted
  have same : files.absolute (root / withExtension name defaultExtension) = root.join (joined name defaultExtension) :=
    Path.absolute_of_isAbsolute files absolute
  simp only [candidatesIn, same, List.mem_cons, Option.mem_toList] at member
  rcases member with rfl | member
  · exact ⟨absolute, _, .file, by rw [Path.resolved, shape, walk_origin]⟩
  obtain ⟨above, last, ends, absolute', spelled⟩ := indexFile?_components absolute member
  refine ⟨absolute', ?_⟩
  rw [shape] at ends
  rcases List.eq_nil_or_concat (joined name defaultExtension).steps with blank | ⟨front, component, listed⟩
  · rw [blank, List.append_nil] at ends
    split at ends
    next => cases above <;> simp at ends
    next relative =>
      refine ⟨_, .beside blank (Path.fileName?_eq_some_iff.mpr ⟨above, ends⟩), ?_⟩
      have parent : root.resolved.dropLast = walk [] above := by
        rw [Path.resolved, ends, Path.walk_concat_name, List.dropLast_concat]
      have origin : start root name defaultExtension = root.resolved := if_neg relative
      rw [Path.resolved, spelled, Path.walk_append, ← parent, origin, Path.walk_cons, Path.turn, indexSteps]
  · rw [listed, List.concat_eq_append, ← List.append_assoc] at ends
    obtain ⟨front_eq, component_eq⟩ := List.append_inj' ends rfl
    obtain rfl := List.singleton_inj.mp component_eq
    refine ⟨_, .index (by rw [listed, List.concat_eq_append]), ?_⟩
    rw [Path.resolved, spelled, ← front_eq, List.append_assoc, walk_origin, indexSteps]

theorem resolve?_eq_find? (files : FileSystem) (name defaultExtension : String) (root : Path) :
    resolve? files (files.absolute (root / withExtension name defaultExtension)) (extensionOf name defaultExtension) =
      (candidatesIn files name defaultExtension root).find? files.isFile := by
  rw [resolve?, candidatesIn, List.find?_cons]
  cases files.isFile (files.absolute (root / withExtension name defaultExtension)) with
  | true => rfl
  | false => cases indexFile? .. <;> simp [Option.filter]

/-- A lookup finds the first candidate that is a regular file. -/
theorem lookup?_eq_find? (files : FileSystem) (roots : List Path) (name defaultExtension : String) :
    lookup? files roots name defaultExtension = (candidates files roots name defaultExtension).find? files.isFile := by
  induction roots with
  | nil => rfl
  | cons root rest ih =>
    rw [lookup?] at ih ⊢
    rw [List.findSome?_cons, ih, resolve?_eq_find?, candidates, candidates, List.flatMap_cons, List.find?_append]
    cases (candidatesIn files name defaultExtension root).find? files.isFile with
    | some found => rw [Option.some_or]
    | none => rw [Option.none_or]

/-- A file that is found lies on a way from one of the roots. -/
theorem lookup?_way (rooted : ∀ root ∈ roots, root.isAbsolute) (result : lookup? files roots name defaultExtension = some found) :
    files.isFile found ∧ found.isAbsolute ∧ ∃ root ∈ roots, ∃ way, Way root name defaultExtension way ∧
      found.resolved = walk (start root name defaultExtension) way := by
  rw [lookup?_eq_find?] at result
  have stands := List.find?_some result
  obtain ⟨root, listed, member⟩ := List.mem_flatMap.mp (List.mem_of_find?_eq_some result)
  obtain ⟨absolute, way, tried, reached⟩ := candidate_way (rooted root listed) member
  exact ⟨stands, absolute, root, listed, way, tried, reached⟩

/-- How far a way climbs above a root. An absolute name leaves the root as a whole. -/
def climb (root : Path) (name defaultExtension : String) (way : List Component) : Nat :=
  if (joined name defaultExtension).isAbsolute then root.resolved.length else (course way).1

theorem walk_start (root : Path) (name defaultExtension : String) (way : List Component) :
    walk (start root name defaultExtension) way =
      root.resolved.take (root.resolved.length - climb root name defaultExtension way) ++ (course way).2 := by
  unfold start climb
  split
  · simp [Path.walk_eq_course]
  · exact Path.walk_eq_course ..

/-- What a lookup finds lies where a way from one of the roots leads to. It is below that root if and only if the way
comes down by the names that it has climbed over, and so whenever it climbs over none. -/
theorem lookup?_below_iff (rooted : ∀ root ∈ roots, root.isAbsolute)
    (result : lookup? files roots name defaultExtension = some found) :
    ∃ root ∈ roots, ∃ way, Way root name defaultExtension way ∧
      let kept := root.resolved.length - climb root name defaultExtension way
      found.resolved = root.resolved.take kept ++ (course way).2 ∧
        (root.resolved <+: found.resolved ↔ root.resolved.drop kept <+: (course way).2) := by
  obtain ⟨-, -, root, listed, way, tried, reached⟩ := lookup?_way rooted result
  refine ⟨root, listed, way, tried, reached.trans (walk_start ..), ?_⟩
  rw [reached, walk_start]
  nth_rewrite 1 [← List.take_append_drop (root.resolved.length - climb root name defaultExtension way) root.resolved]
  exact List.prefix_append_right_inj _

/-- A view below a root, and a file beside the root. -/
def besideRoot : FileSystem :=
  match FileSystem.makeDirectory default { text := "views" } with
  | .ok files =>
    let files := (files.write { text := "views/Page.svelte" } (.text "") false).toOption.getD files
    (files.write { text := "Secret.svelte" } (.text "") false).toOption.getD files
  | .error _ => default

/-- A name that leaves the root and comes back in. -/
theorem view_behind_its_root : lookup? besideRoot [{ text := "/views" }] "../views/Page" ".svelte" =
      some { text := "/views/../views/Page.svelte" } ∧
    ∃ root ∈ [({ text := "/views" } : Path)], ∃ way, Way root "../views/Page" ".svelte" way ∧
      let kept := root.resolved.length - climb root "../views/Page" ".svelte" way
      Path.resolved { text := "/views/../views/Page.svelte" } = root.resolved.take kept ++ (course way).2 ∧
        (root.resolved <+: Path.resolved { text := "/views/../views/Page.svelte" } ↔
          root.resolved.drop kept <+: (course way).2) := by
  have result : lookup? besideRoot [{ text := "/views" }] "../views/Page" ".svelte" =
      some { text := "/views/../views/Page.svelte" } := by decide +kernel
  exact ⟨result, lookup?_below_iff (by decide +kernel) result⟩

/-- A name that leaves the root finds the file beside it. -/
theorem file_beside_its_root : ∃ found,
    lookup? besideRoot [{ text := "/views" }] "../Secret" ".svelte" = some found ∧
      ∀ root ∈ [({ text := "/views" } : Path)], root.isAbsolute ∧ ¬ root.resolved <+: found.resolved :=
  ⟨{ text := "/views/../Secret.svelte" }, by decide +kernel, by decide +kernel⟩

end ComponentViews.View
