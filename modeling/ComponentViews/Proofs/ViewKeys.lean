import ComponentViews.Proofs.EntryViews
import ComponentViews.Proofs.HeldFiles
import ComponentViews.Proofs.LookupReach
import ComponentViews.Proofs.PlainPaths

/-! Keys of views that a lookup finds, beside the keys that builds are planned under. A key is
read off the names of a path, and its `..` are left out without being resolved: a file has
one key only as long as nothing behind the root leads up. -/

namespace ComponentViews

namespace Path
open FileTree

/-- The names among components. -/
def namesOf (components : List Component) : List String := components.filterMap Component.name?

theorem namesOf_up (rest : List Component) : namesOf (.up :: rest) = namesOf rest := rfl

theorem namesOf_name (value : String) (rest : List Component) : namesOf (.name value :: rest) = value :: namesOf rest := rfl

theorem namesOf_append (first second : List Component) : namesOf (first ++ second) = namesOf first ++ namesOf second :=
  List.filterMap_append

theorem mem_namesOf {name : String} {components : List Component} : name ∈ namesOf components ↔ .name name ∈ components := by
  rw [namesOf, List.mem_filterMap]
  constructor
  · rintro ⟨component, member, named⟩
    cases component <;> simp_all [Component.name?]
  · exact fun member => ⟨_, member, rfl⟩

/-- No component takes back a name: none leads up, or all those that do stand at the top and in front. -/
def Descends (start : Location) (components : List Component) : Prop :=
  .up ∉ components ∨ start = [] ∧ .up ∉ components.dropWhile (· = .up)

instance (start : Location) (components : List Component) : Decidable (Descends start components) := by
  unfold Descends
  infer_instance

theorem descends_up (start : Location) (rest : List Component) :
    Descends start (.up :: rest) ↔ start = [] ∧ Descends [] rest := by
  have fewer : .up ∉ rest → .up ∉ rest.dropWhile (· = .up) := fun none member =>
    none ((List.dropWhile_suffix _).subset member)
  simp only [Descends, List.mem_cons_self, not_true, false_or, List.dropWhile_cons, decide_true, if_true, true_and]
  exact and_congr_right fun _ => ⟨.inr, fun either => either.elim fewer id⟩

theorem descends_name (start : Location) (value : String) (rest : List Component) :
    Descends start (.name value :: rest) ↔ .up ∉ rest := by
  simp [Descends]

/-- A `..` that takes back a name makes a way lead less far than its names would. -/
theorem length_walk {components : List Component} (spelled : ∀ component ∈ components, component = .up ∨
    ∃ value, component = .name value) (start : Location) :
    (walk start components).length ≤ start.length + (namesOf components).length ∧
      ((walk start components).length = start.length + (namesOf components).length ↔
        Descends start components) := by
  induction components generalizing start with
  | nil => simp [walk, Descends, namesOf]
  | cons component rest ih =>
    have ih := ih fun other member => spelled other (.tail _ member)
    rcases spelled component List.mem_cons_self with rfl | ⟨value, rfl⟩
    · obtain ⟨within, exactly⟩ := ih start.dropLast
      rw [walk_cons, turn, namesOf_up, descends_up]
      by_cases top : start = []
      · subst top
        rw [List.dropLast_nil] at within exactly ⊢
        exact ⟨within, by simpa using exactly⟩
      · have shorter : start.dropLast.length + 1 = start.length := by
          rw [List.length_dropLast]
          exact Nat.sub_add_cancel (List.length_pos_iff.mpr top)
        refine ⟨by omega, iff_of_false (by omega) fun both => top both.1⟩
    · obtain ⟨within, exactly⟩ := ih (start ++ [value])
      have higher : Descends (start ++ [value]) rest ↔ .up ∉ rest := by simp [Descends]
      rw [walk_cons, turn, namesOf_name, descends_name, ← higher, ← exactly]
      have longer : (start ++ [value]).length = start.length + 1 := by simp
      rw [longer] at within ⊢
      rw [List.length_cons]
      omega

/-- A way leads down by its names if and only if nothing takes back one of them. -/
theorem walk_eq_names_iff {components : List Component} (spelled : ∀ component ∈ components, component = .up ∨
    ∃ value, component = .name value) (start : Location) :
    walk start components = start ++ namesOf components ↔ Descends start components := by
  constructor
  · intro same
    exact (length_walk spelled start).2.mp (by rw [same, List.length_append])
  · intro descends
    induction components generalizing start with
    | nil => simp [walk, namesOf]
    | cons component rest ih =>
      have ih := ih fun other member => spelled other (.tail _ member)
      rcases spelled component List.mem_cons_self with rfl | ⟨value, rfl⟩
      · obtain ⟨rfl, later⟩ := (descends_up _ _).mp descends
        rw [walk_cons, turn, namesOf_up, List.dropLast_nil, ih [] later]
      · have later : Descends (start ++ [value]) rest := .inl ((descends_name _ _ _).mp descends)
        rw [walk_cons, turn, namesOf_name, ih _ later, List.append_assoc, List.singleton_append]

end Path

namespace FileSystem
open FileTree

theorem get?_dropLast {tree : FileTree} {location : Location} (listed : tree.get? location = some .directory) :
    tree.get? location.dropLast = some .directory := by
  rcases List.eq_nil_or_concat location with rfl | ⟨front, last, rfl⟩
  · exact listed
  · rw [List.concat_eq_append] at listed ⊢
    rw [List.dropLast_concat]
    exact get?_parent listed

/-- A segment that names nothing leads to a directory. -/
theorem follow_unnamed {tree : FileTree} {here : Location} {target : Target} {segment : String}
    (unnamed : Path.segmentComponent segment ≠ some (.name segment))
    (led : follow tree (.standing here) [segment] = .ok target) : target.entry? tree = some .directory := by
  have special : (segment = "" ∨ segment = ".") ∨ segment = ".." := by
    unfold Path.segmentComponent at unnamed
    grind
  simp only [follow] at led
  split at led
  · cases led
  · cases led
  next listed =>
    split at led
    · cases led
      exact listed
    next moves =>
      rw [if_pos (special.resolve_left moves)] at led
      cases led
      exact get?_dropLast listed

/-- A path to a file ends in the name of the file; `.`, `..` and a slash at the end ask for a directory. -/
theorem last_of_isFile {files : FileSystem} {path : Path} (rooted : path.isAbsolute) (stands : files.isFile path) :
    ∃ front last, path.segments = front ++ [last] ∧ Path.segmentComponent last = some (.name last) := by
  obtain ⟨front, last, shape⟩ : ∃ front last, path.segments = front ++ [last] := by
    rcases List.eq_nil_or_concat path.segments with empty | ⟨front, last, shape⟩
    · exact absurd empty (by simp [Path.segments, Path.splitSlashes_ne_nil])
    · exact ⟨front, last, by rw [shape, List.concat_eq_append]⟩
  refine ⟨front, last, shape, ?_⟩
  by_contra unnamed
  obtain ⟨target, content, executable, led, held⟩ := isFile_iff.mp stands
  have reached := (locate_eq_ok_iff.mp led).2
  simp only [base, rooted, if_true, shape, follow_append] at reached
  cases before : follow files.tree (.standing []) front with
  | error denial => simp [before, Except.bind] at reached
  | ok here =>
    obtain ⟨location, rfl⟩ := follow_standing before
    simp only [before, Except.bind] at reached
    simp [follow_unnamed unnamed reached] at held

end FileSystem

namespace Path

theorem ofList_singleton (segment : String) : ofList [segment] = segment := by simp [ofList]

end Path

namespace View
open Path (Component walk Descends namesOf stemmed ofList steps)

variable {files : FileSystem} {root found : Path} {location : Location}

/-- A path leads from a root down to a file as a walk does, so that the key read off it is that of the file. A path that
does not spell the root in front has the stem of its file as its key, which is right just for the files that the root holds
itself. -/
def Direct (root found : Path) : Prop :=
  match found.below? root with
  | some rest => Descends root.resolved rest
  | none => found.resolved.length = root.resolved.length + 1

instance (root found : Path) : Decidable (Direct root found) := by
  unfold Direct
  split <;> infer_instance

theorem exists_name (absolute : found.isAbsolute) (stands : files.isFile found) :
    ∃ above last, found.components = above ++ [.name last] := by
  obtain ⟨front, last, listed, named⟩ := FileSystem.last_of_isFile absolute stands
  refine ⟨.root :: front.filterMap Path.segmentComponent, last, ?_⟩
  rw [Path.components_of_isAbsolute absolute, steps, listed]
  simp [named]

variable {above rest : List Component} {last : String} {front : List String}

theorem key_of_outside {roots : List Path} (shape : found.components = above ++ [.name last])
    (outside : (roots.findSome? fun root => found.below? root) = none) : key roots found = (Path.splitName last).1 := by
  rw [key, outside]
  simp [Path.stem?, Path.fileName?, shape]

theorem key_eq_iff_of_outside (shape : found.components = above ++ [.name last])
    (plain : ∀ name ∈ front ++ [last], '/' ∉ name.toList) (same : found.resolved = root.resolved ++ (front ++ [last]))
    (outside : found.below? root = none) : key [root] found = ofList (stemmed (front ++ [last])) ↔
      found.resolved.length = root.resolved.length + 1 := by
  have named : key [root] found = ofList [(Path.splitName last).1] := by
    rw [Path.ofList_singleton]
    exact key_of_outside shape (by simp [outside])
  have alone : front = [] ↔ found.resolved.length = root.resolved.length + 1 := by
    rw [same, ← List.length_eq_zero_iff]
    simp only [List.length_append, List.length_singleton]
    omega
  rw [named, Path.stemmed_concat, ← alone]
  constructor
  · intro spelled
    have whole := Path.ofList_inj (fun name member => Path.plain_stemmed plain name (List.mem_append_right _ member))
      (Path.plain_stemmed plain) (by simp) (by simp) spelled
    simpa using whole.symm
  · rintro rfl
    rfl

theorem key_eq_iff_of_below (rooted : root.isAbsolute) (absolute : found.isAbsolute)
    (shape : found.components = above ++ [.name last]) (plain : ∀ name ∈ front ++ [last], '/' ∉ name.toList)
    (same : found.resolved = root.resolved ++ (front ++ [last])) (below : found.below? root = some rest) :
    key [root] found = ofList (stemmed (front ++ [last])) ↔ Descends root.resolved rest := by
  have whole : found.components = root.components ++ rest := Path.dropStart?_eq_some_iff.mp below
  have led : walk root.resolved rest = root.resolved ++ (front ++ [last]) := by
    rw [← same, Path.resolved, Path.resolved, whole, Path.walk_append]
  obtain ⟨inner, rfl⟩ : ∃ inner, rest = inner ++ [.name last] := by
    rcases List.eq_nil_or_concat rest with rfl | ⟨inner, component, rfl⟩
    · simp [walk] at led
    · rw [List.concat_eq_append] at whole ⊢
      rw [whole, ← List.append_assoc] at shape
      obtain ⟨-, one⟩ := List.append_inj' shape rfl
      exact ⟨inner, by rw [one]⟩
  have spelled : ∀ component ∈ inner ++ [.name last], component = .up ∨ ∃ value, component = .name value := by
    intro component member
    rw [Path.components_of_isAbsolute absolute, Path.components_of_isAbsolute rooted, List.cons_append] at whole
    exact Path.steps_spelled found component ((List.cons.inj whole).2 ▸ List.mem_append_right _ member)
  have names : namesOf (inner ++ [.name last]) = namesOf inner ++ [last] := Path.namesOf_append ..
  have plain' : ∀ name ∈ namesOf inner ++ [last], '/' ∉ name.toList := by
    intro name member
    rw [← names, Path.mem_namesOf] at member
    have listed : .name name ∈ found.components := whole ▸ List.mem_append_right _ member
    exact Path.notMem_of_mem_components listed
  have named : key [root] found = ofList (namesOf inner ++ [(Path.splitName last).1]) := by
    have read : key [root] found = Path.stripExtension (ofList (namesOf (inner ++ [.name last]))) := by
      simp [key, below, Path.slashed, namesOf]
    rw [read, names, Path.stripExtension_ofList plain' (by simp), Path.stemmed_concat]
  rw [named, Path.stemmed_concat, ← Path.walk_eq_names_iff spelled, led, names]
  constructor
  · intro one
    have one := Path.ofList_inj (Path.plain_stemmed plain') (Path.plain_stemmed plain) (by simp) (by simp) one
    rw [List.append_cancel_right one]
  · intro one
    rw [List.append_cancel_right (List.append_cancel_left one)]

/-- A path to a file has the file's key if and only if it is direct. -/
theorem key_eq_iff (rooted : root.isAbsolute) (absolute : found.isAbsolute) (stands : files.isFile found)
    (plain : ∀ name ∈ location, '/' ∉ name.toList) (inner : location ≠ [])
    (same : found.resolved = root.resolved ++ location) : key [root] found = ofList (stemmed location) ↔ Direct root found := by
  obtain ⟨above, last, shape⟩ := exists_name absolute stands
  obtain ⟨front, rfl⟩ : ∃ front, location = front ++ [last] := by
    rcases List.eq_nil_or_concat location with empty | ⟨front, name, listed⟩
    · exact absurd empty inner
    · rw [List.concat_eq_append] at listed
      rw [Path.resolved, shape, Path.walk_concat_name, listed, ← List.append_assoc] at same
      obtain ⟨-, one⟩ := List.append_inj' same rfl
      exact ⟨front, by rw [listed, one]⟩
  unfold Direct
  split
  next rest below => exact key_eq_iff_of_below rooted absolute shape plain same below
  next outside => exact key_eq_iff_of_outside shape plain same outside

end View

namespace Browser.Entries
open FileTree FileSystem

variable {entries after : Entries} {root : Path} {builds : List PlannedBuild}

/-- A lookup and the builds of the file that it finds agree on the key if and only if the path that is found is direct. -/
theorem key_of_found_iff {token : Nat → String} (rooted : root.isAbsolute)
    (created : entries.create token root = (.ok builds, after)) :
    ∃ prepared locations, Finds entries root builds prepared locations ∧
      ∀ files name defaultExtension found, View.lookup? files [root] name defaultExtension = some found →
        ∀ location ∈ locations, found.resolved = (pathBelow root location).resolved →
          ∀ build ∈ entries.buildsOf root (pathBelow root location), View.key [root] found = build.key ↔ View.Direct root found := by
  obtain ⟨prepared, locations, finds, -⟩ := create_finds created
  rw [Path.absolute_of_isAbsolute _ rooted] at finds
  refine ⟨prepared, locations, finds, fun files name defaultExtension found result location member same build planned => ?_⟩
  have view := (finds.views location).mp member
  obtain ⟨stands, absolute, -⟩ := View.lookup?_way (by simpa using rooted) result
  rw [Path.resolved_pathBelow view.validName] at same
  have plain : ∀ name ∈ location, '/' ∉ name.toList := fun name inside => (view.validName name inside).2.2.2.1
  have named : build.key = Path.ofList (Path.stemmed location) := by
    rw [key_of_mem_buildsOf planned, key_pathBelow view]
  rw [named]
  exact View.key_eq_iff rooted absolute stands plain view.inner same

/-- A view in a root beside a directory of other views. -/
def besideBlog : FileSystem :=
  match FileSystem.makeDirectory default { text := "views" } with
  | .ok files =>
    let files := (files.makeDirectory { text := "views/blog" }).toOption.getD files
    (files.write { text := "views/Page.svelte" } (.text "") false).toOption.getD files
  | .error _ => default

theorem create_besideBlog : ∃ builds after,
    (scratching besideBlog).create Wrapper.Store.countingToken { text := "/views" } = (.ok builds, after) ∧
      builds = (scratching besideBlog).buildsOf { text := "/views" } { text := "/views/Page.svelte" } := by
  have opens : (scratching besideBlog).prepare.2.files.Opens { text := "/views" } ["views"] :=
    ⟨by decide +kernel, by decide +kernel⟩
  obtain ⟨builds, created, planned⟩ := exists_created Wrapper.Store.countingToken
    [(["Page.svelte"], .file (.text "") false), (["blog"], .directory)] [{ text := "/views/Page.svelte" }] (by decide +kernel) (by decide +kernel) opens (by decide +kernel)
    (by decide +kernel) (by decide +kernel) (by decide +kernel) (by decide +kernel)
  exact ⟨builds, _, created, planned.trans (List.flatMap_singleton ..)⟩

/-- A name with dots and slashes to spare that goes nowhere else. -/
theorem idle_spelling_has_the_key : ∃ builds after found,
    (scratching besideBlog).create Wrapper.Store.countingToken { text := "/views" } = (.ok builds, after) ∧
      View.lookup? besideBlog [{ text := "/views" }] ".//Page" ".svelte" = some found ∧
      ∀ build ∈ builds, View.key [{ text := "/views" }] found = build.key := by
  obtain ⟨builds, after, created, planned⟩ := create_besideBlog
  have result : View.lookup? besideBlog [{ text := "/views" }] ".//Page" ".svelte" =
      some { text := "/views/.//Page.svelte" } := by decide +kernel
  obtain ⟨prepared, locations, finds, agree⟩ := key_of_found_iff (by decide +kernel) created
  have view : prepared.IsView { text := "/views" } ["Page.svelte"] := by
    obtain rfl : (scratching besideBlog).prepare.2 = prepared := by rw [finds.ready]
    exact ⟨["views"], .text "", false, ⟨by decide +kernel, by decide +kernel⟩, by decide +kernel, by decide +kernel,
      by decide +kernel⟩
  refine ⟨builds, after, _, created, result, fun build member => ?_⟩
  exact (agree _ _ _ _ result _ ((finds.views _).mpr view) (by decide +kernel) build (planned ▸ member)).mpr
    (by decide +kernel)

/-- A name that goes through a directory and out of it again leads to the same file, with a key that no build has. -/
theorem detour_has_another_key : ∃ builds after found,
    (scratching besideBlog).create Wrapper.Store.countingToken { text := "/views" } = (.ok builds, after) ∧
      View.lookup? besideBlog [{ text := "/views" }] "blog/../Page" ".svelte" = some found ∧
      found.resolved = Path.resolved { text := "/views/Page.svelte" } ∧
      builds = (scratching besideBlog).buildsOf { text := "/views" } { text := "/views/Page.svelte" } ∧
      ∀ build ∈ builds, View.key [{ text := "/views" }] found ≠ build.key := by
  obtain ⟨builds, after, created, planned⟩ := create_besideBlog
  refine ⟨builds, after, { text := "/views/blog/../Page.svelte" }, created, by decide +kernel, by decide +kernel, planned,
    fun build member => ?_⟩
  rw [planned] at member
  rw [key_of_mem_buildsOf member]
  decide +kernel

end Browser.Entries
end ComponentViews
