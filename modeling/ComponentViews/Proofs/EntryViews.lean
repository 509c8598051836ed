import ComponentViews.Browser.Entries
import ComponentViews.Proofs.FileEffects
import ComponentViews.Proofs.ManifestFiling
import ComponentViews.Proofs.PathComponents

/-! The views that entries are written for: the files below a directory by the end of their
names, each with a key that is its location with the stem of its last name. -/

namespace ComponentViews

namespace Path
open FileTree

variable {directory : Path} {location other : Location}

theorem components_pathBelow (valid : ∀ name ∈ location, ValidName name) :
    (FileSystem.pathBelow directory location).components = directory.components ++ location.map .name := by
  induction location generalizing directory with
  | nil => simp [FileSystem.pathBelow]
  | cons name rest ih =>
    have below : FileSystem.pathBelow directory (name :: rest) = FileSystem.pathBelow (directory / name) rest := rfl
    rw [below, ih fun other member => valid other (.tail _ member), components_div (valid name List.mem_cons_self)]
    simp

theorem resolved_pathBelow (valid : ∀ name ∈ location, ValidName name) :
    (FileSystem.pathBelow directory location).resolved = directory.resolved ++ location := by
  rw [resolved, components_pathBelow valid, walk_append, walk_names, resolved]

theorem pathBelow_inj (valid : ∀ name ∈ location, ValidName name) (valid' : ∀ name ∈ other, ValidName name)
    (same : (FileSystem.pathBelow directory location).components = (FileSystem.pathBelow directory other).components) :
    location = other := by
  rw [components_pathBelow valid, components_pathBelow valid'] at same
  exact (List.map_inj_right fun _ _ => Component.name.inj).mp (List.append_cancel_left same)

theorem dropStart?_append {α : Type} [DecidableEq α] (start rest : List α) : dropStart? start (start ++ rest) = some rest := by
  induction start with
  | nil => rfl
  | cons a start ih => simp [dropStart?, ih]

theorem dropStart?_eq_some_iff {α : Type} [DecidableEq α] {start whole rest : List α} :
    dropStart? start whole = some rest ↔ whole = start ++ rest := by
  constructor
  · intro dropped
    induction start generalizing whole with
    | nil => exact Option.some.inj dropped
    | cons a start ih => cases whole <;> grind [dropStart?]
  · rintro rfl
    exact dropStart?_append ..

/-- A location with the stem of its last name in the stead of the name. -/
def stemmed (location : Location) : Location := location.dropLast ++ [(splitName (location.getLastD "")).1]

theorem stemmed_concat (front : List String) (last : String) : stemmed (front ++ [last]) = front ++ [(splitName last).1] := by
  rw [stemmed, List.dropLast_concat, List.getLastD_concat]

theorem plain_stemmed {front : List String} {last : String} (plain : ∀ name ∈ front ++ [last], '/' ∉ name.toList) :
    ∀ name ∈ front ++ [(splitName last).1], '/' ∉ name.toList := by
  intro name member
  rcases List.mem_append.mp member with member | member
  · exact plain name (List.mem_append_left _ member)
  · exact List.mem_singleton.mp member ▸ notMem_stem (plain last (by simp))

theorem slashed_names (names : List String) : slashed (names.map .name) = ofList names := by
  simp [slashed, List.filterMap_map, Function.comp_def, Component.name?]

theorem ofList_inj {first second : List String} (plain : ∀ segment ∈ first, '/' ∉ segment.toList)
    (plain' : ∀ segment ∈ second, '/' ∉ segment.toList) (inner : first ≠ []) (inner' : second ≠ [])
    (same : ofList first = ofList second) : first = second := by
  rw [← segments_ofList plain inner, same, segments_ofList plain' inner']

theorem stripExtension_of_segments {text last : String} {names : List String}
    (shape : ({ text } : Path).segments = names ++ [last]) : stripExtension text = ofList (names ++ [(splitName last).1]) := by
  obtain ⟨front, chars, listed, rfl, same⟩ := List.map_eq_append_iff.mp shape
  obtain ⟨chars, rfl, rfl⟩ := List.map_eq_singleton_iff.mp same
  simp [stripExtension, listed]

/-- The key of a location without its extension. -/
theorem stripExtension_ofList (plain : ∀ segment ∈ location, '/' ∉ segment.toList) (inner : location ≠ []) :
    stripExtension (ofList location) = ofList (stemmed location) := by
  have spelled : ({ text := ofList location } : Path).segments = location := segments_ofList plain inner
  rcases List.eq_nil_or_concat location with rfl | ⟨front, last, rfl⟩
  · exact absurd rfl inner
  · rw [List.concat_eq_append] at spelled ⊢
    rw [stripExtension_of_segments spelled, stemmed_concat]

end Path

namespace Browser.Entries
open FileTree FileSystem

variable {entries prepared after : Entries} {directory : Path} {views : List Path} {location : Location}

/-- A file that an entry is written for lies below the directory and is named with the ending of views. -/
def IsView (entries : Entries) (directory : Path) (location : Location) : Prop :=
  ∃ top content executable, entries.files.Opens directory top ∧ location ≠ [] ∧
    entries.files.tree.get? (top ++ location) = some (.file content executable) ∧
    endsWith entries.extension (location.getLastD "")

theorem validName_of_get?_append {tree : FileTree} {top : Location} {entry : Entry}
    (stands : tree.get? (top ++ location) = some entry) : ∀ name ∈ location, ValidName name := by
  intro name member
  obtain ⟨front, rest, rfl⟩ := List.append_of_mem member
  have reached : ∃ entry, tree.get? (top ++ front ++ [name]) = some entry := by
    by_cases last : rest = []
    · exact ⟨_, by simpa [last] using stands⟩
    · have below : tree.get? (top ++ front ++ [name] ++ rest) = some entry := by
        simpa using stands
      exact ⟨.directory, get?_above below last⟩
  obtain ⟨entry, found⟩ := reached
  exact validName_of_get? found

theorem IsView.validName (view : entries.IsView directory location) : ∀ name ∈ location, ValidName name := by
  obtain ⟨top, content, executable, -, -, stands, -⟩ := view
  exact validName_of_get?_append stands

/-- What lies below a directory, if it can be opened. -/
theorem mem_below?_iff {files : FileSystem} {entry : Entry} : (location, entry) ∈ (files.below? directory).getD [] ↔
    ∃ top, files.Opens directory top ∧ location ≠ [] ∧ files.tree.get? (top ++ location) = some entry := by
  unfold below?
  cases led : files.locate directory with
  | error denial => simp [Opens, led]
  | ok target =>
    cases target with
    | removed top => simp [Opens, led]
    | standing top =>
      by_cases listed : files.tree.get? top = some .directory
      · simp [Opens, led, listed, mem_below_iff, eq_comm]
      · have closed : ∀ other, ¬ files.Opens directory other := by
          rintro other ⟨led', listed'⟩
          cases led.symm.trans led'
          exact listed listed'
        simp [listed, closed]

theorem nodup_below? (files : FileSystem) (directory : Path) : (((files.below? directory).getD []).map Prod.fst).Nodup := by
  unfold below?
  split
  · split
    · exact nodup_below ..
    · exact .nil
  · exact .nil
  · exact .nil

/-- The files below a directory, each once. -/
theorem filesBelow_eq_ok {files : FileSystem} {locations : List Location} (walked : files.filesBelow directory = .ok locations) :
    locations.Nodup ∧ ∀ location, location ∈ locations ↔ ∃ top content executable, files.Opens directory top ∧
      location ≠ [] ∧ files.tree.get? (top ++ location) = some (.file content executable) := by
  unfold filesBelow at walked
  split at walked
  · cases walked
  next =>
    cases walked
    refine ⟨?_, fun location => ?_⟩
    · refine List.Pairwise.filterMap _ ?_ (List.pairwise_map.mp (nodup_below? files directory))
      rintro ⟨first, entry⟩ ⟨second, entry'⟩ different _ shown _ shown' rfl
      cases entry <;> cases entry' <;> grind
    · simp only [List.mem_filterMap]
      constructor
      · rintro ⟨⟨other, entry⟩, member, shown⟩
        cases entry with
        | directory => cases shown
        | file content executable =>
          cases shown
          obtain ⟨top, opens, inner, stands⟩ := mem_below?_iff.mp member
          exact ⟨top, content, executable, opens, inner, stands⟩
      · rintro ⟨top, content, executable, opens, inner, stands⟩
        exact ⟨(location, .file content executable), mem_below?_iff.mpr ⟨top, opens, inner, stands⟩, rfl⟩

/-- The views that are walked are the files with the ending, each once. -/
theorem views_eq_ok (walked : entries.views directory = .ok views) :
    ∃ locations : List Location, views = locations.map (pathBelow directory) ∧ locations.Nodup ∧
      ∀ location, location ∈ locations ↔ entries.IsView directory location := by
  unfold Entries.views at walked
  cases listed : entries.files.filesBelow directory with
  | error path => simp [listed, Except.mapError, bind, Except.bind] at walked
  | ok locations =>
    simp only [listed, Except.mapError, bind, Except.bind, pure, Except.pure, Except.ok.injEq] at walked
    obtain ⟨distinct, members⟩ := filesBelow_eq_ok listed
    refine ⟨_, walked.symm, distinct.filter _, fun location => ?_⟩
    rw [List.mem_filter, members]
    constructor
    · rintro ⟨⟨top, content, executable, opens, inner, stands⟩, ends⟩
      exact ⟨top, content, executable, opens, inner, stands, ends⟩
    · rintro ⟨top, content, executable, opens, inner, stands, ends⟩
      exact ⟨⟨top, content, executable, opens, inner, stands⟩, ends⟩

theorem IsView.inner (view : entries.IsView directory location) : location ≠ [] := by
  obtain ⟨_, _, _, _, inner, _⟩ := view
  exact inner

/-- The key of a view is its location with the stem of its name. -/
theorem key_pathBelow (view : entries.IsView directory location) :
    View.key [directory] (pathBelow directory location) = Path.ofList (Path.stemmed location) := by
  have below : (pathBelow directory location).below? directory = some (location.map .name) := by
    rw [Path.below?, Path.components_pathBelow view.validName, Path.dropStart?_append]
  have plain : ∀ segment ∈ location, '/' ∉ segment.toList := fun name member => (view.validName name member).2.2.2.1
  simp only [View.key, List.findSome?_singleton, below, Path.slashed_names, Path.stripExtension_ofList plain view.inner]

/-- Empties the scratch directory and forgets the wrappers of earlier runs. -/
def prepare (entries : Entries) : Except ViewError Unit × Entries :=
  match entries.discard with
  | (.error error, entries) => (.error error, entries)
  | (.ok (), entries) =>
    match entries.wrappers.reset with
    | (.error error, wrappers) => (.error error, { entries with wrappers })
    | (.ok (), wrappers) => (.ok (), { entries with wrappers })

/-- What all steps of a run leave as it is. -/
structure SameSetting (before after : Entries) : Prop where
  directory : after.directory = before.directory
  extension : after.extension = before.extension
  options : after.options = before.options
  legacy : after.legacy = before.legacy

theorem SameSetting.trans {middle : Entries} (first : SameSetting entries middle) (last : SameSetting middle after) :
    SameSetting entries after :=
  ⟨last.directory.trans first.directory, last.extension.trans first.extension, last.options.trans first.options,
    last.legacy.trans first.legacy⟩

theorem prepare_setting (entries : Entries) : SameSetting entries entries.prepare.2 := by
  have discarded : SameSetting entries entries.discard.2 := by
    unfold discard
    split <;> exact ⟨rfl, rfl, rfl, rfl⟩
  unfold prepare
  split
  next stopped => rw [stopped] at discarded; exact discarded
  next ready =>
    rw [ready] at discarded
    split <;> exact discarded.trans ⟨rfl, rfl, rfl, rfl⟩

/-- A run prepares, walks and adds the views that it has found. -/
theorem create_eq (token : Nat → String) (viewsDirectory : Path) (entries : Entries) : entries.create token viewsDirectory =
    match entries.prepare with
    | (.error error, prepared) => (.error error, prepared)
    | (.ok (), prepared) =>
      match prepared.views (entries.files.absolute viewsDirectory) with
      | .error error => (.error error, prepared)
      | .ok views => addViews token (entries.files.absolute viewsDirectory) views prepared := by
  unfold create prepare
  rcases entries.discard with ⟨_ | _, discarded⟩
  · rfl
  · simp only
    rcases discarded.wrappers.reset with ⟨_ | _, wrappers⟩ <;> rfl

theorem create_eq_ok {token : Nat → String} {viewsDirectory : Path} {builds : List PlannedBuild}
    (created : entries.create token viewsDirectory = (.ok builds, after)) : ∃ prepared views,
    entries.prepare = (.ok (), prepared) ∧ prepared.views (entries.files.absolute viewsDirectory) = .ok views ∧
      addViews token (entries.files.absolute viewsDirectory) views prepared = (.ok builds, after) := by
  rw [create_eq] at created
  split at created
  · cases created
  next prepared ready =>
    split at created
    · cases created
    next views walked => exact ⟨prepared, views, ready, walked, created⟩

/-- What adding a view does: it is wrapped, and its script is written where there is a directory for it by then. -/
structure Adds (token : Nat → String) (directory view wrapper : Path) (before after : Entries) : Prop where
  setting : SameSetting before after
  writes : ∃ store made files, before.wrappers.create token view = (.ok wrapper, store) ∧ Grows store.files made ∧
    made.write (before.inputFor (View.key [directory] view)) (.text (source wrapper)) false = .ok files ∧
    after.wrappers = { store with files }

theorem makeParent_ok {file : Path} (made : entries.makeParent file = (.ok (), after)) :
    ∃ files, Grows entries.files files ∧ after = entries.withFiles files := by
  unfold makeParent at made
  split at made
  · cases made
    exact ⟨entries.files, .refl _, rfl⟩
  next parent _ =>
    have grows := makeDirectories_grows entries.files parent
    split at made
    · cases made
    next files reached =>
      cases made
      rw [reached] at grows
      exact ⟨files, grows, rfl⟩

/-- The builds that are planned for a view. -/
def buildsOf (entries : Entries) (directory view : Path) : List PlannedBuild :=
  entries.plans (View.key [directory] view) (entries.inputFor (View.key [directory] view))

theorem addView_eq_ok {token : Nat → String} {view : Path} {builds : List PlannedBuild}
    (added : entries.addView token directory view = (.ok builds, after)) :
    builds = entries.buildsOf directory view ∧ ∃ wrapper, Adds token directory view wrapper entries after := by
  unfold addView at added
  rcases wrapped : entries.wrappers.create token view with ⟨outcome, store⟩
  cases outcome with
  | error error => simp [wrapped] at added
  | ok wrapper =>
    simp only [wrapped] at added
    split at added
    · cases added
    next written entered =>
      cases added
      unfold writeEntry at entered
      split at entered
      · cases entered
      next under parented =>
        obtain ⟨made, grows, rfl⟩ := makeParent_ok parented
        split at entered
        · cases entered
        next files stored =>
          cases entered
          exact ⟨rfl, wrapper, ⟨rfl, rfl, rfl, rfl⟩, store, made, files, wrapped, grows, stored, rfl⟩

/-- A run takes up the first view and then the others. -/
theorem addViews_cons_eq_ok {token : Nat → String} {view : Path} {builds : List PlannedBuild}
    (added : addViews token directory (view :: views) entries = (.ok builds, after)) :
    ∃ wrapper middle later, Adds token directory view wrapper entries middle ∧
      addViews token directory views middle = (.ok later, after) ∧ builds = entries.buildsOf directory view ++ later := by
  rw [addViews] at added
  split at added
  · cases added
  next first middle entered =>
    split at added
    · cases added
    next later last more =>
      cases added
      obtain ⟨rfl, wrapper, adds⟩ := addView_eq_ok entered
      exact ⟨wrapper, middle, later, adds, more, rfl⟩

theorem inputFor_congr (same : SameSetting entries after) : after.inputFor = entries.inputFor := by
  funext key
  rw [inputFor, inputFor, same.directory]

theorem buildsOf_congr (same : SameSetting entries after) : after.buildsOf directory = entries.buildsOf directory := by
  funext view
  simp only [buildsOf, plans, plan, inputFor, same.directory, same.options, same.legacy]

theorem key_of_mem_buildsOf {view : Path} {build : PlannedBuild} (planned : build ∈ entries.buildsOf directory view) :
    build.key = View.key [directory] view := by
  unfold buildsOf plans at planned
  split at planned <;> simp at planned <;> grind [plan]

/-- The planned builds are those of the keys of the views. -/
theorem addViews_builds {token : Nat → String} {builds : List PlannedBuild}
    (added : addViews token directory views entries = (.ok builds, after)) :
    SameSetting entries after ∧ builds = views.flatMap (entries.buildsOf directory) := by
  induction views generalizing entries builds with
  | nil => cases added; exact ⟨⟨rfl, rfl, rfl, rfl⟩, rfl⟩
  | cons view rest ih =>
    obtain ⟨wrapper, middle, later, adds, more, rfl⟩ := addViews_cons_eq_ok added
    obtain ⟨setting, rfl⟩ := ih more
    exact ⟨adds.setting.trans setting, by rw [buildsOf_congr adds.setting, List.flatMap_cons]⟩

/-- The locations that a run has found below a directory, and the builds that it has planned for each of them. -/
structure Finds (entries : Entries) (directory : Path) (builds : List PlannedBuild) (prepared : Entries)
    (locations : List Location) : Prop where
  ready : entries.prepare = (.ok (), prepared)
  distinct : locations.Nodup
  views : ∀ location, location ∈ locations ↔ prepared.IsView directory location
  builds : builds = (locations.map (pathBelow directory)).flatMap (entries.buildsOf directory)

theorem create_finds {token : Nat → String} {viewsDirectory : Path} {builds : List PlannedBuild}
    (created : entries.create token viewsDirectory = (.ok builds, after)) : ∃ prepared locations,
    Finds entries (entries.files.absolute viewsDirectory) builds prepared locations ∧
      addViews token (entries.files.absolute viewsDirectory)
        (locations.map (pathBelow (entries.files.absolute viewsDirectory))) prepared = (.ok builds, after) := by
  obtain ⟨prepared, views, ready, walked, added⟩ := create_eq_ok created
  obtain ⟨locations, rfl, distinct, members⟩ := views_eq_ok walked
  obtain ⟨-, planned⟩ := addViews_builds added
  have setting : SameSetting entries prepared := by simpa only [ready] using prepare_setting entries
  exact ⟨prepared, locations, ⟨ready, distinct, members, by rw [planned, buildsOf_congr setting]⟩, added⟩

/-- What a walk finds where the entries of the tree stand in order. -/
theorem filesBelow_of_sorted {files : FileSystem} {top : Location} {listed : List (Location × Entry)}
    (opens : files.Opens directory top)
    (shape : (files.tree.entries.filterMap fun entry => (relative? top entry.1).map (·, entry.2)) = listed)
    (sorted : listed.Pairwise fun left right => precedes left.1 right.1)
    (short : (((listed.filter fun entry => entry.2 == .directory).map fun entry => pathBelow directory entry.1).find?
      fun path => path.text.utf8ByteSize > greatestPathSize) = none) :
    files.filesBelow directory = .ok (listed.filterMap fun (location, entry) =>
      match entry with
      | .file _ _ => some location
      | .directory => none) := by
  have below : files.tree.below top = listed := by
    rw [FileTree.below, shape]
    exact List.mergeSort_of_pairwise sorted
  have found : files.below? directory = some listed := by simp only [below?, opens.1, opens.2, if_true, below]
  have opened : files.unopenable? directory = none := by rw [unopenable?, found]; exact short
  unfold filesBelow
  split
  next refused => rw [opened] at refused; cases refused
  next => exact found ▸ rfl

/-- A run succeeds where the views that it walks can be added. -/
theorem exists_created {top : Location} (token : Nat → String) (listed : List (Location × Entry)) (views : List Path)
    (rooted : directory.isAbsolute) (ready : entries.prepare.1.toBool) (opens : entries.prepare.2.files.Opens directory top)
    (shape : (entries.prepare.2.files.tree.entries.filterMap fun entry => (relative? top entry.1).map (·, entry.2)) = listed)
    (sorted : listed.Pairwise fun left right => precedes left.1 right.1)
    (short : (((listed.filter fun entry => entry.2 == .directory).map fun entry => pathBelow directory entry.1).find?
      fun path => path.text.utf8ByteSize > greatestPathSize) = none)
    (named : ((listed.filterMap fun (location, entry) =>
      match entry with
      | .file _ _ => some location
      | .directory => none).filter fun location => endsWith entries.prepare.2.extension (location.getLastD "")).map
        (pathBelow directory) = views)
    (added : (addViews token directory views entries.prepare.2).1.toBool) : ∃ builds,
    entries.create token directory = (.ok builds, (addViews token directory views entries.prepare.2).2) ∧
      builds = views.flatMap (entries.buildsOf directory) := by
  have walked : entries.prepare.2.views directory = .ok views := by
    rw [Entries.views, filesBelow_of_sorted opens shape sorted short, ← named]
    rfl
  have setting := prepare_setting entries
  rw [create_eq, Path.absolute_of_isAbsolute _ rooted]
  rcases prepared : entries.prepare with ⟨_ | _, middle⟩
  · simp [prepared, Except.toBool] at ready
  · rw [prepared] at walked added setting
    simp only [walked]
    rcases done : addViews token directory views middle with ⟨_ | builds, after⟩
    · simp [done, Except.toBool] at added
    · exact ⟨builds, rfl, by rw [(addViews_builds done).2, buildsOf_congr setting]⟩

/-- Entries for the views of a file tree, with the ending of views. -/
def scratching (files : FileSystem) : Entries :=
  .new files { text := "scratch" } ".svelte" (.forEnv "production") false none

end Browser.Entries
end ComponentViews
