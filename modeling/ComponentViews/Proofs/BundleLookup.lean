import ComponentViews.Browser.Entries
import ComponentViews.Proofs.ManifestFiling

/-! The bundles of planned builds as a manifest finds them. Builds are named by the key of
their view and a suffix, the pattern turns the name into a file name, and the manifest
reads it back. Scripts are always found by their view; a stylesheet is looked for under
the bare key first, where another view may have filed its own. -/

namespace ComponentViews.FileSystem

/-- Empty files in one directory below the root. -/
def holding (directory : String) (names : List String) (valid : ∀ name ∈ directory :: names, FileTree.ValidName name)
    (distinct : names.Nodup) : FileSystem where
  tree := {
    entries := ([directory], .directory) :: names.map fun name => ([directory, name], .file (.text "") false)
    distinct := by
      simp only [List.map_cons, List.map_map, List.nodup_cons]
      exact ⟨by simp, List.pairwise_map.mpr (distinct.imp fun different same => different (by simpa using same))⟩
    placed := by
      rw [List.forall_mem_cons, List.forall_mem_map]
      refine ⟨⟨[], directory, rfl, valid _ (by simp), .inl rfl⟩, fun name member => ?_⟩
      exact ⟨[directory], name, rfl, valid _ (List.mem_cons_of_mem _ member), .inr (by simp)⟩ }
  workingDirectory := .standing []

theorem filesBelow_holding {directory : String} {names : List String}
    {valid : ∀ name ∈ directory :: names, FileTree.ValidName name} {distinct : names.Nodup}
    (reached : (holding directory names valid distinct).locate { text := directory } = .ok (.standing [directory])) :
    ∃ locations, (holding directory names valid distinct).filesBelow { text := directory } = .ok locations ∧
      locations.Perm (names.map ([·])) := by
  have stands : (holding directory names valid distinct).tree.get? [directory] = some .directory := by
    simp [FileTree.get?, holding]
  have inner : ((holding directory names valid distinct).tree.below [directory]).Perm
      (names.map fun name => ([name], .file (.text "") false)) := by
    refine (List.mergeSort_perm ..).trans (List.Perm.of_eq ?_)
    simp [holding, FileTree.relative?, List.filterMap_map, Function.comp_def]
  have below : (holding directory names valid distinct).below? { text := directory } =
      some ((holding directory names valid distinct).tree.below [directory]) := by
    simp only [below?, reached, stands, if_true]
  have opened : (holding directory names valid distinct).unopenable? { text := directory } = none := by
    have plain : ((holding directory names valid distinct).tree.below [directory]).filter (·.2 == .directory) = [] := by
      refine List.filter_eq_nil_iff.mpr fun entry member => ?_
      obtain ⟨name, -, rfl⟩ := List.mem_map.mp (inner.subset member)
      simp
    simp only [unopenable?, below, Option.getD_some, plain, List.map_nil, List.find?_nil]
  refine ⟨_, by simp only [filesBelow, opened, below, Option.getD_some]; rfl, ?_⟩
  refine (inner.filterMap _).trans (List.Perm.of_eq ?_)
  simp [List.filterMap_map, Function.comp_def]

end ComponentViews.FileSystem

namespace ComponentViews.Browser.Entries
open Bundle (Manifest Pattern Extension)
open Bundle.Manifest (add bundleFile lastSegment filing? filing?_bundleFile endsWith_of_filing? get?_foldl_add
  bundleFile_append lastSegment_append modernSuffix legacySuffix)

variable {entries : Entries} {keys : List String} {text : String} {pattern : Pattern} {hash : PlannedBuild → String}
  {extension : Extension} {builds : List PlannedBuild} {locations : List Location} {build : PlannedBuild}

/-- The build for modern or for older browsers that is planned for a key. -/
def buildFor (entries : Entries) (key : String) (legacy : Bool) : PlannedBuild :=
  entries.plan key (entries.inputFor key) legacy

/-- All builds that are planned for keys. -/
def planned (entries : Entries) (keys : List String) : List PlannedBuild :=
  keys.flatMap fun key => entries.plans key (entries.inputFor key)

/-- The file of one kind that a build emits, by the hash that it got. -/
def emitted (text : String) (hash : PlannedBuild → String) (extension : Extension) (build : PlannedBuild) : Location :=
  bundleFile text build.outputName (hash build) extension

/-- Of the files of one kind there are just those that builds emit. -/
def Holds (text : String) (hash : PlannedBuild → String) (extension : Extension) (builds : List PlannedBuild)
    (locations : List Location) : Prop :=
  ∀ location, location ∈ locations ∧ endsWith extension.text (location.getLastD "") ↔
    location ∈ builds.map (emitted text hash extension)

theorem holds_of_perm {listed : List Location} (perm : locations.Perm listed)
    (same : (listed.filter fun location => endsWith extension.text (location.getLastD "")).Perm
      (builds.map (emitted text hash extension))) : Holds text hash extension builds locations := by
  intro location
  rw [← same.mem_iff, List.mem_filter, perm.mem_iff]

theorem mem_planned : build ∈ entries.planned keys ↔
    ∃ key ∈ keys, build = entries.buildFor key false ∨ entries.legacy ∧ build = entries.buildFor key true := by
  simp only [planned, plans, buildFor, List.mem_flatMap, List.mem_cons]
  refine exists_congr fun key => and_congr_right fun _ => or_congr_right ?_
  by_cases legacy : entries.legacy <;> simp [legacy]

theorem modern_mem (entries : Entries) {key : String} (member : key ∈ keys) :
    entries.buildFor key false ∈ entries.planned keys := mem_planned.mpr ⟨key, member, .inl rfl⟩

theorem legacy_mem_iff {key : String} (member : key ∈ keys) :
    entries.buildFor key true ∈ entries.planned keys ↔ entries.legacy := by
  constructor
  · intro planned
    obtain ⟨other, -, same | ⟨legacy, -⟩⟩ := mem_planned.mp planned
    · cases congrArg PlannedBuild.legacy same
    · exact legacy
  · exact fun legacy => mem_planned.mpr ⟨key, member, .inr ⟨legacy, rfl⟩⟩

theorem toList_suffix (legacy : Bool) : (suffix legacy).toList =
    if legacy then ['-', 'l', 'e', 'g', 'a', 'c', 'y'] else ['-', 'm', 'o', 'd', 'e', 'r', 'n'] := by
  cases legacy <;> rfl

/-- The name of a build tells its view and its kind. -/
theorem outputName_inj {key other : String} {legacy legacy' : Bool}
    (same : (entries.buildFor key legacy).outputName = (entries.buildFor other legacy').outputName) :
    key = other ∧ legacy = legacy' := by
  have same : key.toList ++ (suffix legacy).toList = other.toList ++ (suffix legacy').toList := by
    simpa [buildFor, plan] using congrArg String.toList same
  rw [toList_suffix, toList_suffix] at same
  obtain ⟨keys, suffixes⟩ := List.append_inj' same (by cases legacy <;> cases legacy' <;> rfl)
  refine ⟨String.toList_inj.mp keys, ?_⟩
  cases legacy <;> cases legacy' <;> simp_all

theorem exists_buildFor (member : build ∈ entries.planned keys) : ∃ key legacy, build = entries.buildFor key legacy := by
  obtain ⟨key, -, modern | ⟨-, legacy⟩⟩ := mem_planned.mp member
  · exact ⟨key, false, modern⟩
  · exact ⟨key, true, legacy⟩

theorem eq_of_outputName {other : PlannedBuild} (member : build ∈ entries.planned keys)
    (member' : other ∈ entries.planned keys) (same : build.outputName = other.outputName) : build = other := by
  obtain ⟨key, legacy, rfl⟩ := exists_buildFor member
  obtain ⟨key', legacy', rfl⟩ := exists_buildFor member'
  obtain ⟨rfl, rfl⟩ := outputName_inj same
  rfl

theorem lastSegment_outputName (entries : Entries) (key : String) (legacy : Bool) :
    (lastSegment (entries.buildFor key legacy).outputName).toList = (lastSegment key).toList ++ (suffix legacy).toList := by
  have plain : '/' ∉ (suffix legacy).toList := by rw [toList_suffix]; cases legacy <;> decide
  rw [← String.toList_append]
  exact congrArg String.toList (lastSegment_append key plain)

/-- Whatever its key is, the last segment of a build's name is not empty. -/
theorem isName_outputName (entries : Entries) (key : String) (legacy : Bool) :
    Pattern.isName (lastSegment (entries.buildFor key legacy).outputName).toList ↔ '\n' ∉ (lastSegment key).toList := by
  rw [lastSegment_outputName, toList_suffix]
  cases legacy <;> simp [Pattern.isName]

section
variable (accepted : Pattern.ofText text = .ok pattern)
  (hashes : ∀ build ∈ entries.planned keys, Pattern.isHash (hash build).toList)
  (holds : Holds text hash extension (entries.planned keys) locations)
include accepted hashes holds

theorem filed_iff {location : Location} {key : String} :
    location ∈ locations ∧ filing? pattern location = some (extension, key) ↔ ∃ build ∈ entries.planned keys,
      location = emitted text hash extension build ∧ build.outputName = key ∧ Pattern.isName (lastSegment key).toList := by
  have filed : ∀ build ∈ entries.planned keys, filing? pattern (emitted text hash extension build) = some (extension, key) ↔
      build.outputName = key ∧ Pattern.isName (lastSegment key).toList := by
    intro build member
    rw [emitted, filing?_bundleFile accepted (hashes build member)]
    split
    next kept =>
      simp only [Option.some.injEq, Prod.mk.injEq, true_and]
      exact ⟨fun same => ⟨same, same ▸ kept⟩, fun found => found.1⟩
    next other =>
      simp only [reduceCtorEq, false_iff, not_and]
      exact fun same kept => other (same ▸ kept)
  constructor
  · rintro ⟨member, found⟩
    obtain ⟨build, planned, rfl⟩ := List.mem_map.mp ((holds location).mp ⟨member, endsWith_of_filing? found⟩)
    exact ⟨build, planned, rfl, (filed build planned).mp found⟩
  · rintro ⟨build, planned, rfl, named⟩
    exact ⟨((holds _).mpr (List.mem_map_of_mem planned)).1, (filed build planned).mpr named⟩

/-- A manifest has just the files of the builds, each under the build's name, as far as the names stay on one line. -/
theorem get?_shelf_eq_some_iff {key path : String} :
    ((locations.foldl (add pattern) .empty).shelf extension).get? key = some path ↔ ∃ build ∈ entries.planned keys,
      build.outputName = key ∧ Pattern.isName (lastSegment key).toList ∧
        path = Path.ofList (emitted text hash extension build) := by
  have empty : (Manifest.empty.shelf extension).get? key = none := by cases extension <;> rfl
  rw [get?_foldl_add, empty, Option.none_or, Option.map_eq_some_iff]
  constructor
  · rintro ⟨location, found, rfl⟩
    have member := List.mem_of_find?_eq_some found
    have filed := List.find?_some found
    obtain ⟨build, planned, rfl, same, named⟩ :=
      (filed_iff accepted hashes holds).mp ⟨member, of_decide_eq_true filed⟩
    exact ⟨build, planned, same, named, rfl⟩
  · rintro ⟨build, planned, same, named, rfl⟩
    obtain ⟨member, filed⟩ := (filed_iff accepted hashes holds).mpr ⟨build, planned, rfl, same, named⟩
    cases found : locations.find? fun location => filing? pattern location = some (extension, key) with
    | none => exact absurd (decide_eq_true filed) (List.find?_eq_none.mp found _ member)
    | some location =>
      -- Whatever comes first under the key has been emitted by a build of that name, of which there is one.
      have member' := List.mem_of_find?_eq_some found
      have filed' := List.find?_some found
      obtain ⟨other, planned', rfl, same', -⟩ :=
        (filed_iff accepted hashes holds).mp ⟨member', of_decide_eq_true filed'⟩
      rw [eq_of_outputName planned planned' (same.trans same'.symm)]
      exact ⟨_, rfl, rfl⟩

theorem get?_planned (member : build ∈ entries.planned keys) (named : Pattern.isName (lastSegment build.outputName).toList) :
    ((locations.foldl (add pattern) .empty).shelf extension).get? build.outputName =
      some (Path.ofList (emitted text hash extension build)) :=
  (get?_shelf_eq_some_iff accepted hashes holds).mpr ⟨build, member, rfl, named, rfl⟩

theorem get?_unplanned {key : String} (other : ∀ build ∈ entries.planned keys, build.outputName ≠ key) :
    ((locations.foldl (add pattern) .empty).shelf extension).get? key = none := by
  refine Option.eq_none_iff_forall_ne_some.mpr fun path found => ?_
  obtain ⟨build, member, same, -⟩ := (get?_shelf_eq_some_iff accepted hashes holds).mp found
  exact other build member same

end

theorem isName_of_planned (member : build ∈ entries.planned keys) (line : '\n' ∉ (lastSegment build.outputName).toList) :
    Pattern.isName (lastSegment build.outputName).toList := by
  obtain ⟨key, legacy, rfl⟩ := exists_buildFor member
  refine (isName_outputName ..).mpr fun broken => line ?_
  rw [lastSegment_outputName]
  exact List.mem_append_left _ broken

/-- A build that is named as a key is emits another file than the modern build of the key. -/
theorem emitted_ne {key : String} (accepted : Pattern.ofText text = .ok pattern)
    (valid : Pattern.isHash (hash build).toList) (valid' : Pattern.isHash (hash (entries.buildFor key false)).toList)
    (same : build.outputName = key) (named : Pattern.isName (lastSegment key).toList) :
    Path.ofList (emitted text hash extension build) ≠
      Path.ofList (emitted text hash extension (entries.buildFor key false)) := by
  intro equal
  have plain : '/' ∉ (suffix false).toList := by rw [toList_suffix]; decide
  have line : '\n' ∉ (lastSegment key).toList := fun broken => by simp [Pattern.isName, broken] at named
  have named' : Pattern.isName (lastSegment key ++ suffix false).toList := by
    rw [String.toList_append, ← lastSegment_outputName entries]
    exact (isName_outputName ..).mpr line
  have other : emitted text hash extension (entries.buildFor key false) = ({ text := key } : Path).segments.dropLast ++
      [Bundle.fileName text (lastSegment key ++ suffix false) (hash (entries.buildFor key false)) extension] :=
    bundleFile_append text key _ extension plain
  -- Both lie in one directory, so their names would be one.
  rw [other, emitted, same, bundleFile, Path.ofList_concat, Path.ofList_concat] at equal
  have names := Pattern.name_eq_of_fileName accepted valid valid' named named' (String.append_right_inj _ |>.mp equal)
  have lengths := congrArg (fun name => name.toList.length) names
  simp [toList_suffix] at lengths

theorem build_eq_ok {files : FileSystem} {directory : Path} (accepted : Pattern.ofText text = .ok pattern)
    (walked : files.filesBelow directory = .ok locations) :
    Manifest.build files [directory] text = .ok (locations.foldl (add pattern) .empty) := by
  have parsed : (Pattern.ofText text).mapError ViewError.configuration = .ok pattern := by rw [accepted]; rfl
  have listed : (files.filesBelow directory).mapError ViewError.io = .ok locations := by rw [walked]; rfl
  simp [Manifest.build, Manifest.ofDirectories, Manifest.addDirectory, parsed, listed, bind, Except.bind, pure, Except.pure]

/-- Every view gets the scripts of its own builds. The files of a bundle directory that end as scripts do are those that
the planned builds emit, each named by the pattern; keys may end as build names do. -/
theorem scripts_of_own_builds {files : FileSystem} {directory : Path} (accepted : Pattern.ofText text = .ok pattern)
    (lines : ∀ key ∈ keys, '\n' ∉ (lastSegment key).toList)
    (hashes : ∀ build ∈ entries.planned keys, Pattern.isHash (hash build).toList)
    (walked : files.filesBelow directory = .ok locations)
    (holds : Holds text hash .script (entries.planned keys) locations) :
    ∃ manifest, Manifest.build files [directory] text = .ok manifest ∧ ∀ key ∈ keys,
      manifest.modernScript? key = some (Path.ofList (emitted text hash .script (entries.buildFor key false))) ∧
      manifest.legacyScript? key =
        if entries.legacy then some (Path.ofList (emitted text hash .script (entries.buildFor key true))) else none := by
  refine ⟨_, build_eq_ok accepted walked, fun key member => ⟨?_, ?_⟩⟩
  · have named := (isName_outputName entries key false).mpr (lines key member)
    have found := get?_planned accepted hashes holds (modern_mem entries member) named
    exact Option.or_eq_some_iff.mpr (.inl found)
  · by_cases legacy : entries.legacy
    · have named := (isName_outputName entries key true).mpr (lines key member)
      have found := get?_planned accepted hashes holds ((legacy_mem_iff member).mpr legacy) named
      rw [if_pos legacy]
      exact found
    · have other : ∀ build ∈ entries.planned keys, build.outputName ≠ (entries.buildFor key true).outputName := by
        intro build planned same
        obtain ⟨view, -, rfl | ⟨wanted, -⟩⟩ := mem_planned.mp planned
        · cases (outputName_inj same).2
        · exact legacy wanted
      rw [if_neg legacy]
      exact get?_unplanned accepted hashes holds other

theorem eq_ok_of_toOption {ε α : Type} {result : Except ε α} {value : α} (found : result.toOption = some value) :
    result = .ok value := by
  cases result <;> simp_all [Except.toOption]

theorem ofText_default : Pattern.ofText Pattern.defaultText = .ok { front := [], back := [.char '-', .hash] } :=
  eq_ok_of_toOption (by decide +kernel)

/-- Entries for production builds. -/
def production (legacy : Bool) : Entries := .new default { text := "scratch" } ".svelte" (.forEnv "production") legacy none

/-- One hash for the builds of each kind. -/
def hashOfKind (build : PlannedBuild) : String := if build.legacy then "1e9ac4de" else "5cd0a7e1"

theorem isHash_hashOfKind (build : PlannedBuild) : Pattern.isHash (hashOfKind build).toList := by
  unfold hashOfKind
  split <;> decide +kernel

/-- The bundles of two views, one of them named as a build of the other is, and other files. -/
def postFiles : FileSystem := .holding "dist" [
  "Post-modern-5cd0a7e1.js", "Post-legacy-1e9ac4de.js", "Post-modern-modern-5cd0a7e1.js",
  "Post-modern-legacy-1e9ac4de.js", "Post-modern-5cd0a7e1.css", "Post-modern-modern-5cd0a7e1.css", "notes.txt"]
  (by decide +kernel) (by decide +kernel)

theorem locate_postFiles : postFiles.locate { text := "dist" } = .ok (.standing ["dist"]) :=
  eq_ok_of_toOption (by decide +kernel)

theorem scripts_of_suffixed_keys : ∃ manifest,
    Manifest.build postFiles [{ text := "dist" }] Pattern.defaultText = .ok manifest ∧
      ∀ key ∈ ["Post", "Post-modern"],
        manifest.modernScript? key = some (key ++ "-modern-5cd0a7e1.js") ∧
        manifest.legacyScript? key = some (key ++ "-legacy-1e9ac4de.js") := by
  obtain ⟨locations, walked, listed⟩ := FileSystem.filesBelow_holding locate_postFiles
  have holds : Holds Pattern.defaultText hashOfKind .script ((production true).planned ["Post", "Post-modern"])
      locations := holds_of_perm listed (by decide +kernel)
  obtain ⟨manifest, built, found⟩ := scripts_of_own_builds ofText_default (by decide +kernel)
    (fun build _ => isHash_hashOfKind build) walked holds
  have emits : ∀ key ∈ ["Post", "Post-modern"],
      Path.ofList (emitted Pattern.defaultText hashOfKind .script ((production true).buildFor key false)) =
          key ++ "-modern-5cd0a7e1.js" ∧
      Path.ofList (emitted Pattern.defaultText hashOfKind .script ((production true).buildFor key true)) =
          key ++ "-legacy-1e9ac4de.js" := by decide +kernel
  refine ⟨manifest, built, fun key member => ?_⟩
  rw [← (emits key member).1, ← (emits key member).2]
  exact found key member

/-- A view gets the stylesheet of its own modern build if and only if its key stays on one line and no build is named as
the key is. Where a build of another view is, the view gets the stylesheet of that build. -/
theorem stylesheet_of_own_build_iff {files : FileSystem} {directory : Path} (accepted : Pattern.ofText text = .ok pattern)
    (hashes : ∀ build ∈ entries.planned keys, Pattern.isHash (hash build).toList)
    (walked : files.filesBelow directory = .ok locations)
    (holds : Holds text hash .style (entries.planned keys) locations) :
    ∃ manifest, Manifest.build files [directory] text = .ok manifest ∧ ∀ key ∈ keys,
      (manifest.viewStyle? key = some (Path.ofList (emitted text hash .style (entries.buildFor key false))) ↔
        '\n' ∉ (lastSegment key).toList ∧ ∀ build ∈ entries.planned keys, build.outputName ≠ key) ∧
      ∀ build ∈ entries.planned keys, build.outputName = key → '\n' ∉ (lastSegment key).toList →
        manifest.viewStyle? key = some (Path.ofList (emitted text hash .style build)) := by
  have namesake : ∀ build ∈ entries.planned keys, '\n' ∉ (lastSegment build.outputName).toList →
      (locations.foldl (add pattern) .empty).viewStyle? build.outputName =
        some (Path.ofList (emitted text hash .style build)) := by
    intro build planned line
    have found := get?_planned accepted hashes holds planned (isName_of_planned planned line)
    exact Option.or_eq_some_iff.mpr (.inl found)
  refine ⟨_, build_eq_ok accepted walked, fun key member => ⟨⟨fun own => ?_, ?_⟩, ?_⟩⟩
  · have line : '\n' ∉ (lastSegment key).toList := by
      rcases Option.or_eq_some_iff.mp own with own | ⟨-, own⟩
      · obtain ⟨_, -, -, named, -⟩ := (get?_shelf_eq_some_iff accepted hashes holds).mp own
        simp only [Pattern.isName, decide_eq_true_eq] at named
        exact named.2
      · obtain ⟨_, -, -, named, -⟩ := (get?_shelf_eq_some_iff accepted hashes holds).mp own
        exact (isName_outputName entries key false).mp named
    refine ⟨line, ?_⟩
    rintro build planned rfl
    rw [namesake build planned line, Option.some.injEq] at own
    exact emitted_ne accepted (hashes build planned) (hashes _ (modern_mem entries member)) rfl
      (isName_of_planned planned line) own
  · rintro ⟨line, other⟩
    have named := (isName_outputName entries key false).mpr line
    have found := get?_planned accepted hashes holds (modern_mem entries member) named
    have free := get?_unplanned accepted hashes holds other
    exact Option.or_eq_some_iff.mpr (.inr ⟨free, found⟩)
  · rintro build planned rfl line
    exact namesake build planned line

theorem stylesheets_of_suffixed_keys : ∃ manifest,
    Manifest.build postFiles [{ text := "dist" }] Pattern.defaultText = .ok manifest ∧
      manifest.viewStyle? "Post" = some "Post-modern-5cd0a7e1.css" ∧
      manifest.viewStyle? "Post-modern" = some "Post-modern-5cd0a7e1.css" := by
  obtain ⟨locations, walked, listed⟩ := FileSystem.filesBelow_holding locate_postFiles
  have holds : Holds Pattern.defaultText hashOfKind .style ((production false).planned ["Post", "Post-modern"])
      locations := holds_of_perm listed (by decide +kernel)
  obtain ⟨manifest, built, found⟩ := stylesheet_of_own_build_iff ofText_default (fun build _ => isHash_hashOfKind build)
    walked holds
  have emits : Path.ofList (emitted Pattern.defaultText hashOfKind .style ((production false).buildFor "Post" false)) =
      "Post-modern-5cd0a7e1.css" := by decide +kernel
  refine ⟨manifest, built, ?_, ?_⟩
  · rw [← emits]
    exact (found "Post" (by simp)).1.mpr (by decide +kernel)
  · rw [← emits]
    exact (found "Post-modern" (by simp)).2 _ (modern_mem _ (by simp)) (by decide +kernel) (by decide +kernel)

/-- Of two views, one named as the modern build of the other is, both get the stylesheet of that build. -/
theorem stylesheet_of_another_view : ∃ locations manifest,
    postFiles.filesBelow { text := "dist" } = .ok locations ∧
    Holds Pattern.defaultText hashOfKind .style ((production false).planned ["Post", "Post-modern"]) locations ∧
    Manifest.build postFiles [{ text := "dist" }] Pattern.defaultText = .ok manifest ∧
    manifest.viewStyle? "Post-modern" = some "Post-modern-5cd0a7e1.css" ∧
    Path.ofList (emitted Pattern.defaultText hashOfKind .style ((production false).buildFor "Post-modern" false)) =
      "Post-modern-modern-5cd0a7e1.css" := by
  obtain ⟨locations, walked, listed⟩ := FileSystem.filesBelow_holding locate_postFiles
  have holds : Holds Pattern.defaultText hashOfKind .style ((production false).planned ["Post", "Post-modern"])
      locations := holds_of_perm listed (by decide +kernel)
  refine ⟨locations, _, walked, holds, build_eq_ok ofText_default walked, ?_, by decide +kernel⟩
  have found := get?_planned ofText_default (fun build _ => isHash_hashOfKind build) holds
    (modern_mem (production false) (show "Post" ∈ ["Post", "Post-modern"] by simp)) (by decide +kernel)
  exact Option.or_eq_some_iff.mpr (.inl (found.trans (by decide +kernel)))

end ComponentViews.Browser.Entries
