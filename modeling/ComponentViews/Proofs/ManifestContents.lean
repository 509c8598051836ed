import ComponentViews.Proofs.BundleLookup
import ComponentViews.Proofs.PatternTexts
import ComponentViews.Proofs.WalkOrder

/-! What a manifest holds of the files that it is built from. Each file has a place, of
the files with one place the first directory's least counts, and none is lost. -/

namespace ComponentViews

namespace FileSystem
open FileTree Browser.Entries

variable {files : FileSystem} {directory : Path} {location : Location}

/-- A regular file below a directory, if that can be opened. -/
def HasFile (files : FileSystem) (directory : Path) (location : Location) : Prop :=
  ∃ top content executable, files.Opens directory top ∧ location ≠ [] ∧
    files.tree.get? (top ++ location) = some (.file content executable)

/-- No directory on the way has a path that is too long to open it by. -/
def Walkable (files : FileSystem) (directory : Path) : Prop :=
  ∀ top inner, files.Opens directory top → inner ≠ [] → files.tree.get? (top ++ inner) = some .directory →
    (pathBelow directory inner).text.utf8ByteSize ≤ greatestPathSize

/-- The files that a walk finds, in its order. -/
def walked (files : FileSystem) (directory : Path) : List Location := (files.filesBelow directory).toOption.getD []

theorem HasFile.inner (has : files.HasFile directory location) : location ≠ [] := by
  obtain ⟨_, _, _, -, inner, -⟩ := has
  exact inner

theorem HasFile.plain (has : files.HasFile directory location) : ∀ name ∈ location, '/' ∉ name.toList := by
  obtain ⟨top, content, executable, -, -, stands⟩ := has
  exact fun name member => (validName_of_get?_append stands name member).2.2.2.1

theorem unopenable?_eq_none_iff : files.unopenable? directory = none ↔ files.Walkable directory := by
  simp only [unopenable?, List.find?_eq_none, List.mem_map, List.mem_filter, beq_iff_eq, decide_eq_true_eq, Nat.not_lt]
  constructor
  · intro short top inner opens below stands
    exact short _ ⟨(inner, .directory), ⟨mem_below?_iff.mpr ⟨top, opens, below, stands⟩, rfl⟩, rfl⟩
  · rintro walkable _ ⟨⟨inner, entry⟩, ⟨member, rfl⟩, rfl⟩
    obtain ⟨top, opens, below, stands⟩ := mem_below?_iff.mp member
    exact walkable top inner opens below stands

theorem filesBelow_of_walkable (walkable : files.Walkable directory) :
    files.filesBelow directory = .ok (files.walked directory) := by
  have opened := unopenable?_eq_none_iff.mpr walkable
  unfold walked filesBelow
  split
  next refused => cases opened ▸ refused
  next => rfl

theorem filesBelow_of_not_walkable (blocked : ¬ files.Walkable directory) :
    ∃ path, files.filesBelow directory = .error path := by
  have refused := mt unopenable?_eq_none_iff.mp blocked
  obtain ⟨path, found⟩ := Option.ne_none_iff_exists'.mp refused
  exact ⟨path, by rw [filesBelow, found]⟩

theorem mem_walked_iff (walkable : files.Walkable directory) :
    location ∈ files.walked directory ↔ files.HasFile directory location :=
  (filesBelow_eq_ok (filesBelow_of_walkable walkable)).2 location

end FileSystem

namespace Bundle.Manifest
open FileSystem

variable {files : FileSystem} {pattern : Pattern} {directories : List Path} {kind : Option Extension} {key : String}
  {location other : Location}

theorem foldlM_addDirectory_eq_ok_iff {start manifest : Manifest} :
    directories.foldlM (addDirectory files pattern) start = .ok manifest ↔
      (∀ directory ∈ directories, files.Walkable directory) ∧
        manifest = (directories.flatMap files.walked).foldl (add pattern) start := by
  induction directories generalizing start with
  | nil => simp [pure, Except.pure, eq_comm]
  | cons directory directories ih =>
    rw [List.foldlM_cons, addDirectory]
    by_cases walkable : files.Walkable directory
    · simp [filesBelow_of_walkable walkable, Except.mapError, bind, Except.bind, pure, Except.pure, ih, walkable]
    · obtain ⟨path, refused⟩ := filesBelow_of_not_walkable walkable
      simp [refused, Except.mapError, bind, Except.bind, walkable]

theorem build_eq_ok_iff {text : String} {manifest : Manifest} (accepted : Pattern.ofText text = .ok pattern) :
    build files directories text = .ok manifest ↔ (∀ directory ∈ directories, files.Walkable directory) ∧
      manifest = (directories.flatMap files.walked).foldl (add pattern) .empty := by
  rw [← foldlM_addDirectory_eq_ok_iff, build, accepted]
  rfl

theorem place_eq_none_iff : place pattern location = (none, key) ↔
    pattern.capture? (location.getLastD "") = none ∧ key = Path.ofList location := by
  unfold place
  cases pattern.capture? (location.getLastD "") <;> simp [eq_comm]

/-- What captured names are made of stands in the file name. -/
theorem plain_of_capture? {text fileName : String} {capture : Capture} (accepted : Pattern.ofText text = .ok pattern)
    (captured : pattern.capture? fileName = some capture) (plain : '/' ∉ fileName.toList) : '/' ∉ capture.name.toList := by
  have fits := (Pattern.capture?_eq_some_iff accepted).mp captured
  obtain rfl := Pattern.spells_iff_fileName.mp fits.spells
  rw [Pattern.toList_fileName accepted, Pattern.stem] at plain
  simp only [List.mem_append, not_or] at plain
  exact plain.1.2.1

theorem getLastD_mem (inner : location ≠ []) : location.getLastD "" ∈ location := by
  rw [List.getLastD_eq_getLast?, List.getLast?_eq_some_getLast inner]
  exact List.getLast_mem inner

/-- A key starts with the directory of the file that it is made of. -/
theorem key_of_place {text : String} (accepted : Pattern.ofText text = .ok pattern) (inner : location ≠ [])
    (plain : ∀ name ∈ location, '/' ∉ name.toList) (placed : place pattern location = (kind, key)) :
    ∃ name, '/' ∉ name.toList ∧ key = Path.ofList (location.dropLast ++ [name]) := by
  have last := plain _ (getLastD_mem inner)
  unfold place at placed
  split at placed
  next capture captured =>
    cases placed
    exact ⟨capture.name, plain_of_capture? accepted captured last, (Path.ofList_concat ..).symm⟩
  next =>
    cases placed
    exact ⟨location.getLastD "", last, by rw [dropLast_concat_getLastD inner]⟩

/-- Files that share a key lie in one directory. -/
theorem dropLast_eq_of_place {text : String} (accepted : Pattern.ofText text = .ok pattern) {directory directory' : Path}
    {kind' : Option Extension} (has : files.HasFile directory location) (has' : files.HasFile directory' other)
    (placed : place pattern location = (kind, key)) (placed' : place pattern other = (kind', key)) :
    location.dropLast = other.dropLast := by
  obtain ⟨name, free, same⟩ := key_of_place accepted has.inner has.plain placed
  obtain ⟨name', free', same'⟩ := key_of_place accepted has'.inner has'.plain placed'
  have plain {location : Location} {name : String} (plain : ∀ name ∈ location, '/' ∉ name.toList)
      (free : '/' ∉ name.toList) : ∀ segment ∈ location.dropLast ++ [name], '/' ∉ segment.toList := by
    intro segment member
    rcases List.mem_append.mp member with member | member
    · exact plain segment ((List.dropLast_sublist _).subset member)
    · exact List.mem_singleton.mp member ▸ free
  have equal := Path.ofList_inj (plain has.plain free) (plain has'.plain free') (by simp) (by simp) (same.symm.trans same')
  exact (List.append_inj' equal rfl).1

/-- Some file of a directory belongs in a place. -/
def Contributes (files : FileSystem) (pattern : Pattern) (kind : Option Extension) (key : String) (directory : Path) : Prop :=
  ∃ location, files.HasFile directory location ∧ place pattern location = (kind, key)

/-- The file that counts among those with one place: in the first directory that has any, the one with the least name by
its bytes. -/
def Wins (files : FileSystem) (pattern : Pattern) (directories : List Path) (kind : Option Extension) (key : String)
    (location : Location) : Prop :=
  ∃ before directory after, directories = before ++ directory :: after ∧
    (∀ earlier ∈ before, ¬ Contributes files pattern kind key earlier) ∧
    files.HasFile directory location ∧ place pattern location = (kind, key) ∧
    ∀ other, files.HasFile directory other → place pattern other = (kind, key) →
      bytesOf (location.getLastD "") ≤ bytesOf (other.getLastD "")

theorem wins_of_find? {text : String} (accepted : Pattern.ofText text = .ok pattern)
    (walkable : ∀ directory ∈ directories, files.Walkable directory)
    (found : ((directories.flatMap files.walked).find? fun location => place pattern location = (kind, key)) =
      some location) : Wins files pattern directories kind key location := by
  rw [List.flatMap_def, List.find?_flatten_eq_some_iff] at found
  obtain ⟨placed, walks, ahead, behind, later, shape, absent, absent'⟩ := found
  obtain ⟨before, rest, rfl, rfl, shape'⟩ := List.map_eq_append_iff.mp shape
  obtain ⟨directory, after, rfl, walked, -⟩ := List.map_eq_cons_iff.mp shape'
  have opened := walkable directory (by simp)
  have members (location : Location) : location ∈ files.walked directory ↔ _ := mem_walked_iff opened
  have placed : place pattern location = (kind, key) := of_decide_eq_true placed
  have has : files.HasFile directory location := (members location).mp (walked ▸ by simp)
  refine ⟨before, directory, after, rfl, ?_, has, placed, ?_⟩
  · rintro earlier member ⟨other, has', placed'⟩
    have listed := (mem_walked_iff (walkable earlier (List.mem_append_left _ member))).mpr has'
    simpa [placed'] using absent _ (List.mem_map_of_mem member) other listed
  · intro other has' placed'
    have ordered := ordered_filesBelow (filesBelow_of_walkable opened)
    have listed := (members other).mpr has'
    rw [walked, List.pairwise_append, List.pairwise_cons] at ordered
    rw [walked, List.mem_append, List.mem_cons] at listed
    rcases listed with early | rfl | late
    · simpa [placed'] using absent' other early
    · exact List.le_refl _
    · -- The key puts both into one directory, where the walk goes by name.
      have following := ordered.2.1.1 other late
      have shared := dropLast_eq_of_place accepted has has' placed placed'
      rw [← dropLast_concat_getLastD has.inner, ← dropLast_concat_getLastD has'.inner, shared] at following
      exact FileTree.bytesOf_le_of_precedes following

/-- The first member of a list with some property. -/
theorem eq_of_first {α : Type} {P : α → Prop} {before after before' after' : List α} {first first' : α}
    (shape : before ++ first :: after = before' ++ first' :: after') (absent : ∀ a ∈ before, ¬ P a) (holds : P first)
    (absent' : ∀ a ∈ before', ¬ P a) (holds' : P first') : first = first' := by
  rcases List.append_eq_append_iff.mp shape with ⟨between, rfl, later⟩ | ⟨between, rfl, later⟩ <;> cases between with
  | nil => simp_all
  | cons other between => simp_all

theorem Wins.unique {text : String} (accepted : Pattern.ofText text = .ok pattern)
    (wins : Wins files pattern directories kind key location) (wins' : Wins files pattern directories kind key other) :
    location = other := by
  obtain ⟨before, directory, after, rfl, absent, has, placed, least⟩ := wins
  obtain ⟨before', directory', after', shape, absent', has', placed', least'⟩ := wins'
  obtain rfl := eq_of_first shape absent ⟨location, has, placed⟩ absent' ⟨other, has', placed'⟩
  have shared := dropLast_eq_of_place accepted has has' placed placed'
  have named : location.getLastD "" = other.getLastD "" :=
    bytesOf_inj.mp (List.le_antisymm (least other has' placed') (least' location has placed))
  rw [← dropLast_concat_getLastD has.inner, ← dropLast_concat_getLastD has'.inner, shared, named]

theorem mem_flatMap_walked_iff (walkable : ∀ directory ∈ directories, files.Walkable directory) :
    location ∈ directories.flatMap files.walked ↔ ∃ directory ∈ directories, files.HasFile directory location := by
  rw [List.mem_flatMap]
  exact exists_congr fun directory => and_congr_right fun member => mem_walked_iff (walkable directory member)

section
variable {text : String} {manifest : Manifest} (accepted : Pattern.ofText text = .ok pattern)
  (built : build files directories text = .ok manifest)
include accepted built

theorem get?_chart (kind : Option Extension) (key : String) : (manifest.chart kind).get? key =
    ((directories.flatMap files.walked).find? fun location => place pattern location = (kind, key)).map Path.ofList := by
  obtain ⟨-, rfl⟩ := (build_eq_ok_iff accepted).mp built
  have empty : (Manifest.empty.chart kind).get? key = none := by rcases kind with _ | _ | _ <;> rfl
  rw [get?_chart_foldl_add, empty, Option.none_or]

/-- A place of a manifest is filled if and only if a file of some directory belongs there. -/
theorem mem_keys_chart_iff :
    key ∈ (manifest.chart kind).keys ↔ ∃ directory ∈ directories, Contributes files pattern kind key directory := by
  obtain ⟨walkable, -⟩ := (build_eq_ok_iff accepted).mp built
  rw [← not_iff_not, ← Dict.get?_eq_none_iff, get?_chart accepted built, Option.map_eq_none_iff, List.find?_eq_none]
  simp only [mem_flatMap_walked_iff walkable, decide_eq_true_eq, Contributes]
  constructor
  · rintro absent ⟨directory, member, location, has, placed⟩
    exact absent location ⟨directory, member, has⟩ placed
  · rintro absent location ⟨directory, member, has⟩ placed
    exact absent ⟨directory, member, location, has, placed⟩

/-- In every place of a manifest stands the path of the file that counts there. -/
theorem get?_chart_eq_some_iff {path : String} : (manifest.chart kind).get? key = some path ↔
    ∃ location, Wins files pattern directories kind key location ∧ path = Path.ofList location := by
  obtain ⟨walkable, -⟩ := (build_eq_ok_iff accepted).mp built
  constructor
  · intro found
    rw [get?_chart accepted built, Option.map_eq_some_iff] at found
    obtain ⟨location, found, rfl⟩ := found
    exact ⟨location, wins_of_find? accepted walkable found, rfl⟩
  · rintro ⟨location, wins, rfl⟩
    obtain ⟨before, directory, after, shape, -, has, placed, -⟩ := id wins
    have listed : key ∈ (manifest.chart kind).keys :=
      (mem_keys_chart_iff accepted built).mpr ⟨directory, by simp [shape], location, has, placed⟩
    rw [get?_chart accepted built]
    cases found : (directories.flatMap files.walked).find? fun location => place pattern location = (kind, key) with
    | none =>
      have free : (manifest.chart kind).get? key = none := by rw [get?_chart accepted built, found, Option.map_none]
      exact absurd listed (Dict.get?_eq_none_iff.mp free)
    | some other => rw [wins.unique accepted (wins_of_find? accepted walkable found), Option.map_some]

/-- More directories leave what is filed as it is. -/
theorem get?_chart_append {further : List Path} {more : Manifest}
    (built' : build files (directories ++ further) text = .ok more) {path : String}
    (found : (manifest.chart kind).get? key = some path) : (more.chart kind).get? key = some path := by
  rw [get?_chart accepted built] at found
  obtain ⟨location, first, rfl⟩ := Option.map_eq_some_iff.mp found
  rw [get?_chart accepted built', List.flatMap_append, List.find?_append, first, Option.some_or, Option.map_some]

/-- The rest is what the pattern does not fit, under its own path. -/
theorem get?_rest_eq_some_iff {path target : String} : manifest.rest.get? path = some target ↔ target = path ∧
    ∃ directory ∈ directories, ∃ location, files.HasFile directory location ∧
      pattern.capture? (location.getLastD "") = none ∧ path = Path.ofList location := by
  have same {value : String} (found : (manifest.chart none).get? path = some value) : value = path := by
    obtain ⟨location, ⟨_, _, _, -, -, -, placed, -⟩, rfl⟩ := (get?_chart_eq_some_iff accepted built).mp found
    exact (place_eq_none_iff.mp placed).2.symm
  have filed : path ∈ (manifest.chart none).keys ↔ _ := mem_keys_chart_iff accepted built
  simp only [Contributes, place_eq_none_iff] at filed
  have charted : manifest.rest = manifest.chart none := rfl
  rw [← filed, Dict.mem_keys_iff, charted]
  constructor
  · intro found
    exact ⟨same found, target, found⟩
  · rintro ⟨rfl, value, found⟩
    obtain rfl := same found
    exact found

end

/-- What a manifest is built of. It is built unless a directory on the way cannot be opened. Scripts and stylesheets are
filed under their keys, of which each tells one directory, and there the file that counts is the one with the least name in
the first bundle directory that has any. All others are filed as they are. Every file has its key in the part of the
manifest where it belongs, no key is there for another reason, and more directories change nothing that is filed. -/
theorem manifest_contents {files : FileSystem} {text : String} {pattern : Pattern} (accepted : Pattern.ofText text = .ok pattern)
    (directories : List Path) :
    ((∃ manifest, build files directories text = .ok manifest) ↔ ∀ directory ∈ directories, files.Walkable directory) ∧
    ∀ manifest, build files directories text = .ok manifest →
      (∀ extension key path, (manifest.shelf extension).get? key = some path ↔
        ∃ location, Wins files pattern directories (some extension) key location ∧ path = Path.ofList location) ∧
      (∀ directory location other extension extension' key, files.HasFile directory location →
        files.HasFile directory other → place pattern location = (some extension, key) →
          place pattern other = (some extension', key) → location.dropLast = other.dropLast) ∧
      (∀ path target, manifest.rest.get? path = some target ↔ target = path ∧ ∃ directory ∈ directories, ∃ location,
        files.HasFile directory location ∧ pattern.capture? (location.getLastD "") = none ∧ path = Path.ofList location) ∧
      (∀ kind key, key ∈ (manifest.chart kind).keys ↔
        ∃ directory ∈ directories, Contributes files pattern kind key directory) ∧
      ∀ further more, build files (directories ++ further) text = .ok more → ∀ kind key path,
        (manifest.chart kind).get? key = some path → (more.chart kind).get? key = some path := by
  have outcome := fun manifest => @build_eq_ok_iff files pattern directories text manifest accepted
  refine ⟨⟨fun ⟨manifest, built⟩ => ((outcome manifest).mp built).1, fun walkable => ⟨_, (outcome _).mpr ⟨walkable, rfl⟩⟩⟩, ?_⟩
  intro manifest built
  have filed {kind key path} : (manifest.chart kind).get? key = some path ↔ _ := get?_chart_eq_some_iff accepted built
  refine ⟨fun extension key path => @filed (some extension) key path, ?_, ?_, ?_, ?_⟩
  · exact fun _ _ _ _ _ _ has has' placed placed' => dropLast_eq_of_place accepted has has' placed placed'
  · exact fun path target => get?_rest_eq_some_iff accepted built
  · exact fun kind key => mem_keys_chart_iff accepted built
  · exact fun further more built' kind key path found => get?_chart_append accepted built built' found

/-- Two scripts that a view has been built to, its stylesheet, and another file. -/
def rebuiltFiles : FileSystem := .holding "dist" [
  "Post-5cd0a7e1.js", "Post-1e9ac4de.js", "Post-5cd0a7e1.css", "notes.txt"] (by decide +kernel) (by decide +kernel)

theorem walk_rebuiltFiles : ∃ locations, rebuiltFiles.filesBelow { text := "dist" } = .ok locations ∧
    locations.Perm [["Post-5cd0a7e1.js"], ["Post-1e9ac4de.js"], ["Post-5cd0a7e1.css"], ["notes.txt"]] :=
  FileSystem.filesBelow_holding (Browser.Entries.eq_ok_of_toOption (by decide +kernel))

theorem hasFile_rebuiltFiles {location : Location} : rebuiltFiles.HasFile { text := "dist" } location ↔
    location ∈ [["Post-5cd0a7e1.js"], ["Post-1e9ac4de.js"], ["Post-5cd0a7e1.css"], ["notes.txt"]] := by
  obtain ⟨locations, walked, listed⟩ := walk_rebuiltFiles
  exact ((Browser.Entries.filesBelow_eq_ok walked).2 location).symm.trans listed.mem_iff

theorem not_opens_missing {top : Location} : ¬ rebuiltFiles.Opens { text := "missing" } top := by
  rintro ⟨led, listed⟩
  have located : rebuiltFiles.locate { text := "missing" } = .ok (.standing ["missing"]) :=
    Browser.Entries.eq_ok_of_toOption (by decide +kernel)
  cases located.symm.trans led
  have nothing : rebuiltFiles.tree.get? ["missing"] = none := by decide +kernel
  cases nothing.symm.trans listed

theorem walkable_rebuiltFiles : ∀ directory ∈ [({ text := "missing" } : Path), { text := "dist" }],
    rebuiltFiles.Walkable directory := by
  simp only [List.forall_mem_cons, List.not_mem_nil, false_implies, implies_true, and_true]
  refine ⟨fun top inner opens => absurd opens not_opens_missing, ?_⟩
  by_contra blocked
  obtain ⟨path, refused⟩ := filesBelow_of_not_walkable blocked
  obtain ⟨locations, walked, -⟩ := walk_rebuiltFiles
  cases walked.symm.trans refused

/-- A missing directory adds nothing, and of two scripts the one with the lesser name is kept. -/
theorem lesser_script_is_kept : ∃ manifest,
    build rebuiltFiles [{ text := "missing" }, { text := "dist" }] Pattern.defaultText = .ok manifest ∧
      manifest.scripts.get? "Post" = some "Post-1e9ac4de.js" ∧ manifest.rest.get? "notes.txt" = some "notes.txt" := by
  obtain ⟨built, contents⟩ := @manifest_contents rebuiltFiles _ _ Browser.Entries.ofText_default
    [{ text := "missing" }, { text := "dist" }]
  obtain ⟨manifest, made⟩ := built.mpr walkable_rebuiltFiles
  obtain ⟨filed, -, rest, -⟩ := contents manifest made
  have named : ∀ other ∈ [["Post-5cd0a7e1.js"], ["Post-1e9ac4de.js"], ["Post-5cd0a7e1.css"], ["notes.txt"]],
      place { front := [], back := [.char '-', .hash] } other = (some .script, "Post") →
        bytesOf "Post-1e9ac4de.js" ≤ bytesOf (other.getLastD "") := by decide +kernel
  refine ⟨manifest, made, ?_, ?_⟩
  · refine (filed .script "Post" _).mpr ⟨["Post-1e9ac4de.js"], ?_, by decide +kernel⟩
    refine ⟨[{ text := "missing" }], { text := "dist" }, [], rfl, ?_, hasFile_rebuiltFiles.mpr (by simp), by decide +kernel, ?_⟩
    · rintro earlier member ⟨location, ⟨top, content, executable, opens, -⟩, -⟩
      obtain rfl := List.mem_singleton.mp member
      exact not_opens_missing opens
    · exact fun other has => named other (hasFile_rebuiltFiles.mp has)
  · refine (rest "notes.txt" _).mpr ⟨rfl, { text := "dist" }, by simp, ["notes.txt"], hasFile_rebuiltFiles.mpr (by simp), ?_⟩
    decide +kernel

end Bundle.Manifest
end ComponentViews
