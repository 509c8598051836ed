import ComponentViews.Proofs.FileEffects
import Mathlib.Data.List.TakeWhile

/-! Paths that lead down and never up. They lead to any directory that stands where
their names point, and directories are made for them only on the way there. -/

namespace ComponentViews.FileSystem
open FileTree

/-- Whether a segment goes down to an entry. -/
def descends (segment : String) : Bool := segment ≠ "" ∧ segment ≠ "."

/-- A path that leads down from where it starts, and never up. -/
def Plain (path : Path) : Prop := ".." ∉ path.segments ∧ ∃ segment ∈ path.segments, descends segment

instance (path : Path) : Decidable (Plain path) := by unfold Plain; infer_instance

theorem resolve_plain {segments : List String} (plain : ".." ∉ segments) (start : Location) :
    resolve start segments = start ++ segments.filter descends := by
  induction segments generalizing start with
  | nil => simp [resolve]
  | cons segment rest ih =>
    simp only [List.mem_cons, not_or] at plain
    have ih := ih plain.2
    by_cases stays : segment = "" ∨ segment = "."
    · have flat : descends segment = false := by rcases stays with rfl | rfl <;> rfl
      simp [resolve, stays, ih, flat]
    · have down : descends segment = true := by simpa [descends] using stays
      simp [resolve, stays, Ne.symm plain.1, ih, down]

theorem follow_standing {tree : FileTree} {here : Location} {target : Target} {segments : List String}
    (led : follow tree (.standing here) segments = .ok target) : ∃ location, target = .standing location := by
  induction segments generalizing here with
  | nil => simp only [follow] at led; cases led; exact ⟨here, rfl⟩
  | cons segment rest ih => grind [follow]

/-- From a removed directory no path leads down. -/
theorem follow_removed {tree : FileTree} {here : Location} {target : Target} {segments : List String}
    (plain : ".." ∉ segments) (led : follow tree (.removed here) segments = .ok target) :
    ∀ segment ∈ segments, descends segment = false := by
  induction segments with
  | nil => simp
  | cons segment rest ih => grind [follow, descends]

/-- A path that never goes up leads to any directory that stands where its names point. -/
theorem follow_plain {tree : FileTree} {segments : List String} (plain : ".." ∉ segments) {start : Location}
    (listed : tree.get? (start ++ segments.filter descends) = some .directory) :
    follow tree (.standing start) segments = .ok (.standing (start ++ segments.filter descends)) := by
  induction segments generalizing start with
  | nil => simp [follow]
  | cons segment rest ih =>
    simp only [List.mem_cons, not_or] at plain
    have here : tree.get? start = some .directory := by
      by_cases last : (segment :: rest).filter descends = []
      · simpa [last] using listed
      · exact get?_above listed last
    by_cases stays : segment = "" ∨ segment = "."
    · have flat : descends segment = false := by rcases stays with rfl | rfl <;> rfl
      rw [List.filter_cons, if_neg (by simp [flat])] at listed ⊢
      simp [follow, here, stays, ih plain.2 listed]
    · have down : descends segment = true := by simpa [descends] using stays
      have split : start ++ (segment :: rest).filter descends = start ++ [segment] ++ rest.filter descends := by simp [down]
      rw [split] at listed ⊢
      have next : tree.get? (start ++ [segment]) = some .directory := by
        by_cases last : rest.filter descends = []
        · simpa [last] using listed
        · exact get?_above listed last
      have valid := validName_of_get? next
      simp [follow, here, stays, Ne.symm plain.1, valid, ih plain.2 listed]

/-- Only slashes at the end are lost, and never the first of a path. -/
theorem withoutSlash_text (path : Path) : ∃ count,
    path.text.toList = (withoutSlash path).text.toList ++ List.replicate count '/' ∧
      (count = 0 ∨ (withoutSlash path).text.toList ≠ []) := by
  have split := List.takeWhile_append_dropWhile (p := fun c => decide (c = '/')) (l := path.text.toList.reverse)
  have slashes := List.eq_replicate_of_mem (a := '/') (l := path.text.toList.reverse.takeWhile fun c => decide (c = '/'))
    fun c member => by simpa using List.mem_takeWhile_imp member
  rw [slashes] at split
  have spelled := congrArg List.reverse split
  rw [List.reverse_append, List.reverse_replicate, List.reverse_reverse] at spelled
  unfold withoutSlash
  simp only
  split
  · exact ⟨0, by simp⟩
  next inner => exact ⟨_, by simpa using spelled.symm, .inr (by simpa using inner)⟩

theorem withoutSlash_segments (path : Path) :
    (withoutSlash path).isAbsolute = path.isAbsolute ∧
      ∃ count, path.segments = (withoutSlash path).segments ++ List.replicate count "" := by
  obtain ⟨count, spelled, kept⟩ := withoutSlash_text path
  constructor
  · rw [Path.isAbsolute, Path.isAbsolute, spelled]
    rcases kept with rfl | inner
    · simp
    · obtain ⟨c, rest, head⟩ := List.exists_cons_of_ne_nil inner
      simp [head]
  · refine ⟨count, ?_⟩
    rw [Path.segments, spelled, Path.splitSlashes_replicate]
    simp [Path.segments]

theorem base_withoutSlash (files : FileSystem) (path : Path) : files.base (withoutSlash path) = files.base path := by
  simp only [base, (withoutSlash_segments path).1]

theorem home_withoutSlash (files : FileSystem) {path : Path} (plain : ".." ∉ path.segments) :
    files.home (withoutSlash path) = files.home path := by
  obtain ⟨-, count, shape⟩ := withoutSlash_segments path
  have inner : ".." ∉ (withoutSlash path).segments := fun up => plain (by rw [shape]; exact List.mem_append_left _ up)
  rw [home, home, base_withoutSlash, resolve_plain inner, resolve_plain plain, shape]
  simp [descends]

theorem follow_blanks {tree : FileTree} {location : Location} (listed : tree.get? location = some .directory)
    (count : Nat) : follow tree (.standing location) (List.replicate count "") = .ok (.standing location) := by
  induction count with
  | zero => simp [follow]
  | succ count ih => simp [List.replicate_succ, follow, listed, ih]

/-- A path that has just been made a directory opens. -/
theorem makeDirectory_opens {files files' : FileSystem} {path : Path} (fits : Fits path)
    (made : files.makeDirectory path = .ok files') : ∃ location, files'.Opens path location := by
  obtain ⟨location, led, free, changes⟩ := makeDirectory_ok made
  obtain ⟨-, count, shape⟩ := withoutSlash_segments path
  have listed : files'.tree.get? location = some .directory := by rw [changes.2, if_pos rfl]
  have kept := changes.keepsDirectories (by simp [free])
  have reached := follow_mono kept (locate_eq_ok_iff.mp led).2
  refine ⟨location, locate_eq_ok_iff.mpr ⟨fits, ?_⟩, listed⟩
  rw [base_congr changes.1, ← base_withoutSlash, shape, follow_append, reached]
  exact follow_blanks listed count

theorem isDirectory_iff {files : FileSystem} {path : Path} : files.isDirectory path ↔
    ∃ target, files.locate path = .ok target ∧ target.entry? files.tree = some .directory := by
  unfold isDirectory find?
  cases files.locate path <;> simp

theorem Opens.isDirectory {files : FileSystem} {path : Path} {location : Location} (opens : files.Opens path location) :
    files.isDirectory path := isDirectory_iff.mpr ⟨_, opens.1, opens.2⟩

theorem ensureDirectory_ok {files files' : FileSystem} {depth : Nat} {path : Path} (fits : Fits path)
    (made : files.ensureDirectory depth path = (.ok (), files')) : files'.isDirectory path := by
  cases depth with
  | zero => simp [ensureDirectory] at made
  | succ depth =>
    rw [ensureDirectory, if_neg fits.1] at made
    split at made
    next after done =>
      cases made
      obtain ⟨location, opens⟩ := makeDirectory_opens fits done
      exact opens.isDirectory
    next => grind
    next =>
      split at made
      · cases made
      next parent _ =>
        split at made
        · cases made
        next after reached =>
          split at made
          next last done =>
            cases made
            obtain ⟨location, opens⟩ := makeDirectory_opens fits done
            exact opens.isDirectory
          next => grind

theorem makeDirectory_above {files files' : FileSystem} {path : Path} (plain : ".." ∉ path.segments)
    (made : files.makeDirectory path = .ok files') {location : Location} {entry : Entry}
    (found : files'.tree.get? location = some entry) :
    files.tree.get? location = some entry ∨ location = files.home path := by
  obtain ⟨place, led, -, changes⟩ := makeDirectory_ok made
  rw [changes.2] at found
  split at found
  next here => exact .inr (here.trans ((location_of_locate led).trans (home_withoutSlash files plain)))
  next => exact .inl found

theorem home_parent (files : FileSystem) {path parent : Path} (plain : ".." ∉ path.segments)
    (above : path.parent? = some parent) : ".." ∉ parent.segments ∧ files.home parent <+: files.home path := by
  obtain ⟨rooted, front, start, shape⟩ := Path.parent?_segments above
  have inner : ".." ∉ front := fun up => plain (start.subset up)
  have plain' : ".." ∉ parent.segments := by rcases shape with same | blank <;> simp [*]
  refine ⟨plain', ?_⟩
  have same : parent.segments.filter descends = front.filter descends := by
    rcases shape with same | blank <;> simp [*, descends]
  rw [home, home, base, base, rooted, resolve_plain plain', resolve_plain plain, same]
  exact (List.prefix_append_right_inj _).mpr (start.filter descends)

/-- Directories are made only on the way down to where the path leads. -/
theorem ensureDirectory_above {depth : Nat} {files : FileSystem} {path : Path} (plain : ".." ∉ path.segments)
    {location : Location} {entry : Entry}
    (found : (files.ensureDirectory depth path).2.tree.get? location = some entry) :
    files.tree.get? location = some entry ∨ location <+: files.home path := by
  induction depth generalizing files path with
  | zero => exact .inl found
  | succ depth ih =>
    rw [ensureDirectory] at found
    split at found
    · exact .inl found
    split at found
    next after made =>
      rcases makeDirectory_above plain made found with old | here
      · exact .inl old
      · exact .inr (here ▸ List.prefix_refl _)
    next => exact .inl found
    next =>
      split at found
      · exact .inl found
      next parent above =>
        obtain ⟨plain', start⟩ := home_parent files plain above
        have upper : (files.ensureDirectory depth parent).2.tree.get? location = some entry →
            files.tree.get? location = some entry ∨ location <+: files.home path := by
          intro found
          rcases ih plain' found with old | inside
          · exact .inl old
          · exact .inr (inside.trans start)
        have same : (files.ensureDirectory depth parent).2.home path = files.home path :=
          home_congr (congrArg Target.location (ensureDirectory_grows files depth parent).workingDirectory) path
        split at found
        next denial after stopped => rw [stopped] at upper; exact upper found
        next after reached =>
          rw [reached] at upper same
          split at found
          next last made =>
            rcases makeDirectory_above plain made found with old | here
            · exact upper old
            · exact .inr (here.trans same ▸ List.prefix_refl _)
          next => exact upper found

/-- A directory that is removed and made again is empty. -/
theorem empty_of_remade {files emptied made : FileSystem} {path : Path} (plain : Plain path) (fits : Fits path)
    (cleared : Emptied files emptied path) (remade : emptied.makeDirectories path = (.ok (), made)) :
    ∃ location, made.Opens path location ∧ made.tree.below location = [] := by
  obtain ⟨target, led, listed⟩ := isDirectory_iff.mp (ensureDirectory_ok fits remade)
  have grows : Grows emptied made := by simpa only [remade] using makeDirectories_grows emptied path
  obtain ⟨start, started⟩ : ∃ start, made.base path = .standing start := by
    cases base : made.base path with
    | standing start => exact ⟨start, rfl⟩
    | removed start =>
      have reached := (locate_eq_ok_iff.mp led).2
      obtain ⟨segment, member, down⟩ := plain.2
      rw [base] at reached
      simp [follow_removed plain.1 reached segment member] at down
  have reached := (locate_eq_ok_iff.mp led).2
  rw [started] at reached
  obtain ⟨location, rfl⟩ := follow_standing reached
  have opens : made.Opens path location := ⟨led, listed⟩
  have same : emptied.home path = location := by
    rw [opens.home, home_congr (congrArg Target.location grows.workingDirectory)]
  refine ⟨location, opens, List.eq_nil_iff_forall_not_mem.mpr ?_⟩
  rintro ⟨rest, entry⟩ member
  obtain ⟨inner, found⟩ := mem_below_iff.mp member
  have remained : emptied.tree.get? (location ++ rest) = some entry := by
    have result : (emptied.makeDirectories path).2.tree.get? (location ++ rest) = some entry := by rw [remade]; exact found
    rcases ensureDirectory_above plain.1 result with old | inside
    · exact old
    · have short := inside.length_le
      rw [same] at short
      have long := List.length_pos_iff.mpr inner
      simp only [List.length_append] at short
      omega
  by_cases opened : ∃ other, files.Opens path other
  · obtain ⟨other, before⟩ := opened
    have here : other = location := by rw [before.home, ← home_congr cleared.workingDirectory, same]
    subst here
    simp [cleared.cleared other rest before inner] at remained
  · have untouched := cleared.untouched (not_exists.mp opened)
    subst untouched
    have above := get?_above remained inner
    have home := opens.home
    rw [FileSystem.home, started, resolve_plain plain.1] at home
    refine opened ⟨location, locate_eq_ok_iff.mpr ⟨fits, ?_⟩, above⟩
    rw [← base_congr grows.workingDirectory, started, home]
    exact follow_plain plain.1 (home ▸ above)

end ComponentViews.FileSystem
