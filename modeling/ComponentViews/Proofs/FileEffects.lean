import ComponentViews.Proofs.FileReach

/-! What file operations do to a tree, location by location. -/

namespace ComponentViews.FileSystem
open FileTree

variable {files files' : FileSystem} {directory : Path} {name : String}

theorem base_congr (same : files'.workingDirectory = files.workingDirectory) (path : Path) :
    files'.base path = files.base path := by simp only [base, same]

theorem home_congr (same : files'.workingDirectory.location = files.workingDirectory.location) (path : Path) :
    files'.home path = files.home path := by
  have started : (files'.base path).location = (files.base path).location := by
    unfold base
    split
    · rfl
    · exact same
  simp only [home, started]

theorem Leads.mono {location : Location} (leads : files.Leads directory location)
    (kept : KeepsDirectories files.tree files'.tree) (same : files'.workingDirectory = files.workingDirectory) :
    files'.Leads directory location :=
  ⟨base_congr same directory ▸ follow_mono kept leads.1, kept _ leads.2⟩

/-- One location of a tree changes. -/
def Changes (before after : FileSystem) (location : Location) (entry : Option Entry) : Prop :=
  after.workingDirectory = before.workingDirectory ∧
    ∀ other, after.tree.get? other = if other = location then entry else before.tree.get? other

theorem Changes.keepsDirectories {location : Location} {entry : Option Entry}
    (changes : Changes files files' location entry) (free : files.tree.get? location ≠ some .directory) :
    KeepsDirectories files.tree files'.tree := by
  intro other listed
  rw [changes.2, if_neg (by rintro rfl; exact free listed), listed]

theorem Changes.leads {location : Location} {entry : Option Entry} (changes : Changes files files' location entry)
    (free : files.tree.get? location ≠ some .directory) {reached : Location} (leads : files.Leads directory reached) :
    files'.Leads directory reached :=
  leads.mono (changes.keepsDirectories free) changes.1

/-- A change in a directory is not seen under the other names in it. -/
theorem Changes.find?_div {location : Location} {entry : Option Entry} {other : String}
    (changes : Changes files files' (location ++ [name]) entry)
    (free : files.tree.get? (location ++ [name]) ≠ some .directory) (leads : files.Leads directory location)
    (valid : ValidName other) (different : other ≠ name) :
    files'.find? (directory / other) = files.find? (directory / other) := by
  have leads' := changes.leads free leads
  have kept : files'.tree.get? (location ++ [other]) = files.tree.get? (location ++ [other]) := by
    rw [changes.2, if_neg (by simpa using different)]
  apply Option.ext
  intro found
  rw [find?_div_eq_some_iff valid, find?_div_eq_some_iff valid]
  refine and_congr_right fun _ => ?_
  constructor
  · rintro ⟨reached, led, found⟩
    obtain rfl : reached = location := led.home.trans leads'.home.symm
    exact ⟨_, leads, kept ▸ found⟩
  · rintro ⟨reached, led, found⟩
    obtain rfl : reached = location := led.home.trans leads.home.symm
    exact ⟨_, leads', kept ▸ found⟩

theorem place_ok {target : Target} {entry : Entry} (placed : files.place target entry = .ok files') :
    ∃ location, target = .standing location ∧ files.tree.get? location ≠ some .directory ∧
      Changes files files' location (some entry) := by
  cases target with
  | removed location => cases placed
  | standing location =>
    simp only [place, placeAt] at placed
    split at placed
    · cases placed
    next name last =>
      have shape : location.dropLast ++ [name] = location := by
        obtain ⟨front, rfl⟩ := List.getLast?_eq_some_iff.mp last
        simp
      split at placed
      next within =>
        split at placed
        next valid =>
          split at placed
          next free =>
            cases placed
            refine ⟨location, rfl, shape ▸ free, rfl, fun other => ?_⟩
            rw [get?_put, shape]
          next => cases placed
        next => cases placed
      next => cases placed

theorem write_ok {content : Content} {executable : Bool} (valid : ValidName name)
    (written : files.write (directory / name) content executable = .ok files') :
    ∃ location, files.Leads directory location ∧ Fits (directory / name) ∧
      files.tree.get? (location ++ [name]) ≠ some .directory ∧
      Changes files files' (location ++ [name]) (some (.file content executable)) := by
  simp only [write] at written
  cases led : files.locate (directory / name) with
  | error denial => simp [led, bind, Except.bind] at written
  | ok target =>
    obtain ⟨fits, location, leads, rfl⟩ := (locate_div valid).mp led
    simp only [led, bind, Except.bind] at written
    obtain ⟨_, same, free, changes⟩ := place_ok written
    cases same
    exact ⟨location, leads, fits, free, changes⟩

theorem removeFile_ok {location : Location} {content : Content} {executable : Bool} (valid : ValidName name)
    (fits : Fits (directory / name)) (leads : files.Leads directory location)
    (stands : files.tree.get? (location ++ [name]) = some (.file content executable)) :
    ∃ files', files.removeFile (directory / name) = .ok files' ∧ Changes files files' (location ++ [name]) none := by
  have led := (locate_div valid).mpr ⟨fits, location, leads, rfl⟩
  refine ⟨{ files with tree := files.tree.remove (location ++ [name]) }, by simp [removeFile, led, bind, Except.bind, stands],
    rfl, fun other => ?_⟩
  rw [get?_remove (by simp)]
  split
  next below =>
    split
    · rfl
    next apart =>
      obtain ⟨rest, rfl⟩ := below
      cases found : files.tree.get? (location ++ [name] ++ rest) with
      | none => rfl
      | some entry =>
        have above := get?_above found (by rintro rfl; simp at apart)
        simp [stands] at above
  next apart => rw [if_neg (by rintro rfl; exact apart (List.prefix_refl _))]

theorem removeFile_changes (valid : ValidName name) (removed : files.removeFile (directory / name) = .ok files') :
    ∃ location, files.Leads directory location ∧ files.tree.get? (location ++ [name]) ≠ some .directory ∧
      Changes files files' (location ++ [name]) none := by
  cases led : files.locate (directory / name) with
  | error denial => simp [removeFile, led, bind, Except.bind] at removed
  | ok target =>
    obtain ⟨fits, location, leads, rfl⟩ := (locate_div valid).mp led
    cases stands : files.tree.get? (location ++ [name]) with
    | none => simp [removeFile, led, bind, Except.bind, stands] at removed
    | some entry =>
      cases entry with
      | directory => simp [removeFile, led, bind, Except.bind, stands] at removed
      | file content executable =>
        obtain ⟨after, done, changes⟩ := removeFile_ok valid fits leads stands
        rw [done] at removed
        cases removed
        exact ⟨location, leads, by simp [stands], changes⟩

/-- Directories are added, and all else stays. -/
structure Grows (before after : FileSystem) : Prop where
  workingDirectory : after.workingDirectory = before.workingDirectory
  directories : KeepsDirectories before.tree after.tree
  files : ∀ location content executable,
    after.tree.get? location = some (.file content executable) ↔ before.tree.get? location = some (.file content executable)

theorem Grows.refl (files : FileSystem) : Grows files files := ⟨rfl, fun _ listed => listed, fun _ _ _ => .rfl⟩

theorem Grows.trans {before middle after : FileSystem} (first : Grows before middle) (last : Grows middle after) :
    Grows before after :=
  ⟨last.workingDirectory.trans first.workingDirectory, fun location listed => last.directories location (first.directories location listed),
    fun location content executable => (last.files location content executable).trans (first.files location content executable)⟩

theorem makeDirectory_ok {path : Path} (made : files.makeDirectory path = .ok files') :
    ∃ location, files.locate (withoutSlash path) = .ok (.standing location) ∧ files.tree.get? location = none ∧
      Changes files files' location (some .directory) := by
  cases led : files.locate (withoutSlash path) with
  | error denial => simp [makeDirectory, led, bind, Except.bind] at made
  | ok target =>
    simp only [makeDirectory, led, bind, Except.bind] at made
    split at made
    · cases made
    next free =>
      obtain ⟨location, rfl, -, changes⟩ := place_ok made
      exact ⟨location, rfl, free, changes⟩

theorem makeDirectory_grows {path : Path} (made : files.makeDirectory path = .ok files') : Grows files files' := by
  obtain ⟨location, -, free, same, changes⟩ := makeDirectory_ok made
  refine ⟨same, fun other listed => ?_, fun other content executable => ?_⟩
  · rw [changes, if_neg (by rintro rfl; simp [free] at listed), listed]
  · rw [changes]
    split
    next here => simp [here, free]
    next => rfl

theorem ensureDirectory_grows (files : FileSystem) (depth : Nat) (path : Path) :
    Grows files (files.ensureDirectory depth path).2 := by
  induction depth generalizing files path with
  | zero => exact .refl _
  | succ depth ih =>
    rw [ensureDirectory]
    split
    · exact .refl _
    · split
      next after made => exact makeDirectory_grows made
      next => exact .refl _
      next =>
        split
        · exact .refl _
        next parent _ =>
          have above := ih files parent
          split
          next denial after stopped => rw [stopped] at above; exact above
          next after reached =>
            rw [reached] at above
            split
            next last made => exact above.trans (makeDirectory_grows made)
            next => exact above

theorem makeDirectories_grows (files : FileSystem) (path : Path) : Grows files (files.makeDirectories path).2 :=
  ensureDirectory_grows ..

theorem workingIn_location (files : FileSystem) (target : Target) :
    (files.workingIn target).workingDirectory.location = target.location := by
  unfold workingIn
  split
  · split <;> rfl
  · rfl

theorem workingIn_tree (files : FileSystem) (target : Target) : (files.workingIn target).tree = files.tree := by
  unfold workingIn
  split
  · split <;> rfl
  · rfl

/-- What removing a tree leaves: nothing below a directory that the path led to, and
everything as it was where the path led to none. -/
structure Emptied (before after : FileSystem) (path : Path) : Prop where
  workingDirectory : after.workingDirectory.location = before.workingDirectory.location
  remains : ∀ location entry, after.tree.get? location = some entry → before.tree.get? location = some entry
  cleared : ∀ location rest, before.Opens path location → rest ≠ [] → after.tree.get? (location ++ rest) = none
  untouched : (∀ location, ¬ before.Opens path location) → after = before

theorem Emptied.unopened {path : Path} (closed : ∀ location, ¬ files.Opens path location) : Emptied files files path :=
  ⟨rfl, fun _ _ found => found, fun location _ opens => absurd opens (closed location), fun _ => rfl⟩

theorem Emptied.of_clear {path : Path} {location : Location} (opens : files.Opens path location)
    (same : files'.workingDirectory.location = files.workingDirectory.location)
    (remains : ∀ other entry, files'.tree.get? other = some entry → (files.tree.clear location).get? other = some entry) :
    Emptied files files' path := by
  refine ⟨same, fun other entry found => ?_, fun other rest opened inner => ?_, fun closed => absurd opens (closed location)⟩
  · have found := remains other entry found
    rw [get?_clear] at found
    split at found
    · cases found
    · exact found
  · have here : other = location := opened.home.trans opens.home.symm
    subst here
    cases found : files'.tree.get? (other ++ rest) with
    | none => rfl
    | some entry =>
      have found := remains _ entry found
      rw [get?_clear, if_pos ⟨List.prefix_append .., by simpa using inner⟩] at found
      cases found

theorem removeTree_emptied (files : FileSystem) (path : Path) : Emptied files (files.removeTree path).2 path := by
  unfold removeTree
  split
  next denial led => exact .unopened fun location opens => by simp [opens.1] at led
  next location led => exact .unopened fun location opens => by simp [opens.1] at led
  next location led =>
    split
    next absent =>
      refine .unopened fun other opens => ?_
      cases opens.1.symm.trans led
      simp [opens.2] at absent
    next content executable stands =>
      refine .unopened fun other opens => ?_
      cases opens.1.symm.trans led
      simp [opens.2] at stands
    next listed =>
      have opens : files.Opens path location := ⟨led, listed⟩
      have cleared : Emptied files (files.reduced (files.tree.clear location)) path :=
        .of_clear opens (workingIn_location ..) fun other entry found => by rwa [reduced, workingIn_tree] at found
      simp only
      split
      · exact cleared
      next last _ =>
        split
        · exact cleared
        next removable =>
          refine .of_clear opens ((workingIn_location ..).trans (workingIn_location ..)) fun other entry found => ?_
          rw [reduced, workingIn_tree, get?_remove (fun root => removable (.inl root))] at found
          split at found
          · cases found
          · rwa [reduced, workingIn_tree] at found
      · exact cleared

end ComponentViews.FileSystem
