import ComponentViews.Proofs.PathSegments

/-! Where paths lead while the tree changes. A path that leads somewhere is followed by
its text alone, so it keeps leading there as long as directories stay. -/

namespace ComponentViews
open FileTree

def Target.location : Target → Location
  | .standing location => location
  | .removed location => location

namespace FileSystem

/-- Where segments lead by their text alone. -/
def resolve : Location → List String → Location
  | here, [] => here
  | here, segment :: rest =>
    if segment = "" ∨ segment = "." then resolve here rest
    else if segment = ".." then resolve here.dropLast rest
    else resolve (here ++ [segment]) rest

theorem follow_location {tree : FileTree} {start target : Target} {segments : List String}
    (led : follow tree start segments = .ok target) : target.location = resolve start.location segments := by
  fun_induction follow tree start segments <;> simp_all [resolve, Target.location]

theorem follow_append (tree : FileTree) (start : Target) (first second : List String) :
    follow tree start (first ++ second) = (follow tree start first).bind fun here => follow tree here second := by
  fun_induction follow tree start first <;> simp_all [follow, Except.bind]

/-- Directories of one tree are directories of another. -/
def KeepsDirectories (before after : FileTree) : Prop :=
  ∀ location, before.get? location = some .directory → after.get? location = some .directory

theorem follow_mono {before after : FileTree} (kept : KeepsDirectories before after) {start target : Target}
    {segments : List String} (led : follow before start segments = .ok target) :
    follow after start segments = .ok target := by
  fun_induction follow before start segments <;> simp_all [follow, kept _ _]

/-- Where a path starts from. -/
def base (files : FileSystem) (path : Path) : Target :=
  if path.isAbsolute then .standing [] else files.workingDirectory

/-- A text that can name something. -/
def Fits (path : Path) : Prop :=
  path.text ≠ "" ∧ '\x00' ∉ path.text.toList ∧ path.text.utf8ByteSize ≤ greatestPathSize

theorem locate_eq_ok_iff {files : FileSystem} {path : Path} {target : Target} :
    files.locate path = .ok target ↔ Fits path ∧ follow files.tree (files.base path) path.segments = .ok target := by
  unfold locate Fits base
  split
  next empty => simp [empty]
  next named =>
    split
    next bad => simp; grind
    next good => simp; grind

theorem isFile_iff {files : FileSystem} {path : Path} : files.isFile path ↔ ∃ target content executable,
    files.locate path = .ok target ∧ target.entry? files.tree = some (.file content executable) := by
  unfold isFile find?
  cases files.locate path with
  | error denial => simp
  | ok target =>
    simp only [Except.ok.injEq, exists_and_left, exists_eq_left']
    split <;> simp_all

theorem fits_of_isFile {files : FileSystem} {path : Path} (stands : files.isFile path) : Fits path := by
  obtain ⟨target, content, executable, led, -⟩ := isFile_iff.mp stands
  exact (locate_eq_ok_iff.mp led).1

/-- Where a path would lead, whether or not anything is there. -/
def home (files : FileSystem) (path : Path) : Location := resolve (files.base path).location path.segments

theorem location_of_locate {files : FileSystem} {path : Path} {target : Target}
    (led : files.locate path = .ok target) : target.location = files.home path :=
  follow_location (locate_eq_ok_iff.mp led).2

/-- The segments of a path lead to a directory of the tree, which what the path is put in front of is then in. -/
def Leads (files : FileSystem) (path : Path) (location : Location) : Prop :=
  follow files.tree (files.base path) path.segments = .ok (.standing location) ∧ files.tree.get? location = some .directory

theorem Leads.home {files : FileSystem} {path : Path} {location : Location} (leads : files.Leads path location) :
    location = files.home path := follow_location leads.1

/-- A path can be opened as a directory. -/
def Opens (files : FileSystem) (path : Path) (location : Location) : Prop :=
  files.locate path = .ok (.standing location) ∧ files.tree.get? location = some .directory

theorem opens_iff {files : FileSystem} {path : Path} {location : Location} :
    files.Opens path location ↔ Fits path ∧ files.Leads path location := by
  simp only [Opens, Leads, locate_eq_ok_iff, and_assoc]

theorem Opens.leads {files : FileSystem} {path : Path} {location : Location} (opens : files.Opens path location) :
    files.Leads path location := (opens_iff.mp opens).2

theorem Opens.home {files : FileSystem} {path : Path} {location : Location} (opens : files.Opens path location) :
    location = files.home path := opens.leads.home

theorem follow_name {tree : FileTree} {here target : Target} {name : String} (valid : ValidName name) :
    follow tree here [name] = .ok target ↔
      ∃ location, here = .standing location ∧ tree.get? location = some .directory ∧
        target = .standing (location ++ [name]) := by
  cases here with
  | removed location => simp [follow, valid.1, valid.2.1, valid.2.2.1]
  | standing location =>
    cases found : tree.get? location with
    | none => simp [follow, found]
    | some entry =>
      cases entry with
      | file content executable => simp [follow, found]
      | directory => simp [follow, found, valid, valid.1, valid.2.1, valid.2.2.1, eq_comm]

theorem follow_blank {tree : FileTree} {start : Target} {front segments : List String} {location : Location}
    (shape : segments = front ∨ segments = front ++ [""]) (listed : tree.get? location = some .directory) :
    follow tree start segments = .ok (.standing location) ↔ follow tree start front = .ok (.standing location) := by
  rcases shape with rfl | rfl
  · rfl
  · rw [follow_append]
    cases led : follow tree start front with
    | error denial => simp [Except.bind]
    | ok here =>
      cases here with
      | removed here => simp [Except.bind, follow]
      | standing here =>
        cases found : tree.get? here with
        | none => simp [Except.bind, follow, found]; rintro rfl; simp [listed] at found
        | some entry =>
          cases entry with
          | file content executable => simp [Except.bind, follow, found]; rintro rfl; simp [listed] at found
          | directory => simp [Except.bind, follow, found]

theorem fits_of_fits_div {directory : Path} {name : String} (named : directory.text ≠ "") (plain : '/' ∉ name.toList)
    (fits : Fits (directory / name)) : Fits directory := by
  obtain ⟨middle, joined⟩ : ∃ middle, (directory / name).text = directory.text ++ middle := by
    rcases directory.text_div plain with ⟨empty, _⟩ | ⟨front, shape, joined⟩ | ⟨_, joined⟩
    · exact absurd empty named
    · exact ⟨name, by rw [joined, shape]⟩
    · exact ⟨"/" ++ name, by rw [joined, String.append_assoc]⟩
  obtain ⟨-, clean, short⟩ := fits
  rw [joined] at clean short
  simp only [String.toList_append, List.mem_append, not_or, String.utf8ByteSize_append] at clean short
  exact ⟨named, clean.1, by omega⟩

/-- A path that ends in a name leads into the directory that the path before leads to. -/
theorem locate_div {files : FileSystem} {directory : Path} {name : String} {target : Target} (valid : ValidName name) :
    files.locate (directory / name) = .ok target ↔
      Fits (directory / name) ∧ ∃ location, files.Leads directory location ∧ target = .standing (location ++ [name]) := by
  have plain := valid.2.2.2.1
  obtain ⟨front, before, after⟩ := directory.segments_div plain
  rw [locate_eq_ok_iff]
  refine and_congr_right fun fits => ?_
  have same : files.base (directory / name) = files.base directory := by
    simp only [base, Path.isAbsolute_div directory plain]
  rw [same, after, follow_append]
  constructor
  · intro led
    cases first : follow files.tree (files.base directory) front with
    | error denial => simp [first, Except.bind] at led
    | ok here =>
      simp only [first, Except.bind] at led
      obtain ⟨location, rfl, listed, rfl⟩ := (follow_name valid).mp led
      exact ⟨location, ⟨(follow_blank before listed).mpr first, listed⟩, rfl⟩
  · rintro ⟨location, ⟨led, listed⟩, rfl⟩
    have reached := (follow_blank before listed).mp led
    simp only [reached, Except.bind]
    exact (follow_name valid).mpr ⟨location, rfl, listed, rfl⟩

/-- What a path finds that ends in a name, stands in the directory that the path before leads to. -/
theorem find?_div_eq_some_iff {files : FileSystem} {directory : Path} {name : String} {entry : Entry}
    (valid : ValidName name) :
    files.find? (directory / name) = some entry ↔
      Fits (directory / name) ∧ ∃ location, files.Leads directory location ∧
        files.tree.get? (location ++ [name]) = some entry := by
  constructor
  · intro found
    cases led : files.locate (directory / name) with
    | error denial => simp [find?, led] at found
    | ok target =>
      obtain ⟨fits, location, leads, rfl⟩ := (locate_div valid).mp led
      exact ⟨fits, location, leads, by simpa [find?, led, Target.entry?] using found⟩
  · rintro ⟨fits, location, leads, found⟩
    have led := (locate_div valid).mpr ⟨fits, location, leads, rfl⟩
    simpa [find?, led, Target.entry?] using found

end FileSystem
end ComponentViews
