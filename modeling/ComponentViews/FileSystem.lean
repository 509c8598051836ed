import ComponentViews.FileTree
import ComponentViews.Path

/-! A file tree as paths reach it. A path is followed segment by segment from
the root or the working directory; whatever it steps through, `..` and `.`
included, has to be a directory. A working directory that has been removed stays
where it is, out of reach of every path that does not start from it. -/

namespace ComponentViews

/-- Where a path leads: to a location of the tree, or to the working directory after its
removal, which is an empty directory that nothing can be put into. -/
inductive Target where
  | standing (location : Location)
  | removed (location : Location)
  deriving DecidableEq

/-- What stands where a path leads. -/
def Target.entry? (tree : FileTree) : Target → Option FileTree.Entry
  | .standing location => tree.get? location
  | .removed _ => some .directory

structure FileSystem where
  tree : FileTree
  workingDirectory : Target

namespace FileSystem

/-- Why an operation on a path fails: nothing is there, or the tree does not allow it. -/
inductive Denial where
  | missing
  | refused
  deriving DecidableEq, Repr

instance : Inhabited FileSystem := ⟨{ tree := .empty, workingDirectory := .standing [] }⟩

/-- The absolute path of a location. -/
def pathTo (location : Location) : Path := { text := "/" ++ "/".intercalate location }

/-- The absolute path of the working directory, unless that has been removed. -/
def workingPath? (files : FileSystem) : Option Path :=
  match files.workingDirectory with
  | .standing location => some (pathTo location)
  | .removed _ => none

/-- Makes a path absolute without looking at the tree; without a working directory it stays
as it is. -/
def absolute (files : FileSystem) (path : Path) : Path :=
  if path.isAbsolute then path
  else match files.workingPath? with
    | some directory => directory.join path
    | none => path

/-- Works in a directory, which may have been removed by now. -/
def workingIn (files : FileSystem) (directory : Target) : FileSystem :=
  match directory with
  | .standing location =>
    if files.tree.get? location = some .directory then { files with workingDirectory := directory }
    else { files with workingDirectory := .removed location }
  | .removed _ => { files with workingDirectory := directory }

/-- The files after entries have been taken away. -/
def reduced (files : FileSystem) (tree : FileTree) : FileSystem :=
  { files with tree }.workingIn files.workingDirectory

/-- Where segments lead from a directory. -/
def follow (tree : FileTree) : Target → List String → Except Denial Target
  | here, [] => .ok here
  | .removed location, segment :: rest =>
    if segment = "" ∨ segment = "." then follow tree (.removed location) rest
    else if segment = ".." then follow tree (.standing location.dropLast) rest
    else .error .missing
  | .standing here, segment :: rest =>
    match tree.get? here with
    | none => .error .missing
    | some (.file _ _) => .error .refused
    | some .directory =>
      if segment = "" ∨ segment = "." then follow tree (.standing here) rest
      else if segment = ".." then follow tree (.standing here.dropLast) rest
      else if FileTree.ValidName segment then follow tree (.standing (here ++ [segment])) rest
      else .error .refused

/-- No path is longer in bytes. -/
def greatestPathSize : Nat := 4095

/-- Where a path leads; what it names need not exist itself. -/
def locate (files : FileSystem) (path : Path) : Except Denial Target :=
  if path.text = "" then .error .missing
  else if '\x00' ∈ path.text.toList ∨ path.text.utf8ByteSize > greatestPathSize then .error .refused
  else follow files.tree (if path.isAbsolute then .standing [] else files.workingDirectory) path.segments

def find? (files : FileSystem) (path : Path) : Option FileTree.Entry :=
  match files.locate path with
  | .ok target => target.entry? files.tree
  | .error _ => none

def isFile (files : FileSystem) (path : Path) : Bool :=
  match files.find? path with
  | some (.file _ _) => true
  | _ => false

def isDirectory (files : FileSystem) (path : Path) : Bool := files.find? path == some .directory

def readText? (files : FileSystem) (path : Path) : Option String :=
  match files.find? path with
  | some (.file (.text value) _) => some value
  | _ => none

/-- Puts an entry at a location whose parent directory exists. -/
def placeAt (files : FileSystem) (location : Location) (entry : FileTree.Entry) : Except Denial FileSystem :=
  match location.getLast? with
  | none => .error .refused
  | some name =>
    let parent := location.dropLast
    if within : files.tree.get? parent = some .directory then
      if valid : FileTree.ValidName name then
        if free : files.tree.get? (parent ++ [name]) ≠ some .directory then
          .ok { files with tree := files.tree.put parent name entry within valid fun found => absurd found free }
        else .error .refused
      else .error .refused
    else .error .missing

/-- Puts an entry where a path leads. -/
def place (files : FileSystem) (target : Target) (entry : FileTree.Entry) : Except Denial FileSystem :=
  match target with
  | .standing location => files.placeAt location entry
  | .removed _ => .error .refused

/-- Writes a file, a new one or over one that is there. -/
def write (files : FileSystem) (path : Path) (content : Content) (executable : Bool) : Except Denial FileSystem := do
  let target ← files.locate path
  files.place target (.file content executable)

/-- A path without slashes at its end. -/
def withoutSlash (path : Path) : Path :=
  let trimmed := (path.text.toList.reverse.dropWhile (· = '/')).reverse
  if trimmed = [] then path else { text := String.ofList trimmed }

def makeDirectory (files : FileSystem) (path : Path) : Except Denial FileSystem := do
  let target ← files.locate (withoutSlash path)
  match target.entry? files.tree with
  | some _ => .error .refused
  | none => files.place target .directory

/-- Makes a directory, its parents first where nothing is there. Parents that were made
stay when the directory itself is refused. -/
def ensureDirectory (files : FileSystem) : Nat → Path → Except Denial Unit × FileSystem
  | 0, _ => (.error .refused, files)
  | depth + 1, path =>
    if path.text = "" then (.ok (), files) else
      match files.makeDirectory path with
      | .ok files => (.ok (), files)
      | .error .refused => (if files.isDirectory path then .ok () else .error .refused, files)
      | .error .missing =>
        match path.parent? with
        | none => (.error .refused, files)
        | some parent =>
          match files.ensureDirectory depth parent with
          | (.error denial, files) => (.error denial, files)
          | (.ok (), files) =>
            match files.makeDirectory path with
            | .ok files => (.ok (), files)
            | .error denial => (if files.isDirectory path then .ok () else .error denial, files)

/-- Makes a directory with all its parents. A directory that is there stays as it is. -/
def makeDirectories (files : FileSystem) (path : Path) : Except Denial Unit × FileSystem :=
  files.ensureDirectory (path.segments.length + 1) path

/-- The last segment that is not empty. -/
def lastSegment? (path : Path) : Option String := (path.segments.filter (· ≠ "")).getLast?

/-- Removes a directory and all it holds. What it holds goes first: a path that led
through it then leads nowhere, and a path that ends in `.` or `..` cannot be removed. -/
def removeTree (files : FileSystem) (path : Path) : Except Denial Unit × FileSystem :=
  match files.locate path with
  | .error denial => (.error denial, files)
  | .ok (.removed _) => (.error .refused, files)
  | .ok (.standing location) =>
    match files.tree.get? location with
    | none => (.error .missing, files)
    | some (.file _ _) => (.error .refused, files)
    | some .directory =>
      let emptied := files.reduced (files.tree.clear location)
      match emptied.locate path with
      | .error .missing => (.ok (), emptied)
      | .ok (.standing location) =>
        if location = [] ∨ lastSegment? path = some "." ∨ lastSegment? path = some ".." then (.error .refused, emptied)
        else (.ok (), emptied.reduced (emptied.tree.remove location))
      | _ => (.error .refused, emptied)

def removeFile (files : FileSystem) (path : Path) : Except Denial FileSystem := do
  match ← files.locate path with
  | .removed _ => .error .refused
  | .standing location =>
    match files.tree.get? location with
    | some (.file _ _) => .ok { files with tree := files.tree.remove location }
    | some .directory => .error .refused
    | none => .error .missing

/-- Everything below a directory, in the order of `FileTree.below`. -/
def below? (files : FileSystem) (directory : Path) : Option (List (Location × FileTree.Entry)) :=
  match files.locate directory with
  | .ok (.standing location) =>
    if files.tree.get? location = some .directory then some (files.tree.below location) else none
  | .ok (.removed _) => some []
  | .error _ => none

/-- The path of an entry below a directory. -/
def pathBelow (directory : Path) (location : Location) : Path := location.foldl (· / ·) directory

/-- The first directory below a directory whose whole path is too long to open it by. -/
def unopenable? (files : FileSystem) (directory : Path) : Option Path :=
  let inner := ((files.below? directory).getD []).filter fun entry => entry.2 == .directory
  (inner.map fun entry => pathBelow directory entry.1).find? fun path => path.text.utf8ByteSize > greatestPathSize

/-- The regular files below a directory, in the order of `FileTree.below`, or else the path
of a directory on the way that cannot be opened. -/
def filesBelow (files : FileSystem) (directory : Path) : Except Path (List Location) :=
  match files.unopenable? directory with
  | some path => .error path
  | none => .ok (((files.below? directory).getD []).filterMap fun (location, entry) =>
      match entry with
      | .file _ _ => some location
      | .directory => none)

end FileSystem
end ComponentViews
