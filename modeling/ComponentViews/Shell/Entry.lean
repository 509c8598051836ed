import ComponentViews.Shell.Place

/-! What paths name, and how it is made, moved and taken away: files, directories, links and
pipes, with what is known about them. -/

namespace ComponentViews.Shell

/-- What a path names. -/
inductive Standing where
  | link (target : Octets)
  | queue
  | device
  | file (content : Content) (executable : Bool)
  | directory
  deriving DecidableEq

namespace State

/-- What stands at a location where no link does. -/
def standingAt (state : State) (location : Location) : Except Trouble Standing :=
  if (Place.deviceAt? location).isSome ∨ (Place.descriptorAt? location).isSome then .ok .device
  else match state.entryAt? location, state.world.queues.find? location with
    | some (.file _ _), some _ => .ok .queue
    | some (.file content executable), none => .ok (.file content executable)
    | some .directory, _ => .ok .directory
    | none, _ => .error .missing

/-- Where a path leads, and what stands there. -/
def reached (state : State) (path : Octets) : Except Trouble (Location × Standing) :=
  if state.isCircular path then .error .circular
  else match state.files.locate (state.pathOf path) with
    | .error denial => .error (.ofDenial denial)
    | .ok (.removed _) => .error .missing
    | .ok (.standing location) => (state.standingAt location).map (location, ·)

/-- What a path names, with where that stands. A link stands for itself. -/
def standing (state : State) (path : Octets) : Except Trouble (Location × Standing) :=
  match if path.getLast? = some '/' then none else state.link? path with
  | some (location, target) => .ok (location, .link target)
  | none => state.reached path

/-- Where something new by a path would stand. -/
def vacancy (state : State) (path : Octets) : Except Trouble Location :=
  match state.files.locate (state.pathOf path) with
  | .error denial => .error (.ofDenial denial)
  | .ok (.removed _) => .error .missing
  | .ok (.standing location) =>
    match state.files.tree.get? location.dropLast with
    | some .directory => .ok location
    | some (.file _ _) => .error .noDirectory
    | none => .error .missing

/-- The locations that name the same file as one does. -/
def namesOf (state : State) (location : Location) : List Location :=
  state.world.links.entries.filterMap fun (other, link) => if link = .same location then some other else none

/-- Puts something at a location whose directory is there. -/
def put (state : State) (location : Location) (entry : FileTree.Entry) : State :=
  match state.files.placeAt location entry with
  | .ok files => (state.withFiles files).stamp location
  | .error _ => state

/-- Forgets a location without regard to what else it names. -/
def erase (state : State) (location : Location) : State :=
  let state := state.withFiles (state.files.reduced (state.files.tree.remove location))
  state.dropNotes location

/-- Takes away what stands at a location, with all below it. A file that has other names lives on
under the first of them. -/
def discard (state : State) (location : Location) : State :=
  match state.world.links.find? location with
  | some _ => state.dropNotes location
  | none =>
    let content := state.files.tree.get? location
    match state.namesOf location, content with
    | name :: others, some (.file content executable) =>
      let mode := state.world.modes.find? location
      let links := state.world.links.entries.filterMap fun (other, link) =>
        if other = name then none else some (other, if others.contains other then .same name else link)
      let freed := (state.erase location)
      let moved := { freed with world := { freed.world with links := { entries := links } } }.put name
        (.file content executable)
      match mode with
      | some mode => moved.setModeAt name mode
      | none => moved
    | _, _ => state.erase location

/-- Moves what stands at a location to another one, with all below it. -/
def relocate (state : State) (source target : Location) : State :=
  if source = target then state
  else
    let cleared := state.discard target
    let entries : List (Location × FileTree.Entry) := match cleared.files.tree.get? source with
      | some .directory => ([], .directory) :: cleared.files.tree.below source
      | some entry => [([], entry)]
      | none => []
    let notes := cleared.world
    let placed := entries.foldl (fun state (location, entry) => state.put (target ++ location) entry) cleared
    let removed := placed.erase source
    let moved (location : Location) : Location :=
      match FileTree.relative? source location with
      | some rest => target ++ rest
      | none => location
    let mapped {α : Type} (table : Table Location α) : Table Location α :=
      { entries := table.entries.map fun (location, value) => (moved location, value) }
    let links : List (Location × Link) := notes.links.entries.map fun (location, link) =>
      (moved location, match link with
        | .same other => .same (moved other)
        | .path target => .path target)
    { removed with world := {
        removed.world with
        changes := mapped notes.changes, modes := mapped notes.modes, queues := mapped notes.queues
        links := { entries := links } } }

def setLink (state : State) (location : Location) (link : Link) : State :=
  { state with world := { state.world with links := state.world.links.insert location link } }.stamp location

/-- Makes a directory. -/
def makeDirectory (state : State) (location : Location) : State :=
  (state.put location .directory).grant location 0o777

/-- Makes a pipe that has a name. -/
def makeQueue (state : State) (location : Location) : State :=
  let (number, state) := state.newStream .unbounded
  let made := (state.put location (.file (.text "") false)).grant location 0o666
  { made with world := { made.world with queues := made.world.queues.insert location number } }

/-- When what stands at a location was changed. -/
def changedAt (state : State) (location : Location) : Int := (state.world.changes.find? location).getD 0

def setChanged (state : State) (location : Location) (time : Int) : State :=
  { state with world := { state.world with changes := state.world.changes.insert location time } }

/-- How many octets what stands somewhere holds. -/
def sizeOf (standing : Standing) : Nat :=
  match standing with
  | .link target => target.length
  | .file content _ => content.bytes.length
  | .directory => 4096
  | .queue => 0
  | .device => 0

/-- The files as they are left behind: those that links lead to stand in the place of the links,
and pipes are gone. -/
def settled (state : State) : State :=
  let (linked, queues) := (state.world.links.entries.map Prod.fst, state.world.queues.entries.map Prod.fst)
  let found := linked.filterMap fun location =>
    match state.entry? (.ofText (FileSystem.pathTo location).text) with
    | some (.file content executable) => some (location, FileTree.Entry.file content executable)
    | _ => none
  let plain := queues.foldl erase { state with world := { state.world with links := .empty } }
  found.foldl (fun state (location, entry) => state.put location entry) plain

end State
end ComponentViews.Shell
