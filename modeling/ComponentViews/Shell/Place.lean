import ComponentViews.Shell.Mode
import ComponentViews.Shell.State
import ComponentViews.Shell.System

/-! What paths lead to: files and directories, what descriptors stand for, devices, and
files that are pipes. -/

namespace ComponentViews.Shell

inductive Device where
  | null
  | zero
  | random
  /-- Has no room for anything. -/
  | full
  | terminal
  deriving DecidableEq, Repr

/-- What a path leads to. -/
inductive Place where
  | descriptor (number : Nat)
  | device (device : Device)
  | queue (stream : Nat)
  | entry (target : Target) (entry : Option FileTree.Entry)

inductive Kind where
  | file
  | directory
  | pipe
  | device
  deriving DecidableEq, Repr

/-- Where segments lead from a location when links are followed. The last segment is left as it
is if that is asked for. Links that go round lead nowhere. -/
def followLinks (links : Table Location Link) (last : Bool) : Nat → Location → List String → Option Location
  | 0, _, _ => none
  | _ + 1, here, [] => some here
  | fuel + 1, here, segment :: rest =>
    if segment = "" ∨ segment = "." then followLinks links last fuel here rest
    else if segment = ".." then followLinks links last fuel here.dropLast rest
    else
      let reached := here ++ [segment]
      match links.find? reached with
      | none => followLinks links last fuel reached rest
      | some (.same location) => followLinks links last fuel location rest
      | some (.path target) =>
        if rest = [] ∧ !last then some reached
        else
          let start := if target.head? = some '/' then [] else here
          followLinks links last fuel start ((target.splitOn '/').map Octets.toText ++ rest)

/-- How many segments are followed until links count as going round. -/
def mostSegments : Nat := 4096

namespace Place

def devices : List (String × Device) :=
  [("null", .null), ("zero", .zero), ("random", .random), ("urandom", .random), ("full", .full), ("tty", .terminal)]

def descriptors : List (String × Nat) := [("stdin", 0), ("stdout", 1), ("stderr", 2)]

/-- The descriptor that a location stands for. -/
def descriptorAt? : Location → Option Nat
  | ["dev", "fd", number] => number.toNat?
  | ["proc", "self", "fd", number] => number.toNat?
  | ["dev", name] => descriptors.lookup name
  | _ => none

def deviceAt? : Location → Option Device
  | ["dev", name] => devices.lookup name
  | _ => none

end Place

namespace State

/-- The location that a path names, with links followed, the last one only if that is asked for. -/
def linked? (state : State) (path : Octets) (last : Bool) : Option Location :=
  let here := match state.world.stored.workingDirectory with
    | .standing location => location
    | .removed location => location
  let segments := (path.splitOn '/').map Octets.toText
  followLinks state.world.links last mostSegments (if path.head? = some '/' then [] else here) segments

/-- A path in which no link is left. -/
def pathOf (state : State) (octets : Octets) : Path :=
  if state.world.links.entries.isEmpty then { text := octets.toText }
  else match state.linked? octets true with
    | none => { text := octets.toText }
    | some location =>
      let plain : Path := { text := octets.toText }
      let isPlain := match state.world.stored.locate plain with
        | .ok (.standing location) => (state.world.links.find? location).isNone
        | .ok (.removed _) => true
        | .error _ => false
      if isPlain then plain
      else { text := (FileSystem.pathTo location).text ++ (if octets.getLast? = some '/' then "/" else "") }

/-- The link that a path names, with where it stands and the path that it stands for. -/
def link? (state : State) (path : Octets) : Option (Location × Octets) :=
  if state.world.links.entries.isEmpty then none
  else (state.linked? path false).bind fun location =>
    match state.world.links.find? location with
    | some (.path target) => some (location, target)
    | _ => none

/-- Whether links go round where a path leads. -/
def isCircular (state : State) (path : Octets) : Bool :=
  !state.world.links.entries.isEmpty && (state.linked? path true).isNone

/-- Tables of what is known about locations, with all that is said about some of them changed. -/
def mapNotes (state : State) (move : Location → Option Location) : State :=
  let mapped {α : Type} (table : Table Location α) : Table Location α :=
    { entries := table.entries.filterMap fun (location, value) => (move location).map (·, value) }
  { state with world := {
      state.world with
      changes := mapped state.world.changes, modes := mapped state.world.modes, links := mapped state.world.links
      queues := mapped state.world.queues } }

/-- Forgets what is known about a location and all below it. -/
def dropNotes (state : State) (location : Location) : State :=
  state.mapNotes fun other => if (FileTree.relative? location other).isSome then none else some other

/-- What stands at a location. -/
def entryAt? (state : State) (location : Location) : Option FileTree.Entry :=
  let program : Option FileTree.Entry := (System.programAt? location).map (.file · true)
  match state.world.drafts.find? location with
  | some draft => (extended state.world.stored (location, draft)).tree.get? location
  | none => (state.world.stored.tree.get? location).or program

def place (state : State) (path : Octets) : Except FileSystem.Denial Place := do
  match ← state.world.stored.locate (state.pathOf path) with
  | .removed location => pure (.entry (.removed location) (some .directory))
  | .standing location =>
    match Place.descriptorAt? location, Place.deviceAt? location, state.world.queues.find? location with
    | some number, _, _ => pure (.descriptor number)
    | none, some device, _ => pure (.device device)
    | none, none, some stream =>
      pure (if (state.entryAt? location).isSome then .queue stream else .entry (.standing location) none)
    | none, none, none => pure (.entry (.standing location) (state.entryAt? location))

/-- The descriptor that a path stands for. -/
def descriptorOf? (state : State) (path : Octets) : Option Nat :=
  match state.place path with
  | .ok (.descriptor number) => some number
  | _ => none

def entry? (state : State) (path : Octets) : Option FileTree.Entry :=
  match state.world.stored.locate (state.pathOf path) with
  | .ok (.standing location) => state.entryAt? location
  | .ok (.removed _) => some .directory
  | .error _ => none

/-- Whether a path names the file that output goes to. -/
def isOutput (state : State) (path : Octets) : Bool :=
  match state.place path, state.channel? 1 with
  | .ok (.entry (.standing location) (some (.file _ _))), some (.file target) => location = target
  | _, _ => false

def isDirectory (state : State) (path : Octets) : Bool := state.entry? path == some .directory

def kind? (state : State) (path : Octets) : Option Kind :=
  match state.place path with
  | .error _ => none
  | .ok (.device _) => some .device
  | .ok (.queue _) => some .pipe
  | .ok (.entry _ entry) => entry.map fun entry => if entry == .directory then .directory else .file
  | .ok (.descriptor number) => (state.channel? number).map fun
    | .reader stream => if (state.stream stream).ofFile then .file else .pipe
    | .writer _ => .pipe
    | .file _ => .file
    | .update _ _ => .file
    | .both _ => .pipe
    | .void => .device
    | .full => .device

def isFile (state : State) (path : Octets) : Bool := state.kind? path = some .file

def isExecutable (state : State) (path : Octets) : Bool :=
  match state.entry? path with
  | some (.file _ executable) => executable
  | _ => false

/-- What one directory holds, by name. -/
def namesIn (state : State) (directory : Octets) : List String :=
  let path := state.pathOf directory
  let names := ((state.world.stored.below? path).getD []).filterMap fun (location, _) =>
    match location with
    | [name] => some name
    | _ => none
  match if state.world.links.entries.isEmpty then .error .missing else state.world.stored.locate path with
  | .ok (.standing here) =>
    names ++ state.world.links.entries.filterMap fun (location, _) =>
      match FileTree.relative? here location with
      | some [name] => some name
      | _ => none
  | _ => names

/-! ### Permissions -/

/-- The permissions of what stands at a location. -/
def modeAt (state : State) (location : Location) : Nat :=
  match state.entryAt? location with
  | some (.file _ executable) =>
    match state.world.modes.find? location with
    | some mode => if Mode.isExecutable mode = executable then mode else if executable then 0o755 else 0o644
    | none => if executable then 0o755 else 0o644
  | _ => (state.world.modes.find? location).getD (if location = ["tmp"] then 0o1777 else 0o755)

/-- The permissions of what a path leads to. -/
def mode? (state : State) (path : Octets) : Option Nat :=
  match state.world.stored.locate (state.pathOf path) with
  | .ok (.standing location) => (state.entryAt? location).map fun _ => state.modeAt location
  | .ok (.removed _) => some 0o755
  | .error _ => none

/-- Sets the permissions of what stands at a location. -/
def setModeAt (state : State) (location : Location) (mode : Nat) : State :=
  let state := { state with world := { state.world with modes := state.world.modes.insert location mode } }
  match state.files.tree.get? location with
  | some (.file content executable) =>
    if executable = Mode.isExecutable mode then state
    else match state.files.placeAt location (.file content (Mode.isExecutable mode)) with
      | .ok files => state.withFiles files
      | .error _ => state
  | _ => state

def setMode (state : State) (path : Octets) (mode : Nat) : State :=
  match state.world.stored.locate (state.pathOf path) with
  | .ok (.standing location) => state.setModeAt location mode
  | _ => state

/-- Gives something new the permissions that are not kept from it. -/
def grant (state : State) (location : Location) (mode : Nat) : State :=
  if state.process.mask = Mode.usualMask then state
  else
    let mode := Mode.without mode state.process.mask
    { state with world := { state.world with modes := state.world.modes.insert location mode } }

/-! ### Contents -/

/-- Puts content at a location, into a file that stays executable if it was. -/
def store (state : State) (location : Location) (content : Octets) : Except FileSystem.Denial State := do
  let executable := match state.world.stored.tree.get? location with
    | some (.file _ executable) => executable
    | _ => false
  let isNew := (state.world.stored.tree.get? location).isNone
  let files ← state.files.placeAt location (.file (.ofBytes content.toBytes) executable)
  let stored := (state.withFiles files).stamp location
  pure (if isNew then stored.grant location 0o666 else stored)

/-- Notes that what a path leads to changes. -/
def stampPath (state : State) (path : Octets) : State :=
  match state.world.stored.locate (state.pathOf path) with
  | .ok (.standing location) => state.stamp location
  | _ => state

/-- When what a path leads to was changed. -/
def changed? (state : State) (path : Octets) : Option Int :=
  match state.world.stored.locate (state.pathOf path) with
  | .ok (.standing location) => (state.entryAt? location).map fun _ => (state.world.changes.find? location).getD 0
  | _ => none

/-- How much is read of a device that never ends, unless it is known how much is wanted. -/
def deviceExtent : Nat := 1048576

/-- Numbers without any order that shows. -/
def scattered : Nat → Nat → List Nat
  | 0, _ => []
  | count + 1, seed =>
    let next := (seed * 6364136223846793005 + 1442695040888963407) % 18446744073709551616
    next / 4294967296 :: scattered count next

/-- So many octets of a device. -/
def deviceContent (extent : Nat) : Device → Octets
  | .null => []
  | .zero => List.replicate extent '\x00'
  | .full => List.replicate extent '\x00'
  | .random => (scattered extent 88172645463325252).map fun number => Char.ofNat (number % 256)
  | .terminal => []

/-- The octets of a file, or the rest of what a path's descriptor has to read. Of a device that
never ends some octets are read. -/
def readAtMost (state : State) (path : Octets) (extent : Option Nat) : Except Trouble (Octets × State) :=
  if state.isCircular path then .error .circular
  else match state.place path with
  | .error denial => .error (.ofDenial denial)
  | .ok (.descriptor number) =>
    (state.pending? number).map fun stream => (stream.content, state.leave number [])
  | .ok (.device .terminal) => .error .noDevice
  | .ok (.device device) => .ok (deviceContent (extent.getD deviceExtent) device, state)
  | .ok (.queue number) =>
    let stream := state.stream number
    .ok (stream.content, state.setStream number (stream.keep []))
  | .ok (.entry _ (some (.file content _))) => .ok (.ofBytes content.bytes, state)
  | .ok (.entry _ (some .directory)) => .error .isDirectory
  | .ok (.entry _ none) => .error .missing

def read (state : State) (path : Octets) : Except Trouble (Octets × State) := state.readAtMost path none

/-- Opens a file to add to it, after emptying it if that is asked for. -/
def openOutput (state : State) (path : Octets) (empties : Bool) : Except Trouble (Channel × State) :=
  if state.isCircular path then .error .circular
  else match state.place path with
  | .error denial => .error (.ofDenial denial)
  | .ok (.descriptor number) =>
    match state.channel? number with
    | some channel => .ok (channel, state)
    | none => .error .missing
  | .ok (.device .terminal) => .error .noDevice
  | .ok (.device .full) => .ok (.full, state)
  | .ok (.device _) => .ok (.void, state)
  | .ok (.queue number) => .ok (.writer number, state.setStream number { state.stream number with awaited := false })
  | .ok (.entry (.removed _) _) => .error .missing
  | .ok (.entry (.standing _) (some .directory)) => .error .isDirectory
  | .ok (.entry (.standing location) entry) =>
    if !empties ∧ entry.isSome then .ok (.file location, state)
    else match state.store location [] with
      | .ok state => .ok (.file location, state)
      | .error denial => .error (.ofDenial denial)

/-- Writes a file as a whole. -/
def write (state : State) (path : Octets) (content : Octets) : Except Trouble State :=
  (state.openOutput path true).map fun (channel, state) => state.send channel content

/-- Opens a file to read it. -/
def openInput (state : State) (path : Octets) : Except Trouble (Channel × State) :=
  if state.isCircular path then .error .circular
  else match state.place path with
  | .error denial => .error (.ofDenial denial)
  | .ok (.device .null) => .ok (.void, state)
  | .ok (.descriptor number) =>
    match state.channel? number with
    | some channel => .ok (channel, state)
    | none => .error .missing
  | .ok (.queue number) =>
    let stream := state.stream number
    let vacant := stream.size = 0 ∧ !state.isWritten number
    .ok (.reader number, state.setStream number { stream with awaited := stream.awaited || vacant })
  | .ok _ =>
    (state.read path).map fun (content, state) =>
      let (number, state) := state.newStream (.ofContent content true)
      (.reader number, state)

/-- The stream behind a path, if that stands for a pipe. -/
def queueAt? (state : State) (path : Octets) : Option Nat :=
  match state.place path with
  | .ok (.queue number) => some number
  | _ => none

/-- Opens a file to read it and to write over it. -/
def openUpdate (state : State) (path : Octets) : Except Trouble (Channel × State) :=
  match state.place path with
  | .ok (.entry (.standing _) (some .directory)) => .error .isDirectory
  | .ok (.entry (.standing location) entry) =>
    match if entry.isSome then .ok state else state.store location [] with
    | .error denial => .error (.ofDenial denial)
    | .ok state =>
      (state.read path).map fun (content, state) =>
        let (number, state) := state.newStream (.ofContent content true)
        (.update number location, state)
  | .ok (.device .null) => .ok (.void, state)
  | .ok (.device .full) => .ok (.full, state)
  | .ok (.queue number) => .ok (.both number, state)
  | _ => state.openInput path

end State
end ComponentViews.Shell
