import ComponentViews.FileSystem
import ComponentViews.Shell.Calendar
import ComponentViews.Shell.Name
import ComponentViews.Shell.Script
import ComponentViews.Shell.Stream
import ComponentViews.Table

/-! The state of a running script: the world that all processes share, and what each
process has of its own, such as variables, functions, options and descriptors. -/

namespace ComponentViews.Shell

/-- What an array holds: its members in the order in which they are listed, with what each one is found
by, a number or any key. -/
structure Members where
  keyed : Bool
  entries : List (Octets × Octets)
  deriving DecidableEq, Repr

namespace Members

def numberOf (key : Octets) : Nat := key.foldl (fun value c => value * 10 + (c.toNat - '0'.toNat)) 0

/-- Members by their numbers. -/
def ofList (values : List Octets) : Members :=
  { keyed := false, entries := values.zipIdx.map fun (value, number) => (Nat.toDigits 10 number, value) }

def empty (keyed : Bool) : Members := { keyed, entries := [] }

def values (members : Members) : List Octets := members.entries.map Prod.snd

def keys (members : Members) : List Octets := members.entries.map Prod.fst

def find? (members : Members) (key : Octets) : Option Octets := members.entries.lookup key

/-- A number behind all that are taken. -/
def nextNumber (members : Members) : Nat := (members.entries.map fun entry => numberOf entry.1 + 1).foldl max 0

/-- A number that scatters keys. -/
def scatter (key : Octets) : Nat :=
  key.foldl (fun value c =>
    let octet := if c.toNat < 128 then c.toNat else c.toNat + 4294967040
    Nat.xor (value * 16777619 % 4294967296) octet) 2166136261

/-- How many places keys are scattered over. -/
def places : Nat := 1024

/-- Where a key stands among the others. -/
def rank (members : Members) (key : Octets) : Nat :=
  if members.keyed then scatter key % places else numberOf key

def insertBehind (rank : Octets → Nat) (key value : Octets) : List (Octets × Octets) → List (Octets × Octets)
  | [] => [(key, value)]
  | entry :: rest =>
    if entry.1 = key then (key, value) :: rest
    else if rank key ≤ rank entry.1 && !rest.any (·.1 = key) then (key, value) :: entry :: rest
    else entry :: insertBehind rank key value rest

def insert (members : Members) (key value : Octets) : Members :=
  { members with entries := insertBehind members.rank key value members.entries }

def erase (members : Members) (key : Octets) : Members :=
  { members with entries := members.entries.filter fun entry => entry.1 ≠ key }

end Members

structure Variable where
  value : Option Octets
  /-- Whether started programs see it. -/
  exported : Bool
  /-- Whether it must stay as it is. -/
  fixed : Bool
  /-- What it holds if it is an array. -/
  members : Option Members := none
  /-- What else is known about it: that it holds numbers (`i`), small (`l`) or capital letters (`u`), or
  the name of another one that it stands for (`n`), or that nothing has been put into it (`-`). -/
  traits : List Char := []
  deriving DecidableEq, Repr

/-- Why a file cannot be used. -/
inductive Trouble where
  | missing
  | isDirectory
  | noDirectory
  | present
  | closed
  | noDevice
  | notEmpty
  | invalid
  | circular
  | full
  deriving DecidableEq, Repr

def Trouble.message : Trouble → String
  | .missing => "No such file or directory"
  | .isDirectory => "Is a directory"
  | .noDirectory => "Not a directory"
  | .present => "File exists"
  | .closed => "Bad file descriptor"
  | .noDevice => "No such device or address"
  | .notEmpty => "Directory not empty"
  | .invalid => "Invalid argument"
  | .circular => "Too many levels of symbolic links"
  | .full => "No space left on device"

/-- What a function hides of what is outside: a variable, or the options. -/
inductive Hidden where
  | variable (name : Octets) (held : Option Variable)
  | options (letters : List Char) (switches : List Octets)
  deriving DecidableEq, Repr

/-- The name of what is hidden, if that is a variable. -/
def Hidden.name? : Hidden → Option Octets
  | .variable name _ => some name
  | .options _ _ => none

/-- What a variable was that may be hidden. -/
def Hidden.held? (wanted : Octets) : Hidden → Option (Option Variable)
  | .variable name held => if name = wanted then some held else none
  | .options _ _ => none

/-- A process that waits for another to end. -/
structure Frame where
  id : Nat
  group : Nat
  /-- What it keeps open. -/
  channels : List Channel
  /-- Signals that it takes itself. -/
  handled : List Nat

structure Process where
  /-- What language the script is written in. -/
  dialect : Dialect
  bindings : Table Octets Variable
  functions : Table Octets Script
  /-- Functions that started shells know too. -/
  lent : Table Octets Script
  /-- Names of commands that stand for texts, in the order in which they were given. -/
  nicknames : List (Octets × Octets)
  /-- Options by their letters. -/
  options : List Char
  /-- Options that are on and have only names. -/
  switches : List Octets
  /-- Whether failures are looked at, and so end nothing. -/
  tested : Bool
  /-- The name of the script. -/
  name : Octets
  arguments : List Octets
  /-- The status of the last command. -/
  status : Nat
  /-- What signals are sent to. -/
  id : Nat
  /-- What signals are sent to that are for several processes. -/
  group : Nat
  /-- What the script takes for its own number, which parts of it that run aside share. -/
  number : Nat
  parent : Nat
  /-- Processes in the background with the numbers of their jobs, the last one first. -/
  jobs : List (Nat × Nat)
  /-- Those among them whose end has been noticed. -/
  noticed : List Nat
  /-- The process that went to the background last. -/
  latest : Option Nat
  descriptors : Table Nat Channel
  /-- What to run at the end of the script or upon a signal. -/
  traps : Table Nat Octets
  /-- What local variables hide, for each running function. -/
  scopes : List (List Hidden)
  /-- How many loops run around the current command. -/
  loops : Nat
  /-- The line of the current command. -/
  line : Nat
  /-- The command of the shell that is running. -/
  command : Option Octets
  /-- The number of the argument whose options are read next, and how much has been read of the one in
  front of it, unless all of it has. -/
  passed : Nat × Option Nat
  /-- The status of the last script whose output was taken. -/
  substituted : Nat
  /-- Those that wait for this one to end, and what they keep open. -/
  frames : List Frame
  /-- How many functions run around the current command. -/
  depth : Nat
  /-- The functions that run, the innermost first. -/
  calls : List Octets
  /-- The statuses of the commands of the last pipe. -/
  outcomes : List Nat
  /-- How many processes around this one run parts of the same script. -/
  nesting : Nat
  /-- Where the next number by chance comes from. -/
  seed : Nat
  /-- Directories to go back to. -/
  left : List Octets
  /-- Descriptors that paths of streams in the current command stand for. -/
  passages : List Nat
  /-- The file that the running commands come from, where it has a name of its own. -/
  origin : Option Octets
  /-- The permissions that nothing gets that it makes. -/
  mask : Nat
  /-- Whether the process has nothing to do behind the current command. -/
  last : Bool
  /-- Whether something was written that nobody will read. -/
  broken : Bool
  /-- Why some output could not be written, if it could not. -/
  unwritten : Option Trouble
  /-- Whether a utility has all that it wants to read. -/
  sated : Bool
  /-- Whether a utility wanted to read its input, which leads nowhere. -/
  starved : Bool
  /-- How the running program was called. -/
  called : Octets

/-- What a process that has been started is to do. -/
inductive Task where
  | script (body : Script)
  | program (path name : Octets) (arguments : List Octets)

/-- A process that starts. -/
structure Birth where
  process : Process
  /-- The process that has started it. -/
  parent : Nat
  directory : Target
  task : Task
  /-- When it starts. -/
  time : Nat

/-- What a link stands for: a path, or the same file as another location. -/
inductive Link where
  | path (target : Octets)
  | same (location : Location)
  deriving DecidableEq, Repr

/-- How a process has ended: its status, and the signal that ended it if one did. -/
abbrev Ending := Nat × Option Nat

/-- What all processes share. -/
structure World where
  /-- The files, but for what has been added to some of them since. -/
  stored : FileSystem
  /-- What has been added to files, the latest first. -/
  drafts : Table Location (List Octets)
  /-- When files were changed, in millionths of a second, where that was not before the start. -/
  changes : Table Location Int
  /-- The permissions of files and directories where they are not the usual ones. -/
  modes : Table Location Nat
  /-- Links with what they stand for. -/
  links : Table Location Link
  /-- The streams of files that are pipes. -/
  queues : Table Location Nat
  streams : Table Nat Stream
  nextStream : Nat
  nextProcess : Nat
  /-- Processes with the signals that they have yet to take. -/
  raised : List (Nat × Nat)
  births : List Birth
  endings : Table Nat Ending
  /-- The other processes, with those that wait for them. -/
  others : List Frame
  /-- The time in millionths of a second. -/
  clock : Nat
  /-- How many steps have been taken. -/
  beats : Nat

/-- What a process keeps open, and those that wait for it. -/
def Process.channels (process : Process) : List Channel :=
  process.descriptors.entries.map Prod.snd ++ process.frames.flatMap Frame.channels

/-- Whether another process than the running one keeps a channel of some kind open. -/
def World.keeps (world : World) (isIt : Channel → Bool) : Bool :=
  world.others.any (·.channels.any isIt) || world.births.any fun birth => birth.process.channels.any isIt

/-- A process as one that waits for another. -/
def Process.frame (process : Process) : Frame where
  id := process.id
  group := process.group
  channels := process.descriptors.entries.map Prod.snd
  handled := process.traps.entries.map Prod.fst

/-- Whether a process is there. -/
def World.lives (world : World) (id : Nat) : Bool :=
  world.others.any (·.id = id) || world.births.any fun birth => birth.process.id = id

structure State where
  world : World
  process : Process

/-- Why a script, a function or the body of a loop stops before its end. -/
inductive Halt where
  | exited
  /-- Something is wrong, which ends the script unless a command catches it. -/
  | faulted
  | killed (signal : Nat)
  | returned
  /-- Some loops end, the last of which may go on with its next round. -/
  | skipped (loops : Nat) (goesOn : Bool)
  /-- Something is wrong, which ends the commands on the line. -/
  | dropped
  deriving DecidableEq, Repr

def Trouble.ofDenial : FileSystem.Denial → Trouble
  | .missing => .missing
  | .refused => .noDirectory

namespace State

/-- The files with what has been added to one of them. -/
def extended (files : FileSystem) (draft : Location × List Octets) : FileSystem :=
  match files.tree.get? draft.1 with
  | some (.file content executable) =>
    let whole := Content.ofBytes (content.bytes ++ Octets.toBytes draft.2.reverse.flatten)
    ((files.placeAt draft.1 (.file whole executable)).toOption).getD files
  | _ => files

/-- The files as everybody sees them. -/
def files (state : State) : FileSystem :=
  state.world.drafts.entries.foldl extended state.world.stored

def withFiles (state : State) (files : FileSystem) : State :=
  { state with world := { state.world with stored := files, drafts := .empty } }

def adjust (state : State) (change : Process → Process) : State := { state with process := change state.process }

def withStatus (state : State) (status : Nat) : State := { state with process := { state.process with status } }

def status (state : State) : Nat := state.process.status

def succeed (state : State) : State := state.withStatus 0

/-- A state in which a utility would not read on. -/
def sate (state : State) : State := { state with process := { state.process with sated := true } }

/-- A state whose status tells whether something holds. -/
def answer (state : State) (holds : Bool) : State := state.withStatus (if holds then 0 else 1)

/-! ### Descriptors and streams -/

def channel? (state : State) (descriptor : Nat) : Option Channel := state.process.descriptors.find? descriptor

def stream (state : State) (number : Nat) : Stream := (state.world.streams.find? number).getD .unbounded

def setStream (state : State) (number : Nat) (stream : Stream) : State :=
  { state with world := { state.world with streams := state.world.streams.insert number stream } }

def newStream (state : State) (stream : Stream) : Nat × State :=
  let number := state.world.nextStream
  let added := state.setStream number stream
  (number, { added with world := { added.world with nextStream := number + 1 } })

/-- Whether somebody may write to a stream, now or later. -/
def isWritten (state : State) (number : Nat) : Bool :=
  state.process.channels.any (·.writes number) || state.world.keeps (·.writes number) || (state.stream number).awaited

/-- Whether somebody may read from a stream. What nothing bounds is read in the end. -/
def isRead (state : State) (number : Nat) : Bool :=
  (state.stream number).capacity.isNone || state.process.channels.any (·.reads number) ||
    state.world.keeps (·.reads number)

/-- Forgets a stream that nobody uses any more, unless it has a name. -/
def dropStream (state : State) (number : Nat) : State :=
  let uses (channel : Channel) : Bool := channel.reads number || channel.writes number
  let isNamed := state.world.queues.entries.any fun entry => entry.2 = number
  if isNamed || state.process.channels.any uses || state.world.keeps uses then state
  else { state with world := { state.world with streams :=
    { entries := state.world.streams.entries.filter fun entry => entry.1 ≠ number } } }

def setDescriptor (state : State) (descriptor : Nat) (channel : Channel) : State :=
  let descriptors := state.process.descriptors.insert descriptor channel
  { state with process := { state.process with descriptors } }

def closeDescriptor (state : State) (descriptor : Nat) : State :=
  { state with process := { state.process with descriptors :=
    { entries := state.process.descriptors.entries.filter fun entry => entry.1 ≠ descriptor } } }

/-- Sends a signal to a process. -/
def raise (state : State) (id signal : Nat) : State :=
  if state.world.raised.contains (id, signal) then state
  else { state with world := { state.world with raised := state.world.raised ++ [(id, signal)] } }

/-- Sends a signal to the other processes of a group. -/
def raiseAmong (state : State) (group signal : Nat) : State :=
  let frames := state.world.others ++ state.process.frames ++ state.world.births.map fun birth => birth.process.frame
  let members := (frames.filter fun frame => frame.group = group && frame.id ≠ state.process.id).map Frame.id
  members.foldl (fun state id => state.raise id signal) state

/-- Notes that a file changes. -/
def stamp (state : State) (location : Location) : State :=
  { state with world := { state.world with changes := state.world.changes.insert location (state.world.clock + 1 : Nat) } }

/-- Replaces octets of a file where a stream that reads it has come to. -/
def overwrite (state : State) (number : Nat) (location : Location) (octets : Octets) : State :=
  match state.files.tree.get? location with
  | some (.file content executable) =>
    let stream := state.stream number
    let place := content.bytes.length - stream.size
    let bytes := content.bytes.take place ++ Octets.toBytes octets ++ content.bytes.drop (place + octets.length)
    let files := ((state.files.placeAt location (.file (.ofBytes bytes) executable)).toOption).getD state.files
    let rest := stream.content.drop octets.length
    ((state.withFiles files).stamp location).setStream number { stream with
      ahead := rest, behind := [], size := rest.length }
  | _ => state

/-- Sends octets to a channel. -/
def send (state : State) (channel : Channel) (octets : Octets) : State :=
  match channel with
  | .both number => state.setStream number ((state.stream number).add octets)
  | .writer number =>
    if octets.isEmpty then state
    else if state.isRead number then state.setStream number ((state.stream number).add octets)
    else { state with process := { state.process with broken := true } }
  | .file location =>
    match state.world.stored.tree.get? location with
    | some (.file _ _) =>
      let earlier := (state.world.drafts.find? location).getD []
      let drafts := state.world.drafts.insert location (octets :: earlier)
      { state with world := { state.world with drafts } }.stamp location
    | _ => state
  | .update number location => state.overwrite number location octets
  | .reader _ => state
  | .void => state
  | .full => state

def emit (state : State) (descriptor : Nat) (octets : Octets) : State :=
  match state.channel? descriptor with
  | some channel => state.send channel octets
  | none => state

/-- Why nothing can be written to a descriptor, if that is so. -/
def barrier? (state : State) (descriptor : Nat) : Option Trouble :=
  match state.channel? descriptor with
  | none => some .closed
  | some (.reader _) => some .closed
  | some .full => some .full
  | some _ => none

def print (state : State) (octets : Octets) : State :=
  match if octets.isEmpty then none else state.barrier? 1 with
  | some trouble => state.adjust fun process => { process with unwritten := some trouble }
  | none => state.emit 1 octets

def report (state : State) (octets : Octets) : State := state.emit 2 octets

/-- A complaint of the shell itself, with the line it is about. -/
def complain (state : State) (message : Octets) : State :=
  let colon : Octets := [':', ' ']
  let command := (state.process.command.map (· ++ colon)).getD []
  let word : Octets := match state.process.dialect with
    | .standard => []
    | .extended => .ofText "line "
  let place := state.process.origin.getD state.process.name ++ colon ++ word ++
    Nat.toDigits 10 state.process.line ++ colon
  state.report (place ++ command ++ message ++ ['\n'])

/-- What can still be read through a descriptor. -/
def pending? (state : State) (descriptor : Nat) : Except Trouble Stream :=
  match state.channel? descriptor with
  | some .void => .ok .unbounded
  | some .full => .ok .unbounded
  | channel =>
    match channel.bind Channel.source? with
    | some number => .ok (state.stream number)
    | none => .error .closed

/-- Takes a number of octets from what is to be read through a descriptor; the rest is given. -/
def take (state : State) (descriptor count : Nat) (rest : Octets) : State :=
  match (state.channel? descriptor).bind Channel.source? with
  | some number => state.setStream number ((state.stream number).advance count rest)
  | none => state

/-- Leaves something to be read through a descriptor. -/
def leave (state : State) (descriptor : Nat) (content : Octets) : State :=
  match (state.channel? descriptor).bind Channel.source? with
  | some number => state.setStream number ((state.stream number).keep content)
  | none => state

def inputPending (state : State) : Octets :=
  match state.pending? 0 with
  | .ok stream => stream.content
  | .error _ => []

/-! ### Parameters -/

def hasOption (state : State) (letter : Char) : Bool := state.process.options.contains letter

def setOption (state : State) (letter : Char) (on : Bool) : State :=
  let others := state.process.options.filter (· ≠ letter)
  { state with process := { state.process with options := if on then others ++ [letter] else others } }

def held? (state : State) (name : Octets) : Option Variable := state.process.bindings.find? name

def value? (state : State) (name : Octets) : Option Octets := (state.held? name).bind Variable.value

def isFixed (state : State) (name : Octets) : Bool := (state.held? name).any Variable.fixed

def bind (state : State) (name : Octets) (held : Variable) : State :=
  { state with process := { state.process with bindings := state.process.bindings.insert name held } }

/-- The variable that tells which argument is looked at next for options. -/
def nextIndex : Octets := .ofText "OPTIND"

/-- Starts anew with the options among arguments, at the argument with a number. -/
def restartOptions (state : State) (number : Nat) : State :=
  state.adjust fun process => { process with passed := (max 1 number, none) }

/-- Gives a variable a value, whether it may change or not. -/
def assign (state : State) (name value : Octets) : State :=
  let old := (state.held? name).getD { value := none, exported := state.hasOption 'a', fixed := false }
  let assigned := state.bind name { old with value := some value }
  if name = nextIndex && state.process.dialect = .standard then
    assigned.restartOptions (value.foldl (fun sum c => sum * 10 + (c.toNat - '0'.toNat)) 0)
  else assigned

def assign? (state : State) (name value : Octets) : Option State :=
  if state.isFixed name then none else some (state.assign name value)

def forget (state : State) (name : Octets) : State :=
  { state with process := { state.process with bindings :=
    { entries := state.process.bindings.entries.filter fun entry => entry.1 ≠ name } } }

/-- Gives a variable back what it was. -/
def restore (state : State) (saved : Octets × Option Variable) : State :=
  match saved.2 with
  | some held => state.bind saved.1 held
  | none => state.forget saved.1

/-- Shows what a function has hidden. -/
def unhide (state : State) : Hidden → State
  | .variable name held => state.restore (name, held)
  | .options options switches => state.adjust fun process => { process with options, switches }

def withArguments (state : State) (arguments : List Octets) : State :=
  (state.adjust fun process => { process with arguments }).restartOptions 1

def separatorsVariable : Octets := .ofText "IFS"

def usualSeparators : Octets := [' ', '\t', '\n']

/-- Characters that separate fields. -/
def separators (state : State) : Octets := (state.value? separatorsVariable).getD usualSeparators

/-- What joins arguments to one text. -/
def joint (state : State) : Octets := state.separators.take 1

/-! ### Parameters of the extended dialect -/

def isExtended (state : State) : Bool := state.process.dialect = .extended

def hasSwitch (state : State) (name : String) : Bool := state.process.switches.contains (Octets.ofText name)

/-- The variable that a name stands for in the end, where variables may hold the names of others. -/
def referent (state : State) : Nat → Octets → Octets
  | 0, name => name
  | count + 1, name =>
    match state.held? name with
    | some held => if held.traits.contains 'n' then state.referent count (held.value.getD name) else name
    | none => name

/-- How often names may stand for other names. -/
def mostReferences : Nat := 8

/-- A number between 0 and 32767 by chance, and what the next one comes from. -/
def chance (seed : Nat) : Nat × Nat :=
  let seed := if seed = 0 then 123459876 else seed
  let high := seed / 127773
  let next : Int := 16807 * (seed - 127773 * high : Nat) - 2836 * high
  let next := (if next < 0 then next + 2147483647 else next).toNat
  (Nat.xor (next / 65536) (next % 65536) % 32768, next)

/-- What a parameter tells about the script at the time when it is asked for. -/
def toldValue? (state : State) (name : Octets) : Option Octets :=
  let number (value : Nat) : Option Octets := some (Nat.toDigits 10 value)
  let seconds := state.world.clock / 1000000
  if !state.isExtended then none
  else match String.ofList name with
    | "LINENO" => number state.process.line
    | "SECONDS" => number seconds
    | "EPOCHSECONDS" => number (Moment.start.toNat + seconds)
    | "RANDOM" => number (chance state.process.seed).1
    | "BASHPID" => number state.process.id
    | "BASH_SUBSHELL" => number state.process.nesting
    | _ => none

/-- Whether the script is a file, neither an argument of the shell nor its input. -/
def isScriptFile (state : State) : Bool := !state.hasOption 'c' && !state.hasOption 's'

/-- What an array tells about the script at the time when it is asked for. -/
def toldMembers? (state : State) (name : Octets) : Option Members :=
  if !state.isExtended then none
  else match String.ofList name with
    | "PIPESTATUS" => some (.ofList (state.process.outcomes.map (Nat.toDigits 10)))
    | "FUNCNAME" =>
      if state.process.calls.isEmpty then none
      else some (.ofList (state.process.calls ++ if state.isScriptFile then [.ofText "main"] else []))
    | "BASH_SOURCE" =>
      let origin := state.process.origin.getD state.process.name
      let parts := if state.process.calls.isEmpty then state.process.origin.toList
        else state.process.calls.map fun _ => origin
      let sources := parts ++ if state.isScriptFile then [state.process.name] else []
      if sources.isEmpty then none else some (.ofList sources)
    | _ => none

/-- The members of an array. -/
def members? (state : State) (name : Octets) : Option Members :=
  let name := state.referent mostReferences name
  (state.toldMembers? name).or ((state.held? name).bind Variable.members)

/-- The value that a name stands for, of an array its first member. -/
def namedValue? (state : State) (name : Octets) : Option Octets :=
  let name := state.referent mostReferences name
  (state.toldValue? name).or <|
    match state.members? name with
    | some members => members.find? ['0']
    | none => state.value? name

/-- Puts a member into an array. A value that the variable had before becomes its first member. -/
def putMember (state : State) (name key value : Octets) : State :=
  let old := (state.held? name).getD { value := none, exported := state.hasOption 'a', fixed := false }
  let members := old.members.getD (.ofList old.value.toList)
  state.bind name { old with value := none, members := some (members.insert key value) }

/-- Names of commands that stand for texts while the script is read. -/
def aliases (state : State) : List (Octets × Octets) :=
  if !state.isExtended then state.process.nicknames
  else if state.hasSwitch "expand_aliases" then ((state.members? (.ofText "BASH_ALIASES")).map Members.entries).getD []
  else []

/-- The value of a parameter, if it is set. -/
def parameter? (state : State) (name : Octets) : Option Octets :=
  let process := state.process
  match name with
  | ['#'] => some (Nat.toDigits 10 process.arguments.length)
  | ['?'] => some (Nat.toDigits 10 process.status)
  | ['$'] => some (Nat.toDigits 10 process.number)
  | ['!'] => process.latest.map (Nat.toDigits 10)
  | ['-'] => some process.options
  | ['@'] => some (state.joint.intercalate process.arguments)
  | ['*'] => some (state.joint.intercalate process.arguments)
  | name =>
    if name.all Name.isDigit then
      match name.foldl (fun value c => value * 10 + (c.toNat - '0'.toNat)) 0 with
      | 0 => some process.name
      | index + 1 => process.arguments[index]?
    else if state.isExtended then state.namedValue? name
    else state.value? name

/-! ### Places -/

def searchPath : Octets := .ofText "PATH"

/-- Where programs are searched for unless a variable tells. -/
def usualSearchPath : Octets := .ofText "/usr/local/sbin:/usr/local/bin:/usr/sbin:/usr/bin:/sbin:/bin"

def directoryVariable : Octets := .ofText "PWD"

def formerVariable : Octets := .ofText "OLDPWD"

/-- The name of the working directory, empty once that has been removed. -/
def directoryName (state : State) : Octets := .ofText ((state.world.stored.workingPath?.map Path.text).getD "")

/-- Lets a variable tell where the script works, which started programs see too. -/
def tellDirectory (state : State) : State :=
  let told := state.assign directoryVariable state.directoryName
  match told.held? directoryVariable with
  | some held => told.bind directoryVariable { held with exported := true }
  | none => told

end State
end ComponentViews.Shell
