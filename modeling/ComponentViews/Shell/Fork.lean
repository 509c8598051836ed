import ComponentViews.Shell.Builtin
import ComponentViews.Shell.Extended.Setting

/-! Processes that a script starts: what they take from it, and what they leave to it. -/

namespace ComponentViews.Shell

namespace State

/-- Traps that stay set in a new process: those that ignore a signal. -/
def lastingTraps (traps : Table Nat Octets) : Table Nat Octets :=
  { entries := traps.entries.filter fun entry => entry.1 ≠ Signal.exit && entry.2.isEmpty }

/-- A part of a script that runs aside. -/
def forked (state : State) : State where
  world := { state.world with nextProcess := state.world.nextProcess + 1 }
  process := { state.process with
    traps := lastingTraps state.process.traps, id := state.world.nextProcess, frames := [], jobs := [], noticed := []
    last := true, unwritten := none }

/-- A process with a number of its own. -/
def child (state : State) : State := state.forked.adjust fun process =>
  { process with number := process.id, parent := state.process.id }

/-- Starts a process that runs beside this one. -/
def bear (state : State) (child : Process) (task : Task) : State :=
  let birth : Birth := {
    process := child, parent := state.process.id, directory := state.world.stored.workingDirectory, task
    time := state.world.clock + Step.startTime }
  { state with world := { state.world with births := state.world.births ++ [birth] } }

/-- Notes a process that goes to the background. -/
def withJob (state : State) (id : Nat) : State := state.adjust fun process =>
  let number := (process.jobs.map Prod.snd).foldl max 0 + 1
  { process with jobs := (id, number) :: process.jobs, latest := some id }

/-- A process for which another one waits. -/
def awaitedBy (state parent : State) : State := state.adjust fun process =>
  { process with frames := parent.process.frame :: parent.process.frames }

/-- Whether the current command may take the place of the process. -/
def isLeaving (state : State) : Bool :=
  state.process.last && state.process.traps.entries.all fun entry => entry.2.isEmpty

/-- Goes on where another process has left the world. -/
def resumed (state ended : State) : State := Step.inWorld state ended.world

/-- Variables that a shell sets when it starts. -/
def startVariables (state : State) : List (Octets × Octets) :=
  [(separatorsVariable, usualSeparators), (nextIndex, ['1']), (.ofText "PPID", .ofNat state.process.parent),
    (searchPath, (state.value? searchPath).getD usualSearchPath)]

/-- Variables that a shell of the extended dialect sets besides. -/
def extendedVariables (state : State) : List (Octets × Variable) :=
  let level := ((state.value? (.ofText "SHLVL")).bind Format.natural?).getD 0 + 1
  let plain (name value : String) : Octets × Variable :=
    (.ofText name, { value := some (.ofText value), exported := false, fixed := false })
  let number (name value : String) : Octets × Variable :=
    (.ofText name, { value := some (.ofText value), exported := false, fixed := true, traits := ['i'] })
  let list (name : String) (keyed : Bool) : Octets × Variable :=
    (.ofText name, { value := none, exported := false, fixed := false, members := some (.empty keyed) })
  let version : Variable := { value := none, exported := false, fixed := true, members := some (.ofList versionParts) }
  let counter : Variable := { value := some (.ofNat level), exported := true, fixed := false }
  let own := [plain "BASH" "/usr/bin/bash", list "BASH_ALIASES" true, list "BASH_ARGC" false, list "BASH_ARGV" false,
    list "BASH_CMDS" true, list "BASH_LINENO" false,
    plain "BASH_LOADABLES_PATH" "/usr/local/lib/bash:/usr/lib/bash:/opt/local/lib/bash:/usr/pkg/lib/bash:/opt/pkg/lib/bash:.",
    list "BASH_SOURCE" false, (.ofText "BASH_VERSINFO", version), plain "BASH_VERSION" "5.2.15(1)-release",
    list "DIRSTACK" false, number "EUID" "0", list "GROUPS" false, plain "HOSTNAME" "localhost",
    plain "HOSTTYPE" "x86_64", plain "MACHTYPE" "x86_64-pc-linux-gnu", plain "OPTERR" "1", plain "OSTYPE" "linux-gnu",
    number "PPID" (toString state.process.parent), plain "PS4" "+ ", (.ofText "SHLVL", counter), number "UID" "0"]
  let given := [plain "SHELL" "/bin/bash", plain "TERM" "dumb"].filter fun entry => (state.held? entry.1).isNone
  own ++ given
where
  /-- The version in its parts. -/
  versionParts : List Octets := ["5", "2", "15", "1", "release", "x86_64-pc-linux-gnu"].map Octets.ofText

/-- Sets what a shell of the extended dialect starts with. -/
def furnish (state : State) : State :=
  let named := state.extendedVariables.foldl (fun (state : State) (name, held) => state.bind name held) state
  let settings := Builtin.Extended.Setting.initial named
  [Builtin.Extended.Setting.optionsVariable, Builtin.Extended.Setting.furtherVariable].foldl (fun (state : State) name =>
    match state.held? name with
    | some held => state.bind name { held with fixed := true, exported := false }
    | none => state) settings

/-- A process in which a shell starts. Of the variables it has those that are exported. -/
def asShell (state : State) (dialect : Dialect) (name : Octets) : State :=
  let passedOn (entry : Octets × Variable) : Option (Octets × Variable) :=
    if entry.2.exported then some (entry.1, { entry.2 with fixed := false, traits := [] }) else none
  let bare := state.adjust fun process =>
    { process with
      bindings := { entries := process.bindings.entries.filterMap passedOn }
      dialect
      functions := if dialect = .extended then process.lent else .empty
      lent := if dialect = .extended then process.lent else .empty
      tested := false, name, arguments := [], status := 0, nicknames := [], unwritten := none
      options := [], switches := [], calls := [], outcomes := [0], nesting := 0, left := [], passages := [], origin := none
      jobs := [], noticed := [], latest := none, last := false
      scopes := [], loops := 0, line := 0, command := none, passed := (1, none), substituted := 0, depth := 0 }
  let started := (startVariables bare).foldl (fun state (name, value) => state.assign name value) bare.tellDirectory
  if dialect = .extended then started.furnish else started

/-- Takes the next signal that the process has yet to take, if there is one. -/
def nextSignal? (state : State) : Option (Nat × State) :=
  (state.world.raised.find? fun entry => entry.1 = state.process.id).map fun entry =>
    (entry.2, { state with world := { state.world with raised := state.world.raised.erase entry } })

end State

/-- How a shell is called. -/
structure Invocation where
  /-- Whether the first operand is a script itself. -/
  givesScript : Bool
  /-- Whether the script is what stands in the input. -/
  readsInput : Bool
  operands : List Octets

namespace Invocation
open Step

/-- Reads the arguments of a shell and sets its options. -/
def read : Nat → Invocation → List Octets → Step Invocation
  | 0, invocation, _ => pure invocation
  | _ + 1, invocation, ['-', '-'] :: operands => pure { invocation with operands }
  | _ + 1, invocation, ['-'] :: operands => pure { invocation with operands }
  | count + 1, invocation, (sign :: letters) :: rest => do
    if (sign = '-' || sign = '+') && !letters.isEmpty then
      let own := letters.filter fun letter => letter ≠ 'c' ∧ letter ≠ 'l'
      let rest ← Builtin.applyOptions (sign = '-') own rest
      read count { invocation with
        givesScript := invocation.givesScript || letters.contains 'c'
        readsInput := invocation.readsInput || letters.contains 's' } rest
    else pure { invocation with operands := (sign :: letters) :: rest }
  | _ + 1, invocation, operands => pure { invocation with operands }

/-- Gives up on starting a shell. -/
def refuse {α : Type} (message : Octets) (usage : Bool) : Step α := do
  modify fun state =>
    let name := state.process.name
    let told := state.report (name ++ [':', ' '] ++ message ++ ['\n'])
    (if usage then told.report (Builtin.Extended.startUsage name) else told).withStatus 2
  throw .exited

open Builtin.Extended in
/-- Reads a group of letters among the arguments of a shell of the extended dialect, of which some take
words from those behind; yields those left. -/
def readLetters (sign : Char) : List Char → List Octets → Step (List Octets)
  | [], rest => pure rest
  | 'o' :: letters, name :: rest => do
    if (Setting.options.lookup (String.ofList name)).isNone then
      refuse (.ofText "line 0: " ++ (← get).process.name ++ [':', ' '] ++ name ++ .ofText ": invalid option name") false
    modify (Setting.turnName (String.ofList name) (sign = '-'))
    readLetters sign letters rest
  | 'O' :: letters, name :: rest => do
    if !Setting.further.contains (String.ofList name) then
      refuse (.ofText "line 0: " ++ name ++ .ofText ": invalid shell option name") false
    modify (Setting.turnName (String.ofList name) (sign = '-'))
    readLetters sign letters rest
  | letter :: letters, rest => do
    if ['c', 'l', 'i', 'r', 'D'].contains letter then pure ()
    else if letter = 'o' || letter = 'O' then modify (Setting.listOptions true)
    else if Setting.letters.contains letter then modify (Setting.turnLetter letter (sign = '-'))
    else refuse (sign :: letter :: Octets.ofText ": invalid option") true
    readLetters sign letters rest

open Builtin.Extended in
/-- Reads the arguments of a shell of the extended dialect and sets its options. -/
def readExtended : Nat → Invocation → List Octets → Step Invocation
  | 0, invocation, _ => pure invocation
  | _ + 1, invocation, ['-', '-'] :: operands => pure { invocation with operands }
  | _ + 1, invocation, ['-'] :: operands => pure { invocation with operands }
  | count + 1, invocation, ('-' :: '-' :: word) :: rest => do
    match startOptions.lookup ("--" ++ String.ofList word) with
    | none => refuse ('-' :: '-' :: word ++ Octets.ofText ": invalid option") true
    | some taken => do
      if word = Octets.ofText "posix" then modify (Setting.turnName "posix" true)
      readExtended count invocation (rest.drop taken)
  | count + 1, invocation, (sign :: letters) :: rest => do
    if (sign = '-' || sign = '+') && !letters.isEmpty then
      let rest ← readLetters sign letters rest
      readExtended count { invocation with
        givesScript := invocation.givesScript || letters.contains 'c'
        readsInput := invocation.readsInput || letters.contains 's' } rest
    else pure { invocation with operands := (sign :: letters) :: rest }
  | _ + 1, invocation, operands => pure { invocation with operands }

/-- The script that a shell is called with, with what complaints about its form say where it stands. It
also sets the name and the arguments. -/
def source (arguments : List Octets) : Step (Octets × Octets) := do
  let plain : Invocation := { givesScript := false, readsInput := false, operands := [] }
  let isExtended := (← get).isExtended
  let invocation ← if isExtended then readExtended (arguments.length + 1) plain arguments
    else read (arguments.length + 1) plain arguments
  let note (letter : Char) : Step Unit := if isExtended then
      modify (Builtin.Extended.Setting.turnLetter letter true) else pure ()
  let call (name : Octets) (arguments : List Octets) : Step Unit :=
    modify (·.adjust fun process => { process with name, arguments })
  let own := (← get).process.name
  if invocation.givesScript then
    match invocation.operands with
    | [] =>
      if isExtended then refuse (.ofText "-c: option requires an argument") false
      else abort (.ofText "-c requires an argument")
    | source :: operands => do
      note 'c'
      if isExtended then modify (·.assign (.ofText "BASH_EXECUTION_STRING") source)
      call (operands.headD own) (operands.drop 1)
      modify (·.adjust fun process => { process with last := true })
      pure (['-', 'c'], source)
  else if invocation.readsInput || invocation.operands.isEmpty then do
    note 's'
    call own invocation.operands
    awaitInput
    let source := (← get).inputPending
    modify (·.leave 0 [])
    pure ([], source)
  else
    let path := invocation.operands.headD []
    if isExtended && (← get).isDirectory path then
      modify fun state => (state.report (path ++ ':' :: ' ' :: path ++ .ofText ": Is a directory\n")).withStatus 126
      throw .exited
    match (← get).read path with
    | .ok (source, state) => do
      set state
      call path (invocation.operands.drop 1)
      pure ([], source)
    | .error trouble => do
      let state ← get
      if state.isExtended then
        set ((state.report (state.process.name ++ ':' :: ' ' :: path ++ .ofText (": " ++ trouble.message ++ "\n"))).withStatus
          127)
        throw .exited
      else abort (.ofText "cannot open " ++ path ++ .ofText ": No such file")

end Invocation
end ComponentViews.Shell
