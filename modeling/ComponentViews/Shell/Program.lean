import ComponentViews.External.Command
import ComponentViews.Shell.Entry
import ComponentViews.Shell.Schedule

/-! Commands run by the shell: programs that every system has, and scripts that the file
tree holds. A command cannot be started if its program is neither, if it is to run
where no directory is, or if its words could not be passed on. -/

namespace ComponentViews.Shell

/-- How many turns a run may take. -/
def greatestTurns : Nat := 1000000000

def firstProcess : Nat := 4000

/-- Words for a program hold no null characters. -/
def passable (command : External.Command) : Bool :=
  (command.program.text :: command.arguments).all fun text => !text.contains '\x00'

def inputStream : Nat := 0

def outputStream : Nat := 1

def errorStream : Nat := 2

/-- What the first process has written, and how it has ended. -/
def completionOf (world : World) : External.Completion where
  status := match (world.endings.find? firstProcess).getD (0, none) with
    | (_, some signal) => .signaled signal
    | (status, none) => .exited status
  output := (contentOf outputStream).toBytes
  errors := (contentOf errorStream).toBytes
where
  contentOf (number : Nat) : Octets := ((world.streams.find? number).getD .unbounded).content

def initialWorld (input : Octets) (files : FileSystem) : World where
  stored := files
  drafts := .empty
  changes := .empty
  modes := .empty
  links := .empty
  queues := .empty
  streams := { entries :=
    [(inputStream, .ofContent input false), (outputStream, .unbounded), (errorStream, .unbounded)] }
  nextStream := 3
  nextProcess := firstProcess + 1
  raised := []
  births := []
  endings := .empty
  others := []
  clock := 0
  beats := 0

def initialProcess (environment : List (String × String)) (name : Octets) : Process where
  dialect := .standard
  bindings :=
    let exported (value : Octets) : Variable := { value := some value, exported := true, fixed := false }
    let given := environment.map fun entry => (Octets.ofText entry.1, exported (.ofText entry.2))
    { entries := (State.searchPath, exported State.usualSearchPath) :: given }
  functions := .empty
  lent := .empty
  nicknames := []
  options := []
  switches := []
  tested := false
  name := name
  arguments := []
  status := 0
  id := firstProcess
  group := firstProcess
  number := firstProcess
  parent := firstProcess - 1
  jobs := []
  noticed := []
  latest := none
  descriptors := { entries := [(0, .reader inputStream), (1, .writer outputStream), (2, .writer errorStream)] }
  traps := .empty
  scopes := []
  loops := 0
  line := 0
  command := none
  passed := (1, none)
  substituted := 0
  frames := []
  depth := 0
  calls := []
  outcomes := [0]
  nesting := 0
  seed := firstProcess
  left := []
  passages := []
  origin := none
  mask := Mode.usualMask
  last := false
  broken := false
  unwritten := none
  starved := false
  called := []
  sated := false

/-- Where a command runs. -/
def directoryOf (command : External.Command) (files : FileSystem) : Option Target :=
  match command.directory with
  | none => some files.workingDirectory
  | some path => if files.isDirectory path then (files.locate path).toOption else none

/-- Runs a program as the first process in a directory, up to where nobody can write to its
output any more. -/
def runProgram (path : Octets) (command : External.Command) (state : State) : State :=
  let name := Octets.ofText command.program.text
  let birth : Birth := {
    process := state.process
    parent := state.process.parent
    directory := state.world.stored.workingDirectory
    task := .program path name (command.arguments.map Octets.ofText)
    time := 0 }
  let machine : Machine := { world := { state.world with births := [birth] }, threads := [] }
  { state with world := (machine.run firstProcess [outputStream, errorStream] greatestTurns).world }

/-- Runs commands on a file tree, with an environment of variables. -/
def runner (environment : List (String × String)) : External.Runner FileSystem := fun command files =>
  match directoryOf command files with
  | none => (none, files)
  | some directory =>
    if !passable command then (none, files)
    else
      let name := Octets.ofText command.program.text
      let furnished := (System.furnished files).workingIn directory
      let state : State := {
        world := initialWorld (.ofText command.input) furnished
        process := initialProcess environment name }
      let path? := (state.search? [] name).filter fun path =>
        (state.programAt State.greatestDepth path name []).toOption.isSome
      match path? with
      | some path =>
        let ended := runProgram path command state
        (some (completionOf ended.world), ended.settled.files.workingIn files.workingDirectory)
      | none => (none, files)

end ComponentViews.Shell
