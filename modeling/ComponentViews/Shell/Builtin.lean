import ComponentViews.Shell.Field
import ComponentViews.Shell.Step
import ComponentViews.Shell.Utility
import ComponentViews.Shell.Variables

/-! Commands of the shell itself that run no others. They change variables, options and the
working directory, or where the script goes on. -/

namespace ComponentViews.Shell

namespace Builtin
open Step

def illegalNumber (word : Octets) : Octets := .ofText "Illegal number: " ++ word

/-- The number that the first argument is, if there is an argument. -/
def count? (arguments : List Octets) : Step (Option Nat) := do
  match arguments with
  | [] => pure none
  | word :: _ =>
    match Format.natural? word with
    | some number => pure (some number)
    | none => abort (illegalNumber word)

/-- Options in front of operands: letters, each with its value, and what is left. A colon behind a
letter in the list of those that are known tells that a value follows. -/
def readLetters (known : String) (arguments : List Octets) : Step (List (Char × Octets) × List Octets) := do
  match arguments with
  | ['-', '-'] :: rest => pure ([], rest)
  | ('-' :: letter :: letters) :: rest => do
    let (found, missing) ← readGroup (letter :: letters)
    match missing, rest with
    | none, rest => do
      let (later, operands) ← readLetters known rest
      pure (found ++ later, operands)
    | some letter, value :: rest => do
      let (later, operands) ← readLetters known rest
      pure (found ++ (letter, value) :: later, operands)
    | some letter, [] => abort (.ofText "No arg for -" ++ letter :: Octets.ofText " option")
  | arguments => pure ([], arguments)
where
  /-- The options in a group, and the one that still lacks its value. -/
  readGroup : Octets → Step (List (Char × Octets) × Option Char)
    | [] => pure ([], none)
    | letter :: rest => do
      match known.toList.dropWhile (· ≠ letter) with
      | _ :: ':' :: _ =>
        if letter = ':' then abort (.ofText "Illegal option -:")
        else pure (if rest = [] then ([], some letter) else ([(letter, rest)], none))
      | _ :: _ => do
        let (later, missing) ← readGroup rest
        pure ((letter, []) :: later, missing)
      | [] => abort (.ofText "Illegal option -" ++ [letter])

/-- Passes over the mark behind which operands start; no option may be there. -/
def operandsOf (arguments : List Octets) : Step (List Octets) := do
  let (_, operands) ← readLetters "" arguments
  pure operands

/-! ### Where the script goes on -/

def exit (arguments : List Octets) : Step Unit := do
  match ← count? arguments with
  | some status => setStatus (status % 256)
  | none => pure ()
  throw .exited

/-- Leaves a function or a script with a status. -/
def leave (arguments : List Octets) : Step Unit := do
  match ← count? arguments with
  | some status => setStatus (status % 256)
  | none => pure ()
  throw .returned

/-- Ends rounds of the loops around the command, if there are any. -/
def skip (goesOn : Bool) (arguments : List Octets) : Step Unit := do
  let count := (← count? arguments).getD 1
  if count = 0 then abort (illegalNumber (.ofNat count))
  else do
    setStatus 0
    let loops := (← get).process.loops
    if loops = 0 then pure () else throw (.skipped (min count loops) goesOn)

def shift (arguments : List Octets) : Step Unit := do
  let count := (← count? arguments).getD 1
  let state ← get
  if count > state.process.arguments.length then abort (.ofText "can't shift that many")
  else set (state.withArguments (state.process.arguments.drop count)).succeed

/-! ### Variables -/

def badName (name : Octets) : Octets := name ++ .ofText ": bad variable name"

def isFixedMessage (name : Octets) : Octets := name ++ .ofText ": is read only"

def assign (name value : Octets) : Step Unit := do
  let state ← get
  if state.isExtended then
    if !(← Variables.assign name value false) then throw .dropped
  else
    if name = State.nextIndex && (Format.natural? value).isNone then abort (illegalNumber value)
    match state.assign? name value with
    | some state => set state
    | none => abort (isFixedMessage name)

/-- The name in front of an equals sign, and the value behind it if there is one. -/
def splitAssignment (argument : Octets) : Octets × Option Octets :=
  let name := argument.takeWhile (· ≠ '=')
  (name, if name = argument then none else some (argument.drop (name.length + 1)))

/-- Changes the marks of a variable. -/
def mark (name : Octets) (change : Variable → Variable) : Step Unit := modify fun state =>
  state.bind name (change ((state.held? name).getD { value := none, exported := false, fixed := false }))

/-- A text between single quotes, such that it reads as itself. -/
def singleQuoted (text : Octets) : Octets :=
  ['\''] ++ text.flatMap (fun c => if c = '\'' then ['\'', '"', '\'', '"', '\''] else [c]) ++ ['\'']

/-- Variables with a mark, as commands that would make them. -/
def listMarked (command : String) (isMarked : Variable → Bool) : Step Unit := modify fun state =>
  let chosen := (state.process.bindings.entries.filter fun entry => isMarked entry.2).mergeSort fun a b =>
    Octets.atMost a.1 b.1
  state.succeed.print (Octets.ofLines (chosen.map fun (name, held) =>
    .ofText (command ++ " ") ++ name ++ (held.value.map fun value => '=' :: singleQuoted value).getD []))

/-- Marks variables, and gives values to those that come with one. -/
def declare (command : String) (isMarked : Variable → Bool) (change : Variable → Variable)
    (arguments : List Octets) : Step Unit := do
  let (found, arguments) ← readLetters "p" arguments
  if !found.isEmpty || arguments.isEmpty then listMarked command isMarked
  else do
    for argument in arguments do
      let (name, value) := splitAssignment argument
      if !Name.isChosen name then abort (badName name)
      match value with
      | some value => assign name value
      | none => pure ()
      mark name change
    setStatus 0

def exportVariables : List Octets → Step Unit :=
  declare "export" Variable.exported fun held => { held with exported := true }

def fixVariables : List Octets → Step Unit :=
  declare "readonly" Variable.fixed fun held => { held with fixed := true }

def dropFunction (name : Octets) : Step Unit := modify (·.adjust fun process =>
  { process with functions := { entries := process.functions.entries.filter fun entry => entry.1 ≠ name } })

def unset (arguments : List Octets) : Step Unit := do
  let (found, names) ← readLetters "vf" arguments
  let functions := (found.getLast?.map Prod.fst) = some 'f'
  for name in names do
    if functions then dropFunction name
    else if !Name.isChosen name then abort (badName (splitAssignment name).1)
    else if (← get).isFixed name then abort (isFixedMessage name)
    else if name = State.nextIndex then abort (illegalNumber [])
    else modify (·.forget name)
  setStatus 0

/-- Lets variables of a function hide those outside, and options too. -/
def hide (arguments : List Octets) : Step Unit := do
  if (← get).process.scopes.isEmpty then abort (.ofText "not in a function")
  for argument in arguments do
    let (name, value) := splitAssignment argument
    let state ← get
    let hidden : Hidden := if argument = ['-'] then .options state.process.options state.process.switches
      else .variable name (state.held? name)
    if argument ≠ ['-'] && !Name.isChosen name then abort (badName name)
    modify (·.adjust fun process => { process with scopes := match process.scopes with
      | [] => []
      | scope :: scopes => (hidden :: scope) :: scopes })
    match value with
    | some value => assign name value
    | none => pure ()
  setStatus 0

/-- Options and the letters that stand for them. -/
def optionLetters : List (String × Char) :=
  [("errexit", 'e'), ("noglob", 'f'), ("ignoreeof", 'I'), ("interactive", 'i'), ("monitor", 'm'), ("noexec", 'n'),
    ("stdin", 's'), ("xtrace", 'x'), ("verbose", 'v'), ("vi", 'V'), ("emacs", 'E'), ("noclobber", 'C'),
    ("allexport", 'a'), ("notify", 'b'), ("nounset", 'u')]

/-- Lists the options, as a table or as commands that set them. -/
def listOptions (asTable : Bool) (state : State) : State :=
  let known := optionLetters.map (fun (name, letter) => (name, state.hasOption letter)) ++
    [("privileged", false), ("nolog", false), ("debug", false)]
  if asTable then state.print (Octets.ofLines (.ofText "Current option settings" :: known.map fun (name, on) =>
    .ofText (name ++ "".pushn ' ' (16 - name.length) ++ (if on then "on" else "off"))))
  else state.print (Octets.ofLines (known.map fun (name, on) =>
    .ofText ("set " ++ (if on then "-o " else "+o ") ++ name)))

/-- Sets options by letters, of which `o` takes a name from the arguments; yields those left. -/
def applyOptions (on : Bool) : List Char → List Octets → Step (List Octets)
  | [], arguments => pure arguments
  | 'o' :: letters, [] => do
    modify (listOptions on)
    applyOptions on letters []
  | 'o' :: letters, name :: arguments =>
    match optionLetters.lookup (String.ofList name) with
    | some letter => do
      turn letter on
      applyOptions on letters arguments
    | none => abort (.ofText "Illegal option -o " ++ name)
  | letter :: letters, arguments => do
    if (optionLetters.map Prod.snd).contains letter then turn letter on
    else abort (.ofText "Illegal option -" ++ [letter])
    applyOptions on letters arguments
where
  /-- No terminal can be had, so that jobs are not under control. -/
  turn (letter : Char) (on : Bool) : Step Unit := modify fun state =>
    if on ∧ letter = 'm' then state.complain (.ofText "can't access tty; job control turned off")
    else state.setOption letter on

/-- Sets options by letters or names, and arguments by what stands behind. -/
def setUp : Nat → List Octets → Step Unit
  | 0, _ => pure ()
  | _ + 1, [] => setStatus 0
  | _ + 1, ['-', '-'] :: arguments => modify fun state => (state.withArguments arguments).succeed
  | _ + 1, ['-'] :: arguments =>
    modify fun state => ((if arguments = [] then state else state.withArguments arguments).setOption 'x' false).succeed
  | count + 1, ('-' :: letters) :: rest => do setUp count (← applyOptions true letters rest)
  | count + 1, ('+' :: letters) :: rest => do setUp count (← applyOptions false letters rest)
  | _ + 1, arguments => modify fun state => (state.withArguments arguments).succeed

/-- Prints all variables, or sets options and arguments. -/
def setOrList (arguments : List Octets) : Step Unit :=
  if arguments = [] then modify fun state =>
    let chosen := state.process.bindings.entries.mergeSort fun a b => Octets.atMost a.1 b.1
    state.succeed.print (Octets.ofLines (chosen.filterMap fun (name, held) =>
      held.value.map fun value => name ++ '=' :: singleQuoted value))
  else setUp (arguments.length + 1) arguments

/-! ### Reading lines -/

/-- A line as it is read. -/
structure RawLine where
  /-- Its characters with whether they are escaped. -/
  characters : List (Char × Bool)
  /-- How many octets have been read for it. -/
  taken : Nat
  rest : Octets
  /-- Whether a newline has ended it. -/
  ended : Bool

namespace RawLine

def behind (count : Nat) (before : List (Char × Bool)) (line : RawLine) : RawLine :=
  { line with characters := before ++ line.characters, taken := line.taken + count }

def read (raw : Bool) : Octets → RawLine
  | [] => { characters := [], taken := 0, rest := [], ended := false }
  | '\n' :: rest => { characters := [], taken := 1, rest, ended := true }
  | [c] => { characters := [(c, false)], taken := 1, rest := [], ended := false }
  | c :: next :: rest =>
    if c = '\\' ∧ !raw then (read raw rest).behind 2 (if next = '\n' then [] else [(next, true)])
    else (read raw (next :: rest)).behind 1 [(c, false)]
termination_by text => text.length

end RawLine

/-- The next line of the input, once all of it is there. -/
def awaitLine (raw : Bool) : Nat → Step RawLine
  | 0 => pure (.read raw [])
  | fuel + 1 => do
    let state ← get
    match (state.channel? 0).bind Channel.source? with
    | some number =>
      let line := RawLine.read raw (state.stream number).content
      if !line.ended && state.isWritten number then do
        await (.content number (state.stream number).size)
        awaitLine raw fuel
      else pure line
    | _ => pure (.read raw [])

/-- The first field of a line and what stands behind the separators that end it. -/
def splitField (separators : Octets) (line : List (Char × Bool)) : Octets × List (Char × Bool) :=
  let separates (c : Char × Bool) : Bool := !c.2 && separators.contains c.1
  let isBlank (c : Char × Bool) : Bool := separates c && Item.Splitting.isBlank c.1
  let field := line.takeWhile fun c => !separates c
  let behind := (line.drop field.length).dropWhile isBlank
  let behind := match behind with
    | c :: rest => if separates c then rest.dropWhile isBlank else behind
    | [] => []
  (field.map Prod.fst, behind)

/-- Gives each name a field of a line, and the last one what is left. -/
def fill (separators : Octets) : List Octets → List (Char × Bool) → Step Unit
  | [], _ => pure ()
  | [name], line =>
    let (field, behind) := splitField separators line
    let isBlank (c : Char × Bool) : Bool := !c.2 && separators.contains c.1 && Item.Splitting.isBlank c.1
    if behind = [] then assign name field
    else assign name (((line.reverse.dropWhile isBlank).reverse).map Prod.fst)
  | name :: names, line => do
    let (field, behind) := splitField separators line
    assign name field
    fill separators names behind

/-- Reads a line into variables. -/
def readLine (arguments : List Octets) : Step Unit := do
  let (found, names) ← readLetters "p:r" arguments
  let raw := found.any (·.1 = 'r')
  if names.isEmpty then abort (.ofText "arg count")
  match (← get).pending? 0 with
  | .error _ => setStatus 1
  | .ok _ =>
    let line ← awaitLine raw patience
    let state ← get
    let separators := state.separators
    let isBlank (c : Char × Bool) : Bool := !c.2 && separators.contains c.1 && Item.Splitting.isBlank c.1
    set (state.take 0 line.taken line.rest)
    match names.find? fun name => !Name.isChosen name with
    | some name => abort (badName (splitAssignment name).1)
    | none => do
      let characters := line.characters.filter fun c => c.1 ≠ '\x00'
      fill separators names (characters.dropWhile isBlank)
      setStatus (if line.ended then 0 else 1)

/-! ### Options of a script -/

def optionValue : Octets := .ofText "OPTARG"

/-- Reads the next option among arguments into a variable. How much of the argument in front of the
next one has been read is remembered. -/
def getOption (arguments : List Octets) : Step Unit := do
  match ← operandsOf arguments with
  | known :: name :: given =>
    let state ← get
    let words := if given = [] then state.process.arguments else given
    let (next, passed) := state.process.passed
    let isBeyond := next > words.length + 1
    let (next, passed) := if isBeyond then (1, none) else (next, passed)
    let behind : Octets := match passed with
      | some count => if next ≤ 1 then [] else ((words[next - 2]?).getD []).drop count
      | none => []
    let finish (next : Nat) (passed : Option Nat) (sign : Char) (status : Nat) : Step Unit := do
      assign State.nextIndex (.ofNat next)
      assign name [sign]
      modify (·.adjust fun process => { process with passed := (next, passed) })
      setStatus status
    let silent := known.head? = some ':'
    let fault (message : String) (letter sign : Char) : Step Char := do
      if silent then
        assign optionValue [letter]
        pure sign
      else
        let behind : Octets := if sign = ':' then .ofText " option" else []
        modify (·.report (Octets.ofText message ++ [letter] ++ behind ++ ['\n']))
        modify (·.forget optionValue)
        pure '?'
    let within (next start : Nat) (letters : Octets) : Step Unit := do
      let letter := letters.headD '?'
      let rest := letters.drop 1
      let goOn := if rest = [] then none else some (start + 1)
      match known.dropWhile (· ≠ letter) with
      | [] => do
        let sign ← fault "Illegal option -" letter '?'
        finish next (some (start + 1)) sign 0
      | _ :: ':' :: _ =>
        if letter = ':' then do
          let sign ← fault "Illegal option -" letter '?'
          finish next (some (start + 1)) sign 0
        else if rest ≠ [] then do
          assign optionValue rest
          finish next none letter 0
        else match words[next - 1]? with
          | some value => do
            assign optionValue value
            finish (next + 1) none letter 0
          | none => do
            let sign ← fault "No arg for -" letter ':'
            finish next (some (start + 1)) sign 0
      | _ => do
        assign optionValue []
        finish next goOn letter 0
    if behind ≠ [] then within next (passed.getD 0) behind
    else match words[next - 1]? with
      | some ['-', '-'] => finish (next + 1) none '?' 1
      | some ('-' :: letter :: letters) => within (next + 1) 1 (letter :: letters)
      | _ => finish next none '?' 1
  | _ => abort (.ofText "Usage: getopts optstring var [arg]")

/-! ### Directories, traps and the like -/

/-- The directory that a path names, found along the search path for directories perhaps; whether its
name is to be told. -/
def findDirectory (state : State) (path : Octets) : Octets × Bool :=
  let first := path.takeWhile (· ≠ '/')
  if path.head? = some '/' || first = ['.'] || first = ['.', '.'] then (path, false)
  else
    let path := if path = [] then ['.'] else path
    match state.value? (.ofText "CDPATH") with
    | none => (path, false)
    | some places =>
      let joined (place : Octets) : Octets := if place = [] then path else place ++ '/' :: path
      match (places.splitOn ':').find? fun place => state.isDirectory (joined place) with
      | some place => (joined place, place ≠ [])
      | none => (path, false)

def changeDirectory (arguments : List Octets) : Step Unit := do
  let (_, arguments) ← readLetters "LP" arguments
  let state ← get
  let home := (state.value? (.ofText "HOME")).getD []
  let former := (state.value? State.formerVariable).getD []
  let wanted := arguments.headD home
  let asked := if wanted = ['-'] then former else wanted
  let (path, tells) := findDirectory state asked
  match state.isDirectory path, state.files.locate (state.pathOf path) with
  | true, .ok target =>
    let moved := (state.withFiles (state.files.workingIn target)).assign State.formerVariable state.directoryName
    let moved := moved.tellDirectory.succeed
    set (if wanted = ['-'] || tells then moved.print (moved.directoryName ++ ['\n']) else moved)
  | _, _ => abort (.ofText "can't cd to " ++ asked)

/-- What a trap does is forgotten. -/
def dropTrap (signal : Nat) (process : Process) : Process :=
  { process with traps := { entries := process.traps.entries.filter fun entry => entry.1 ≠ signal } }

/-- Sets what is to be run upon signals, or lists it. -/
def setTraps (arguments : List Octets) : Step Unit := do
  match ← operandsOf arguments with
  | [] => modify fun state =>
    let traps := state.process.traps.entries.mergeSort fun a b => decide (a.1 ≤ b.1)
    state.succeed.print (Octets.ofLines (traps.map fun (signal, action) =>
      .ofText "trap -- " ++ singleQuoted action ++ .ofText (" " ++ Signal.name signal)))
  | first :: others =>
    let isReset := others = [] || (Format.natural? first).any (· ≤ Signal.greatest)
    setStatus 0
    setEach (if isReset then ['-'] else first) (if isReset then first :: others else others)
where
  /-- Sets what is to be run upon each of some signals, up to the first name that is none. -/
  setEach (action : Octets) : List Octets → Step Unit
    | [] => pure ()
    | name :: names => do
      match Signal.number? name with
      | none => modify fun state => (state.report (.ofText "trap: " ++ name ++ .ofText ": bad trap\n")).withStatus 1
      | some signal =>
        modify (·.adjust (dropTrap signal))
        if action ≠ ['-'] then
          modify (·.adjust fun process => { process with traps := process.traps.insert signal action })
        setEach action names

/-- The process of a job, such as `%1`. -/
def jobOf? (state : State) (word : Octets) : Option Nat :=
  match word with
  | ['%'] => state.process.jobs.head?.map Prod.fst
  | ['%', '%'] => state.process.jobs.head?.map Prod.fst
  | ['%', '+'] => state.process.jobs.head?.map Prod.fst
  | ['%', '-'] => state.process.jobs[1]?.map Prod.fst
  | '%' :: digits => (Format.natural? digits).bind fun number =>
    (state.process.jobs.find? fun job => job.2 = number).map Prod.fst
  | _ => none

/-- Sends a signal to a process by its number, or to the group that a number below zero stands for;
whether it is there. -/
def strike (signal : Nat) (number : Int) : Step Bool := do
  let state ← get
  let id := number.natAbs
  let group := if number = 0 then state.process.group else id
  let isLeft := (state.process.jobs.map Prod.fst).contains id && !state.process.noticed.contains id
  let isKnown := id = state.process.id || id = state.process.parent || state.world.lives id || isLeft ||
    state.process.frames.any (·.id = id)
  if signal = Signal.exit ∧ isKnown then pure true
  else if number ≤ 0 then do
    let struck := state.raiseAmong group signal
    set (if state.process.group = group then struck.raise state.process.id signal else struck)
    pure true
  else do
    if isKnown then set (state.raise id signal)
    pure isKnown

/-- Sends a signal to a process: this one, one that waits for it, or another. -/
def signalTo (signal : Nat) (target : Octets) : Step Unit := do
  match (jobOf? (← get) target).map Int.ofNat |>.or (Format.integer? target) with
  | none =>
    refuse (if target.head? = some '%' then .ofText "No such job: " ++ target else illegalNumber target)
  | some number =>
    if !(← strike signal number) then
      modify fun state => (state.complain (.ofText "No such process\n")).withStatus 1

def listSignals (codes : List Octets) : Step Unit := do
  match codes with
  | [] => modify (·.print (Octets.ofLines (['0'] ::
      (List.range Signal.greatest).map fun index => .ofText (Signal.name (index + 1)))))
  | code :: _ =>
    match Format.natural? code with
    | some number =>
      let signal := if number > 128 then number - 128 else number
      if 0 < signal && signal ≤ Signal.greatest then modify (·.print (.ofText (Signal.name signal) ++ ['\n']))
      else abort (.ofText "invalid signal number or exit status: " ++ code)
    | none => abort (illegalNumber code)

def killUsage : Octets :=
  .ofText "Usage: kill [-s sigspec | -signum | -sigspec] [pid | job]... or\nkill -l [exitstatus]"

/-- Sends signals to processes. -/
def kill (arguments : List Octets) : Step Unit := do
  let send (signal : Nat) (targets : List Octets) : Step Unit := do
    if targets.isEmpty then abort killUsage
    setStatus 0
    for target in targets do signalTo signal target
  let direct : Option (Nat × List Octets) := match arguments with
    | ('-' :: name) :: targets => (Signal.number? name).bind fun signal =>
      if signal = Signal.exit && !name.all Name.isDigit then none else some (signal, targets)
    | _ => none
  match direct with
  | some (signal, targets) => send signal targets
  | none => do
    let (found, operands) ← readLetters "ls:" arguments
    let mut wanted : Option Nat := none
    for (letter, value) in found do
      if letter = 's' then
        match Signal.number? value with
        | some signal => wanted := some signal
        | none => abort (.ofText "invalid signal number or name: " ++ value)
    if found.any (·.1 = 'l') then
      if wanted.isSome then abort killUsage
      else do
        setStatus 0
        listSignals operands
    else send (wanted.getD Signal.terminate) operands

/-- Notices which processes in the background have ended. -/
def notice (state : State) : State := state.adjust fun process =>
  let ended := (process.jobs.map Prod.fst).filter fun id => (state.world.endings.find? id).isSome
  { process with noticed := (ended ++ process.noticed).eraseDups }

/-- A signal that the process has yet to take. -/
def signalFor? (state : State) : Option Nat :=
  (state.world.raised.find? fun entry => entry.1 = state.process.id).map Prod.snd

/-- Reports a signal that has ended a process. -/
def reportSignal (signal : Nat) : Step Unit :=
  match Signal.reports.lookup signal with
  | some text => modify (·.report (.ofText (text ++ "\n")))
  | none => pure ()

/-- Takes the status of a process that has ended, by itself or by a signal, which is reported. -/
def settle (ended : Ending) : Step Unit :=
  match ended.2 with
  | none => setStatus ended.1
  | some signal => do
    reportSignal signal
    setStatus (128 + signal)

/-- Waits for a process in the background to end, unless a signal comes. -/
def awaitEnding (id : Nat) : Nat → Step Unit
  | 0 => pure ()
  | fuel + 1 => do
    let state ← get
    match signalFor? state, state.world.endings.find? id with
    | some signal, _ => setStatus (128 + signal)
    | none, some ended => do
      if state.process.noticed.contains id then setStatus ((ended.2.map (128 + ·)).getD ended.1) else settle ended
      modify notice
    | none, none => do
      await (.either (.ending id) (.signal state.process.id))
      awaitEnding id fuel

/-- Waits for all processes in the background to end, unless a signal comes. -/
def awaitAll : Nat → Step Unit
  | 0 => pure ()
  | fuel + 1 => do
    let state ← get
    match (state.process.jobs.map Prod.fst).find? fun id => (state.world.endings.find? id).isNone, signalFor? state with
    | none, _ => do
      modify notice
      setStatus 0
    | some _, some signal => setStatus (128 + signal)
    | some id, none => do
      await (.either (.ending id) (.signal state.process.id))
      awaitAll fuel

/-- Waits for processes in the background, all of them if none is named. -/
def waitFor (arguments : List Octets) : Step Unit := do
  match arguments with
  | [] => awaitAll patience
  | words =>
    for word in words do
      let state ← get
      match (jobOf? state word).or (Format.natural? word) with
      | some id =>
        if (state.process.jobs.map Prod.fst).contains id then awaitEnding id patience else setStatus 127
      | none =>
        if word.head? = some '%' then refuse (.ofText "No such job: " ++ word) else refuse (illegalNumber word)

/-- What has become of a process in the background. -/
def jobText (ended : Option Ending) : String :=
  match ended with
  | none => "Running"
  | some (0, none) => "Done"
  | some (status, none) => "Done(" ++ toString status ++ ")"
  | some (_, some signal) => (Signal.reports.lookup signal).getD ("Signal " ++ toString signal)

/-- Lists the processes in the background. Those that have ended are forgotten then. -/
def listJobs (arguments : List Octets) : Step Unit := do
  setStatus 0
  let shows (letter : Char) : Bool := arguments.any fun argument =>
    argument.head? = some '-' && argument.contains letter
  for (id, number) in (← get).process.jobs do
    let state ← get
    let ended := state.world.endings.find? id
    let sign := match state.process.jobs.findIdx? fun job => job.1 = id with
      | some 0 => '+'
      | some 1 => '-'
      | _ => ' '
    let digits : Octets := .ofNat id
    let text := jobText ended
    if shows 'p' then set (state.print (digits ++ ['\n']))
    else
      let name := if shows 'l' then digits ++ [' '] else []
      let padding := List.replicate (27 - text.length) ' '
      set (state.print ('[' :: Octets.ofNat number ++ [']', ' ', sign, ' '] ++ name ++ .ofText text ++ padding ++ ['\n']))
    if ended.isSome then
      modify (·.adjust fun process => { process with jobs := process.jobs.filter fun job => job.1 ≠ id })

/-! ### Names that stand for texts -/

/-- How many chains such names are kept in, and the chain of one. -/
def chainCount : Nat := 39

def chainOf (name : Octets) : Nat :=
  (name.foldl (fun sum c => sum + c.toNat) ((name.headD '\x00').toNat * 16)) % chainCount

def nicknameLine (name text : Octets) : Octets := name ++ '=' :: singleQuoted text ++ ['\n']

/-- Lets names of commands stand for texts, or tells what they stand for. -/
def nameOtherwise (arguments : List Octets) : Step Unit := do
  setStatus 0
  let known := (← get).process.nicknames
  if arguments.isEmpty then
    let chains := (List.range chainCount).flatMap fun chain => known.filter fun entry => chainOf entry.1 = chain
    modify (·.print (chains.flatMap fun (name, text) => nicknameLine name text))
  for argument in arguments do
    let name := argument.take 1 ++ (argument.drop 1).takeWhile (· ≠ '=')
    let known := (← get).process.nicknames
    if name = argument then
      match known.lookup name with
      | some text => modify (·.print (nicknameLine name text))
      | none => modify fun state => (state.report (.ofText "alias: " ++ name ++ .ofText " not found\n")).withStatus 1
    else
      let text := argument.drop (name.length + 1)
      let nicknames := if (known.lookup name).isSome then
          known.map fun entry => if entry.1 = name then (name, text) else entry
        else known ++ [(name, text)]
      modify (·.adjust fun process => { process with nicknames })

def forgetNames (arguments : List Octets) : Step Unit := do
  let (found, names) ← readLetters "a" arguments
  setStatus 0
  if !found.isEmpty then modify (·.adjust fun process => { process with nicknames := [] })
  else for name in names do
    let known := (← get).process.nicknames
    if (known.lookup name).isSome then
      modify (·.adjust fun process => { process with nicknames := known.filter fun entry => entry.1 ≠ name })
    else modify fun state => (state.report (.ofText "unalias: " ++ name ++ .ofText " not found\n")).withStatus 1

/-! ### Output -/

def printPlainly (arguments : List Octets) : Step Unit := modify fun state => state.succeed.print (Format.echo arguments)

/-- Prints by a format. What is wrong is told first. -/
def printFormatted (arguments : List Octets) : Step Unit := do
  match ← operandsOf arguments with
  | [] => abort (.ofText "usage: printf format [arg ...]")
  | format :: arguments => modify fun state =>
    let printed := Format.printf format arguments
    ((printed.complaints.foldl State.complain state).print printed.text).withStatus printed.status

/-- Tests values and files. -/
def test (arguments : List Octets) : Step Unit := modify fun state =>
  match Test.holds state arguments with
  | .ok value => state.answer value
  | .error fault => (state.complain fault.message).withStatus 2

/-- A test whose last argument closes the bracket that its name opens. -/
def testBracketed (arguments : List Octets) : Step Unit :=
  if arguments.getLast? = some [']'] then test arguments.dropLast else refuse (.ofText "missing ]")

/-- Whether the failure of a command ends the script. -/
def isSpecial (name : String) : Bool := Name.ofSpecialCommands.contains name

/-- Commands whose arguments may be assignments. -/
def declaring : List String := ["export", "readonly", "local"]

/-- Commands of the shell that run no others. -/
def commands : List (String × (List Octets → Step Unit)) :=
  [(":", fun _ => setStatus 0), ("true", fun _ => setStatus 0), ("false", fun _ => setStatus 1), ("exit", exit),
    ("return", leave), ("break", skip false), ("continue", skip true), ("shift", shift), ("export", exportVariables),
    ("readonly", fixVariables), ("unset", unset), ("local", hide), ("set", setOrList), ("read", readLine),
    ("getopts", getOption), ("cd", changeDirectory), ("chdir", changeDirectory), ("trap", setTraps), ("kill", kill),
    ("wait", waitFor), ("echo", printPlainly), ("printf", printFormatted),
    ("test", test), ("[", testBracketed),
    ("pwd", fun _ => modify Utility.workingDirectory), ("umask", umask), ("ulimit", ulimit),
    ("alias", nameOtherwise), ("unalias", forgetNames), ("hash", fun _ => setStatus 0), ("jobs", listJobs),
    ("times", fun _ => modify fun state => state.succeed.print (Octets.ofLines [times, times]))]
where
  times : Octets := .ofText "0m0.000000s 0m0.000000s"
  umask (arguments : List Octets) : Step Unit := do
    let mask := (← get).process.mask
    match arguments with
    | [] => modify fun state => state.succeed.print (Mode.digits 4 mask ++ ['\n'])
    | [['-', 'S']] =>
      modify fun state => state.succeed.print (Mode.clauses (Mode.without 0o777 mask) ++ ['\n'])
    | argument :: _ =>
      let isOctal := argument.all fun c => '0' ≤ c && c ≤ '9'
      let changed := if isOctal then (Mode.changed? 0 false argument 0)
        else (Mode.changed? 0 false argument (Mode.without 0o777 mask)).map (Mode.without 0o777)
      match changed with
      | some mask => modify fun state => (state.adjust fun process => { process with mask }).succeed
      | none => refuse (if isOctal then .ofText "Illegal number: " ++ argument else .ofText "Illegal mode: " ++ argument)
  ulimit (arguments : List Octets) : Step Unit :=
    modify fun state => if arguments.length < 2 then state.succeed.print (.ofText "unlimited\n") else state.succeed

/-- Commands of the shell that run others. -/
def runners : List String := [".", "eval", "exec", "command", "type"]

def isBuiltin (name : String) : Bool := runners.contains name || (commands.map Prod.fst).contains name

end Builtin
end ComponentViews.Shell
