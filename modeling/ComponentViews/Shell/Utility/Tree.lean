import ComponentViews.Shell.Entry
import ComponentViews.Shell.Utility.DateText
import ComponentViews.Shell.Utility.Naming

/-! Utilities that make files, directories and pipes, or remove them, and set their times. -/

namespace ComponentViews.Shell.Utility

/-- A complaint such as `cannot do it to 'path': why not`. -/
def refuse (command purpose : String) (path : Octets) (trouble : Trouble) (state : State) : State :=
  fault command (.ofText (purpose ++ " ") ++ named path ++ .ofText (": " ++ trouble.message)) state

/-- Goes through operands, of which there has to be one. -/
def forEachOperand (command : String) (options : Options) (state : State) (body : Octets → State → State) : State :=
  if options.operands = [] then missingOperand command state
  else options.operands.foldl (fun state operand => body operand state) state

/-- A path with a name behind it. -/
def joined (directory name : Octets) : Octets :=
  if directory.getLast? = some '/' then directory ++ name else directory ++ '/' :: name

/-! ### Making -/

def makeUsage : Usage where
  alone := ['p', 'v', 'Z']
  valued := ['m']
  words := [("parents", 'p'), ("verbose", 'v'), ("mode", 'm')]
  anywhere := true

/-- The permissions that an option asks for, from those that would be there without it. -/
def modeAsked (options : Options) (usual : Nat) (state : State) : Except Octets (Option Nat) :=
  match options.value? 'm' with
  | none => .ok none
  | some text =>
    match Mode.changed? state.process.mask true text usual with
    | some mode => .ok (some mode)
    | none => .error (.ofText "invalid mode " ++ quoted text)

/-- Paths from the first segment of a path to all of it. -/
def stages (path : Octets) : List Octets :=
  ((List.range (path.length + 1)).filter fun length =>
    length > 0 && path[length - 1]? ≠ some '/' && (length = path.length || path[length]? = some '/')).map path.take

/-- A complaint that a directory cannot be made. -/
def notMade (path : Octets) (trouble : Trouble) (state : State) : State :=
  fault "mkdir" (.ofText "cannot create directory " ++ quoted path ++ .ofText (": " ++ trouble.message)) state

/-- Makes a directory and says so if that is asked for. -/
def makeOne (command : String) (loud : Bool) (path : Octets) (state : State) : Except Trouble State := do
  let bare := if path.length > 1 then path.dropEndWhile isSlash else path
  match state.standing bare with
  | .ok _ => .error .present
  | .error _ => do
    let location ← state.vacancy bare
    let made := state.makeDirectory location
    pure (if loud then made.print (.ofText command ++ named path ++ ['\n']) else made)

/-- Makes directories up to the end of a path; those that are there stay. -/
def makeStages (command : String) (loud : Bool) : List Octets → State → Except (Octets × Trouble) State
  | [], state => .ok state
  | path :: rest, state =>
    if state.isDirectory path then makeStages command loud rest state
    else match makeOne command loud path state with
      | .ok state => makeStages command loud rest state
      | .error trouble =>
        .error (path, if trouble = .present ∧ rest ≠ [] then .noDirectory else trouble)

def makeDirectories (arguments : List Octets) (state : State) : State :=
  withOptions "mkdir" makeUsage 1 arguments state fun options state =>
    let note := "mkdir: created directory "
    match modeAsked options (Mode.without 0o777 state.process.mask) state with
    | .error message => if options.operands = [] then missingOperand "mkdir" state else fault "mkdir" message state
    | .ok mode =>
      forEachOperand "mkdir" options state fun operand state =>
        let finish (state : State) : State := match mode with
          | some mode => state.setMode operand mode
          | none => state
        if options.has 'p' then
          let wasThere := state.isDirectory operand
          match makeStages note (options.has 'v') (stages operand) state with
          | .ok state => if wasThere then state else finish state
          | .error (path, trouble) => notMade path trouble state
        else match makeOne note (options.has 'v') operand state with
          | .ok state => finish state
          | .error trouble => notMade operand trouble state

/-- Makes pipes that have names. -/
def makeQueues (arguments : List Octets) (state : State) : State :=
  let usage : Usage := { alone := ['Z'], valued := ['m'], words := [("mode", 'm')], anywhere := true }
  withOptions "mkfifo" usage 1 arguments state fun options state =>
    match modeAsked options 0o666 state with
    | .error message => fault "mkfifo" message state
    | .ok mode =>
      forEachOperand "mkfifo" options state fun operand state =>
        match state.standing operand, state.vacancy operand with
        | .ok _, _ => refuse "mkfifo" "cannot create fifo" operand .present state
        | .error _, .error trouble => refuse "mkfifo" "cannot create fifo" operand trouble state
        | .error _, .ok location =>
          let made := state.makeQueue location
          match mode with
          | some mode => made.setMode operand mode
          | none => made

/-- Makes a file or directory under a name that is not taken, and prints its path. -/
def makeTemporary (arguments : List Octets) (state : State) : State :=
  let usage : Usage := {
    alone := ['d', 'q', 'u', 't'], valued := ['p', 'σ'], anywhere := true
    words := [("directory", 'd'), ("dry-run", 'u'), ("quiet", 'q'), ("suffix", 'σ'), ("tmpdir", 'τ')]
    optional := ['τ'] }
  let usage := { usage with alone := 'τ' :: usage.alone }
  withOptions "mktemp" usage 1 arguments state fun options state =>
    match options.operands with
    | _ :: _ :: _ => hinted "mktemp" (.ofText "too many templates") state
    | operands =>
      let given := operands.headD (.ofText "tmp.XXXXXXXXXX")
      let suffix? := options.value? 'σ'
      let template := match suffix? with
        | some _ => given
        | none => given.take (given.length - (given.reverse.takeWhile (· ≠ 'X')).length)
      let suffix := match suffix? with
        | some suffix => suffix
        | none => given.drop template.length
      let free := template.dropEndWhile (· = 'X')
      let count := template.length - free.length
      let usual := ((state.value? (.ofText "TMPDIR")).filter (· ≠ [])).getD (Octets.ofText "/tmp")
      let directory := match (options.value? 'p').or (options.value? 'τ') with
        | some directory => some (if directory = [] then usual else directory)
        | none => if operands = [] ∨ options.has 't' then some usual else none
      if count < 3 then
        if suffix?.isSome ∧ given.getLast? ≠ some 'X' then
          fault "mktemp" (.ofText "with --suffix, template " ++ quoted given ++ .ofText " must end in X") state
        else fault "mktemp" (.ofText "too few X's in template " ++ quoted given) state
      else
        let digits := Octets.ofNat state.world.nextProcess
        let filling := (List.replicate count 'a' ++ digits).drop (min digits.length count)
        let filling := filling.drop (filling.length - count)
        let name := free ++ filling ++ suffix
        let path := match directory with
          | some directory => joined directory name
          | none => name
        let state := { state with world := { state.world with nextProcess := state.world.nextProcess + 1 } }
        let fail (kind : String) (trouble : Trouble) : State :=
          let pattern := match directory with
            | some directory => joined directory given
            | none => given
          if options.has 'q' then state.withStatus 1
          else refuse "mktemp" ("failed to create " ++ kind ++ " via template") pattern trouble state
        if options.has 'u' then state.print (path ++ ['\n'])
        else if options.has 'd' then
          match state.vacancy path with
          | .ok location => ((state.makeDirectory location).setModeAt location 0o700).print (path ++ ['\n'])
          | .error trouble => fail "directory" trouble
        else match state.write path [] with
          | .ok state => (state.setMode path 0o600).print (path ++ ['\n'])
          | .error trouble => fail "file" trouble

/-! ### Removing -/

def removalUsage : Usage where
  alone := ['p', 'v', 'ι']
  valued := []
  words := [("parents", 'p'), ("verbose", 'v'), ("ignore-fail-on-non-empty", 'ι')]
  anywhere := true

/-- Removes a directory that holds nothing. -/
def removeVacant (path : Octets) (state : State) : Except Trouble State := do
  let (location, standing) ← state.standing path
  if (path.splitOn '/').getLast? = some ['.'] then .error .invalid
  else if standing ≠ .directory then .error .noDirectory
  else if state.namesIn path ≠ [] then .error .notEmpty
  else pure (state.discard location)

/-- The paths from all of a path down to its first segment. -/
def ancestry (path : Octets) : List Octets := (stages (path.dropEndWhile isSlash)).reverse

/-- Removes directories that hold nothing. -/
def removeDirectories (arguments : List Octets) (state : State) : State :=
  withOptions "rmdir" removalUsage 1 arguments state fun options state =>
    forEachOperand "rmdir" options state fun operand state =>
      let steps := if options.has 'p' then operand :: (ancestry operand).drop 1 else [operand]
      go options operand steps state
where
  go (options : Options) (operand : Octets) : List Octets → State → State
    | [], state => state
    | path :: rest, state =>
      let told := if options.has 'v' then
          state.print (.ofText "rmdir: removing directory, " ++ named path ++ ['\n'])
        else state
      match removeVacant path told with
      | .ok state => go options operand rest state
      | .error trouble =>
        if trouble = .notEmpty ∧ options.has 'ι' then told
        else refuse "rmdir" (if path = operand then "failed to remove" else "failed to remove directory") path trouble told

def removeUsage : Usage where
  alone := ['r', 'R', 'f', 'i', 'I', 'd', 'v', 'ο', 'π']
  valued := []
  words := [("recursive", 'r'), ("force", 'f'), ("verbose", 'v'), ("dir", 'd'), ("interactive", 'i'),
    ("one-file-system", 'ο'), ("no-preserve-root", 'ο'), ("preserve-root", 'π')]
  anywhere := true
  optional := ['i', 'π']

/-- Asks a question on the error output and reads the answer from the input. -/
def askedFirst (command : String) (question : Octets) (state : State) : Bool × State :=
  let state := state.report (.ofText (command ++ ": ") ++ question ++ .ofText "? ")
  let input := state.inputPending
  let line := input.takeWhile (· ≠ '\n')
  let taken := state.take 0 (line.length + 1) (input.drop (line.length + 1))
  (line.head?.any fun c => c = 'y' || c = 'Y',
    taken.adjust fun process => { process with sated := line.length < input.length })

/-- What a thing that may be removed is called. -/
def callOf : Standing → String
  | .link _ => "symbolic link"
  | .queue => "fifo"
  | .device => "character special file"
  | .file content _ => if content.bytes.isEmpty then "regular empty file" else "regular file"
  | .directory => "directory"

/-- Removes what a path names, and what is below it before that. -/
def removePath (options : Options) : Nat → Octets → State → State
  | 0, _, state => state
  | fuel + 1, path, state =>
    match state.standing path with
    | .error trouble =>
      if options.has 'f' ∧ (trouble = .missing ∨ trouble = .noDirectory) then state
      else refuse "rm" "cannot remove" path trouble state
    | .ok (location, .directory) =>
      let names := state.namesIn path
      let recursive := options.has 'r' || options.has 'R'
      if recursive then
        let (enters, state) := if options.has 'i' ∧ names ≠ [] then
            askedFirst "rm" (.ofText "descend into directory " ++ named path) state
          else (true, state)
        if !enters then state
        else
          let emptied := names.foldl (fun state name => removePath options fuel (joined path (.ofText name)) state) state
          let (goes, emptied) := if options.has 'i' then
              askedFirst "rm" (.ofText "remove directory " ++ named path) emptied
            else (true, emptied)
          if !goes then emptied
          else if emptied.namesIn path ≠ [] then
            if emptied.status = 0 then refuse "rm" "cannot remove" path .notEmpty emptied else emptied
          else tell "removed directory " path (emptied.discard location)
      else if options.has 'd' then
        if names ≠ [] then refuse "rm" "cannot remove" path .notEmpty state
        else tell "removed directory " path (state.discard location)
      else refuse "rm" "cannot remove" path .isDirectory state
    | .ok (location, standing) =>
      let (goes, state) := if options.has 'i' then
          askedFirst "rm" (.ofText ("remove " ++ callOf standing ++ " ") ++ named path) state
        else (true, state)
      if goes then tell "removed " path (state.discard location) else state
where
  tell (note : String) (path : Octets) (state : State) : State :=
    if options.has 'v' then state.print (.ofText note ++ named path ++ ['\n']) else state

/-- How deep directories may lie in each other. -/
def greatestDepth : Nat := 4096

def remove (arguments : List Octets) (state : State) : State :=
  withOptions "rm" removeUsage 1 arguments state fun options state =>
    if options.operands = [] then if options.has 'f' then state else missingOperand "rm" state
    else options.operands.foldl (fun state operand =>
      let recursive := options.has 'r' || options.has 'R'
      let last := lastName [] operand
      let leads := (state.reached operand).toOption.map Prod.fst
      if recursive ∧ (last = ['.'] ∨ last = ['.', '.']) then
        fault "rm" (.ofText "refusing to remove '.' or '..' directory: skipping " ++ named operand) state
      else if recursive ∧ leads = some [] ∧ !options.has 'ο' then
        let reason := "it is dangerous to operate recursively on "
        let message := if operand = ['/'] then .ofText (reason ++ "'/'")
          else .ofText reason ++ named operand ++ .ofText " (same as '/')"
        complain "rm" (.ofText "use --no-preserve-root to override this failsafe") (fault "rm" message state)
      else removePath options greatestDepth operand state) state

/-- Removes one file. -/
def removeFile (arguments : List Octets) (state : State) : State :=
  withOptions "unlink" { alone := [], valued := [], words := [], anywhere := true } 1 arguments state
    fun options state =>
      match options.operands with
      | [] => missingOperand "unlink" state
      | [operand] =>
        match state.standing operand with
        | .error trouble => refuse "unlink" "cannot unlink" operand trouble state
        | .ok (_, .directory) => refuse "unlink" "cannot unlink" operand .isDirectory state
        | .ok (location, _) => state.discard location
      | _ :: extra :: _ => hinted "unlink" (.ofText "extra operand " ++ quoted extra) state

/-! ### Times -/

/-- The time that digits such as `202001020304.05` give. -/
def stampedTime? (now : Moment) (text : Octets) : Option Moment :=
  let digits := text.takeWhile Name.isDigit
  let seconds := match text.drop digits.length with
    | [] => some 0
    | ['.', a, b] => if Name.isDigit a ∧ Name.isDigit b then some (Numeral.digitsValue [a, b]) else none
    | _ => none
  let value (first count : Nat) : Int := Numeral.digitsValue ((digits.drop first).take count)
  let year := match digits.length with
    | 8 => some (Date.ofSeconds now.seconds).year
    | 10 => some (DateText.fullYear (digits.take 2))
    | 12 => some (value 0 4)
    | _ => none
  let rest := digits.length - 8
  match year, seconds with
  | some year, some seconds =>
    let (month, day, hour, minute) := (value rest 2, value (rest + 2) 2, value (rest + 4) 2, value (rest + 6) 2)
    if Date.ofDay (Date.dayNumber year month day) ≠ (year, month, day) ∨ 23 < hour ∨ 59 < minute then none
    else
      let date : Date := { year, month, day, hour, minute, second := (seconds : Nat) }
      some { seconds := date.toSeconds, nanoseconds := 0 }
  | _, _ => none

def touchUsage : Usage where
  alone := ['a', 'c', 'm', 'f', 'h']
  valued := ['d', 'r', 't', 'τ']
  words := [("no-create", 'c'), ("date", 'd'), ("reference", 'r'), ("time", 'τ'), ("no-dereference", 'h')]
  anywhere := true

/-- The time that options ask for, on the clock that counts millionths of a second. -/
def timeAsked (options : Options) (state : State) : Except Octets (Option Int) :=
  let now := Moment.ofClock state.world.clock
  match options.value? 'd', options.value? 't', options.value? 'r' with
  | some text, _, _ =>
    match DateText.read? now .universal text with
    | some moment => .ok (some moment.clock)
    | none => .error (.ofText "invalid date format " ++ quoted text)
  | none, some text, _ =>
    match stampedTime? now text with
    | some moment => .ok (some moment.clock)
    | none => .error (.ofText "invalid date format " ++ quoted text)
  | none, none, some path =>
    match state.reached path with
    | .ok (location, _) => .ok (some (state.changedAt location))
    | .error trouble => .error (.ofText "failed to get attributes of " ++ named path ++ .ofText (": " ++ trouble.message))
  | none, none, none => .ok none

/-- Makes files that are not there, and sets the times of the others. -/
def touch (arguments : List Octets) (state : State) : State :=
  withOptions "touch" touchUsage 1 arguments state fun options state =>
    match timeAsked options state with
    | .error message => fault "touch" message state
    | .ok time =>
      if options.operands = [] then hinted "touch" (.ofText "missing file operand") state
      else options.operands.foldl (fun state operand =>
        let timed (state : State) : State :=
          match state.reached operand, time with
          | .ok (location, _), some time => if options.has 'a' ∧ !options.has 'm' then state else state.setChanged location time
          | .ok (location, _), none => if options.has 'a' ∧ !options.has 'm' then state else state.stamp location
          | .error _, _ => state
        if (state.entry? operand).isSome then timed state
        else if options.has 'c' ∨ options.has 'h' then state
        else match state.write operand [] with
          | .ok state => timed state
          | .error trouble =>
            refuse "touch" "cannot touch" operand (if trouble = .noDirectory ∧ operand.getLast? = some '/' then .missing else trouble) state)
        state

end ComponentViews.Shell.Utility
