import ComponentViews.Shell.Awk.Run
import ComponentViews.Shell.Search.Run

/-! Programs that run other programs, by ways to start those which are left open here. -/

namespace ComponentViews.Shell

namespace Starter
open Step

/-- Reads options and goes on with them. -/
def withOptions (command : String) (usage : Utility.Usage) (misuseStatus : Nat) (arguments : List Octets)
    (body : Utility.Options → Step Unit) : Step Unit := do
  match usage.read arguments with
  | .ok options => do
    setStatus 0
    body options
  | .error misuse => modify fun state => (misuse.tell command state).withStatus misuseStatus

/-- Tells why a program cannot be started. -/
def report (start : Octets) (refusal : Refusal) : Step Unit :=
  modify fun state => (state.report (start ++ .ofText (": " ++ refusal.message ++ "\n"))).withStatus refusal.status

/-! ### Other variables -/

/-- The assignments in front of words, and those words. -/
def splitAssignments (words : List Octets) : List (Octets × Octets) × List Octets :=
  let isAssignment (word : Octets) : Bool := word.contains '=' && word.head? ≠ some '='
  ((words.takeWhile isAssignment).map fun word =>
    let name := word.takeWhile (· ≠ '=')
    (name, word.drop (name.length + 1)), words.dropWhile isAssignment)

/-- Tells why a program cannot be started that words behind an assignment name. A name with a
blank in it may come from the first line of a script. -/
def reportNamed (own name : Octets) (refusal : Refusal) : Step Unit := do
  report (own ++ .ofText ": " ++ Utility.quoted name) refusal
  if refusal = .missing ∧ name.any Name.isBlank then
    modify (·.report (own ++ .ofText ": use -[v]S to pass options in shebang lines\n"))

def runEnvironment (starting : Starting) (own : Octets) (arguments : List Octets) : Step Unit :=
  let usage : Utility.Usage := {
    alone := ['i', 'v', '0'], valued := ['u', 'S'], anywhere := false,
    words := [("ignore-environment", 'i'), ("unset", 'u'), ("split-string", 'S')] }
  withOptions "env" usage 125 arguments fun options => do
    let bare := options.operands.head? = some ['-']
    let operands := if bare then options.operands.drop 1 else options.operands
    let split := ((options.value? 'S').getD []).splitOn ' '
    let (assignments, words) := splitAssignments (split.filter (· ≠ []) ++ operands)
    if bare || options.has 'i' then
      modify fun state => { state with process := { state.process with bindings := .empty } }
    for name in options.values 'u' do modify (·.forget name)
    for (name, value) in assignments do
      modify (·.bind name { value := some value, exported := true, fixed := false })
    match words with
    | [] => modify (Utility.printEnvironment [])
    | name :: arguments => starting.replace (reportNamed own name) name arguments

/-! ### Arguments from the input -/

/-- Words with quotes taken off, each with the number of its line; none if a quote is open. -/
def splitWords (line : Nat) (quote : Option Char) (current : Option Octets) :
    Octets → Except Char (List (Nat × Octets))
  | [] =>
    match quote with
    | some quote => .error quote
    | none => .ok (current.map fun word => (line, word.reverse)).toList
  | c :: rest =>
    let add (c : Char) : Option Octets := some (c :: current.getD [])
    match quote with
    | some opened =>
      if c = opened then splitWords line (if c = '\\' then quote else none) (current.or (some [])) rest
      else if opened = '\\' then splitWords line none (add c) rest
      else if c = '\n' then .error opened
      else splitWords line quote (add c) rest
    | none =>
      if c = '\'' ∨ c = '"' then splitWords line (some c) (current.or (some [])) rest
      else if c = '\\' then splitWords line (some c) current rest
      else if Name.isBlank c ∨ c = '\n' then
        (splitWords (if c = '\n' then line + 1 else line) none none rest).map
          ((current.map fun word => (line, word.reverse)).toList ++ ·)
      else splitWords line none (add c) rest

/-- Pieces of at most some length. -/
def pieces {α : Type} (size : Nat) : Nat → List α → List (List α)
  | 0, _ => []
  | count + 1, items => if items.isEmpty then [] else items.take size :: pieces size count (items.drop size)

/-- A text with each occurrence of a mark replaced. -/
def replaceAll (mark value : Octets) : Nat → Octets → Octets
  | 0, text => text
  | _ + 1, [] => []
  | count + 1, c :: rest =>
    if mark ≠ [] ∧ mark.isPrefixOf (c :: rest) then
      value ++ replaceAll mark value count ((c :: rest).drop mark.length)
    else c :: replaceAll mark value count rest

def replaced (mark value text : Octets) : Octets := replaceAll mark value (text.length + 1) text

/-- Groups of words that stand on one line. -/
def byLine (words : List (Nat × Octets)) : List (List Octets) :=
  (words.splitBy fun first second => first.1 = second.1).map (·.map Prod.snd)

/-- The arguments that each run of the command gets behind its own. -/
def groupsOf (options : Utility.Options) (input : Octets) : Except Char (List (List Octets)) :=
  let all (words : List Octets) : List (List Octets) :=
    match options.number? 'n' with
    | some size => pieces size (words.length + 1) words
    | none => [words]
  let separated (separator : Char) : List Octets :=
    let parts := input.splitOn separator
    if parts.getLast? = some [] then parts.dropLast else parts
  if options.has 'I' then
    let lines := (Octets.lines input).map fun line => line.dropWhile Name.isBlank
    .ok ((lines.filter (· ≠ [])).map fun line => [line])
  else if options.has '0' then .ok (all (separated '\x00'))
  else match options.value? 'd' with
    | some separator => .ok (all (separated (separator.headD ' ')))
    | none =>
      (splitWords 0 none none input).map fun words =>
        match options.number? 'L' with
        | some count => (pieces count (words.length + 1) (byLine words)).map List.flatten
        | none => all (words.map Prod.snd)

/-- Runs a command for each group of arguments until one cannot be run. -/
def runGroups (starting : Starting) (options : Utility.Options) (name : Octets) (own : List Octets) :
    List (List Octets) → Step Unit
  | [] => pure ()
  | group :: rest => do
    let before := (← get).status
    let arguments := match options.value? 'I' with
      | some mark => own.map (replaced mark (group.headD []))
      | none => own ++ group
    if options.has 't' then modify (·.report ([' '].intercalate (name :: arguments) ++ ['\n']))
    starting.spawn (report (.ofText "xargs: " ++ name)) name arguments
    match (← get).status with
    | 0 => do
      setStatus before
      runGroups starting options name own rest
    | 126 => pure ()
    | 127 => pure ()
    | 255 => modify fun state => (state.report
        (.ofText "xargs: " ++ name ++ .ofText ": exited with status 255; aborting\n")).withStatus 124
    | _ => do
      setStatus 123
      runGroups starting options name own rest

def runArguments (starting : Starting) (arguments : List Octets) : Step Unit :=
  let usage : Utility.Usage := {
    alone := ['0', 'r', 't', 'x'], valued := ['n', 'I', 'L', 'd', 'P', 's', 'E'], anywhere := false,
    words := [("null", '0'), ("no-run-if-empty", 'r'), ("max-args", 'n'), ("replace", 'I'), ("max-lines", 'L'),
      ("delimiter", 'd'), ("verbose", 't'), ("max-procs", 'P')] }
  withOptions "xargs" usage 1 arguments fun options => do
    awaitInput
    let input := (← get).inputPending
    modify (·.leave 0 [])
    let words := if options.operands = [] then [.ofText "echo"] else options.operands
    match groupsOf options input with
    | .error quote =>
      let kind := if quote = '"' then "double" else "single"
      let reason := "by default quotes are special to xargs unless you use the -0 option"
      modify (Utility.fault "xargs" (.ofText ("unmatched " ++ kind ++ " quote; " ++ reason)))
    | .ok groups => do
      let vacant := groups.flatten.isEmpty
      modify (·.setDescriptor 0 .void)
      runGroups starting options (words.headD []) (words.drop 1)
        (if vacant then (if options.has 'r' || options.has 'I' then [] else [[]]) else groups)

/-! ### Programs that only start another -/

def runWrapper (starting : Starting) (command : String) (valued : List Char) (operands : Nat)
    (arguments : List Octets) : Step Unit :=
  let usage : Utility.Usage := { alone := ['w', 'c', 'f', 'v'], valued, words := [], anywhere := false }
  withOptions command usage 125 arguments fun options => do
    match options.operands.drop operands with
    | [] => modify fun state =>
      (state.report (.ofText ("Try '" ++ command ++ " --help' for more information.\n"))).withStatus 125
    | name :: arguments =>
      let start := if command = "nice" then "nice: " else command ++ ": failed to run command "
      starting.replace (report (.ofText start ++ Utility.quoted name)) name arguments

/-! ### Limits of time -/

/-- Runs a program and sends it a signal once its time is up. -/
def runLimited (arguments : List Octets) : Step Unit := do
  let usage : Utility.Usage := {
    alone := ['f', 'p', 'v'], valued := ['s', 'k'], anywhere := false
    words := [("foreground", 'f'), ("preserve-status", 'p'), ("verbose", 'v'), ("signal", 's'), ("kill-after", 'k')] }
  let hint : Octets := .ofText "Try 'timeout --help' for more information.\n"
  withOptions "timeout" usage 125 arguments fun options => do
    let signal := match options.value? 's' with
      | some name => Signal.number? name
      | none => some Signal.terminate
    match options.operands with
    | limit :: name :: arguments =>
      match Passing.duration? limit, signal with
      | some limit, some signal => do
        let state ← get
        match state.search? State.usualSearchPath name with
        | none => report (.ofText "timeout: failed to run command " ++ Utility.quoted name) .missing
        | some path =>
          match state.startable path name arguments with
          | .error refusal => report (.ofText "timeout: failed to run command " ++ Utility.quoted name) refusal
          | .ok _ => do
            let state := state.adjust fun process => { process with group := process.id }
            let child := state.child
            let id := child.process.id
            let group := child.process.group
            set ({ world := child.world, process := state.process : State }.bear child.process
              (.program path name arguments))
            let late := (← get).world.clock + startTime + limit
            await (if limit = 0 then .ending id else .either (.ending id) (.moment late))
            let timely := ((← get).world.endings.find? id).isSome
            if !timely then
              modify (·.raiseAmong group signal)
              match (options.value? 'k').bind Passing.duration? with
              | some more => do
                await (.either (.ending id) (.moment (late + more)))
                modify (·.raiseAmong group Signal.kill)
              | none => pure ()
              await (.ending id)
            let (status, ended) := ((← get).world.endings.find? id).getD (0, none)
            match ended with
            | some signal =>
              if timely || signal = Signal.kill then throw (.killed signal)
              else setStatus (if options.has 'p' then 128 + signal else timedOut)
            | none => setStatus (if timely || options.has 'p' then status else timedOut)
      | none, _ => modify fun state =>
        let message := .ofText "timeout: invalid time interval " ++ Utility.quoted limit ++ ['\n'] ++ hint
        (state.report message).withStatus 125
      | _, none => modify fun state =>
        let name := Utility.quoted ((options.value? 's').getD [])
        (state.report (name ++ .ofText ": invalid signal\n" ++ hint)).withStatus 125
    | _ => modify fun state => (state.report (.ofText "timeout: missing operand\n" ++ hint)).withStatus 125
where
  timedOut : Nat := 124

/-- Runs a program that was called by a name of its own. -/
def run (starting : Starting) (own : Octets) : Starter → List Octets → Step Unit
  | .withVariables, arguments => runEnvironment starting own arguments
  | .withInput, arguments => runArguments starting arguments
  | .withLimit, arguments => runLimited arguments
  | .wrapping name valued operands, arguments => runWrapper starting name valued operands arguments
  | .withFound, arguments => Search.run starting arguments
  | .withRecords, arguments => Awk.run starting own arguments

/-- Prints where programs are. -/
def locate (arguments : List Octets) : Step Unit := do
  setStatus (if arguments = [] then 1 else 0)
  for name in arguments do
    let state ← get
    match state.search? [] name with
    | some path =>
      if state.isExecutable path then set (state.print (path ++ ['\n']))
      else setStatus 1
    | none => setStatus 1

end Starter
end ComponentViews.Shell
