import ComponentViews.Shell.Expansion
import ComponentViews.Shell.Extended.Command
import ComponentViews.Shell.Redirect
import ComponentViews.Shell.Starter

/-! Running scripts. A simple command expands to fields, of which the first one names what
runs; processes aside leave their output, their status and the files behind. Fuel bounds
how deep a run may go. -/

namespace ComponentViews.Shell

namespace Run
open Step Builtin

/-- Takes a step that others follow. -/
def midway (step : Step Unit) : Step Unit := do
  let before := (← get).process.last
  modify (·.adjust fun process => { process with last := false })
  let result ← attempt step
  modify (·.adjust fun process => { process with last := before })
  resume result

/-- Takes a step whose failure is looked at, or not. -/
def testing (tested : Bool) (step : Step Unit) : Step Unit := midway do
  let before := (← get).process.tested
  modify (·.adjust fun process => { process with tested })
  let result ← attempt step
  modify (·.adjust fun process => { process with tested := before })
  resume result

/-- Takes a step inside of one more loop. -/
def inLoop (step : Step Unit) : Step Unit := midway do
  let before := (← get).process.loops
  modify (·.adjust fun process => { process with loops := before + 1 })
  let result ← attempt step
  modify (·.adjust fun process => { process with loops := before })
  resume result

/-- Whether a loop goes on behind a round of it. -/
def goesOn : Except Halt Unit → Step Bool
  | .ok () => pure true
  | .error (.skipped (loops + 2) again) => throw (.skipped (loops + 1) again)
  | .error (.skipped _ again) => pure again
  | .error halt => throw halt

/-- How many functions may run inside of each other. -/
def greatestDepth : Nat := 1000

/-- Runs the body of a function with arguments of its own, outside of all loops; variables
that it hides come back behind it. -/
def inFunction (name : Octets) (arguments : List Octets) (step : Step Unit) : Step Unit := midway do
  let before := (← get).process
  if before.depth ≥ greatestDepth && before.dialect = .standard then
    abort (.ofText ("Maximum function recursion depth (" ++ toString greatestDepth ++ ") reached"))
  let place := if before.options.contains 'c' then some (Octets.ofText "environment")
    else if before.options.contains 's' then some (.ofText "main") else none
  let origin := if before.dialect = .extended then before.origin.or place else none
  modify (·.adjust fun process =>
    { process with
      arguments, loops := 0, scopes := [] :: process.scopes, depth := before.depth + 1
      passed := if before.dialect = .standard then (1, none) else process.passed
      calls := name :: before.calls, origin })
  let result ← attempt step
  let hidden := (← get).process.scopes.headD []
  modify fun state => (hidden.foldl State.unhide state).adjust fun process =>
    { process with
      passed := if before.dialect = .standard then before.passed else process.passed
      arguments := before.arguments, loops := before.loops, scopes := before.scopes, depth := before.depth
      calls := before.calls, origin := before.origin }
  match result with
  | .error .returned => pure ()
  | result => resume result

/-- Takes a step on behalf of a command of the shell, which complaints name. -/
def onBehalf {α : Type} (command : Octets) (step : Step α) : Step α := do
  let before := (← get).process.command
  modify (·.adjust fun process => { process with command := some command })
  let result ← attempt step
  modify (·.adjust fun process => { process with command := before })
  resume result

/-- Takes a step on behalf of a command that has no options, unless the first argument looks like one. -/
def barringOptions (command : String) (arguments : List Octets) (step : Step Unit) : Step Unit :=
  match arguments.head? with
  | some ('-' :: letter :: letters) =>
    if letter :: letters = ['-'] then step
    else onBehalf (.ofText command) (Builtin.Extended.refuseOption letter)
  | _ => step

/-- Takes a step with lines counted anew. -/
def apartLines (step : Step Unit) : Step Unit := do
  let before := (← get).process.line
  let result ← attempt step
  modify (·.adjust fun process => { process with line := before })
  resume result

/-- Tells what the shell is about to run, if it is asked to. -/
def trace (errors : Option Channel) (words : List Octets) : Step Unit := do
  let state ← get
  match errors with
  | some channel =>
    if state.hasOption 'x' then
      let start := (state.value? (.ofText "PS4")).getD ['+', ' ']
      let start := if state.isExtended then List.replicate state.process.nesting (start.headD '+') ++ start else start
      let words := if state.isExtended then words.map Quoting.traced else words
      set (state.send channel (start ++ [' '].intercalate words ++ ['\n']))
  | none => pure ()

/-- Tells about assignments that have been carried out, if it is asked for. -/
def traceAssigned (errors : Option Channel) (assigned : List Octets) : Step Unit := do
  let state ← get
  match errors with
  | some channel =>
    if state.hasOption 'x' then
      let start := (state.value? (.ofText "PS4")).getD ['+', ' ']
      let start := List.replicate state.process.nesting (start.headD '+') ++ start
      for text in assigned do modify (·.send channel (start ++ text ++ ['\n']))
  | none => pure ()

/-- Why a program cannot be started, in the words of the extended dialect. -/
def refusalText (state : State) (name : Octets) (refusal : Refusal) : String :=
  if state.isDirectory name && name.contains '/' then "Is a directory"
  else if refusal = .missing && !name.contains '/' then "command not found"
  else refusal.message

/-- Complains about a program that cannot be started. -/
def refuseProgram (name : Octets) (refusal : Refusal) : Step Unit := modify fun state =>
  let text := if state.isExtended then refusalText state name refusal else refusal.shellMessage
  (state.complain (name ++ .ofText (": " ++ text))).withStatus refusal.status

/-- Runs a line, upon which a mistake in it ends. -/
def alone (row : Step Unit) : Step Unit := do
  match ← attempt row with
  | .error .dropped => pure ()
  | result => resume result

/-- The commands of a pipe, from left to right. -/
def stages : Script → List Script
  | .pipe first second => stages first ++ [second]
  | script => [script]

/-- The status of a process that has ended. -/
def statusOf (ended : Ending) : Nat := (ended.2.map (128 + ·)).getD ended.1

/-- What is said about a source that cannot be read, with the line where it starts. -/
def faultLines (start : Nat) (source : Octets) (fault : Reader.Fault) : Nat × List Octets :=
  let last := start + (source.filter (· = '\n')).length + (if source.getLast? = some '\n' then 0 else 1)
  let unmatched (sign : Char) : List Octets :=
    [.ofText "unexpected EOF while looking for matching \x60" ++ [sign, '\'']]
  match fault.cause with
  | .openQuote quote => (fault.line, unmatched quote)
  | .openBackquote => (fault.line, unmatched '\x60')
  | .openBrace => (fault.line, unmatched '\x7d')
  | .openExpression => (last, unmatched ')')
  | .openParenthesis => (last, unmatched ')')
  | _ =>
    let rest := fault.rest.dropWhile Name.isBlank
    if rest = [] then (last, [.ofText "syntax error: unexpected end of file"])
    else
      let line := ((source.lines).drop (fault.line - start)).headD []
      (fault.line, [.ofText "syntax error near unexpected token \x60" ++ Reader.tokenAt rest ++ ['\''],
        ['\x60'] ++ line ++ ['\'']])

/-- Tells what is wrong with a source. -/
def reportFault (context : Octets) (start : Nat) (source : Octets) (fault : Reader.Fault) : Step Unit :=
  modify fun state =>
    let (line, messages) := faultLines start source fault
    let name := state.process.origin.getD state.process.name ++ .ofText ": "
    let place := name ++ (if context = [] then [] else context ++ [':', ' ']) ++ .ofText ("line " ++ toString line ++ ": ")
    (messages.foldl (fun (state : State) message => state.report (place ++ message ++ ['\n'])) state).withStatus 2

/-- The next line of the input for a menu, and whether there is one. -/
def readChoice : Step (Option Octets) := do
  let line ← Builtin.awaitLine false patience
  modify (·.take 0 line.taken line.rest)
  pure (if line.ended || !line.characters.isEmpty then some (line.characters.map Prod.fst) else none)

/-- A menu of values by their numbers. -/
def menuText (values : List Octets) : Octets :=
  let width := (toString values.length).length
  Octets.ofLines (values.zipIdx.map fun (value, index) =>
    let number := toString (index + 1)
    .ofText ("".pushn ' ' (width - number.length) ++ number ++ ") ") ++ value)

/-- Whether the redirections of a command outlast it. -/
def isLasting : List Octets → Bool
  | first :: rest => first = .ofText "exec" || first = .ofText "command" && rest.head? = some (.ofText "exec")
  | [] => false

/-- Tells that output of a command of the shell was lost. -/
def tellLost (command : String) : Step Unit := do
  let tell (state : State) : State := (state.complain (.ofText (command ++ ": I/O error"))).withStatus 1
  heedUnwritten fun _ => tell
  heedBroken tell

/-- Tells what names stand for. -/
def describeAll (names : List Octets) : Step Unit := do
  setStatus 0
  for name in names do
    let state ← get
    match state.describe name with
    | some text => set (state.print (text ++ ['\n']))
    | none => set ((state.print (name ++ .ofText ": not found\n")).withStatus 127)

/-- The path of a script that is to be run as a part of this one. -/
def sourcePath (name : Octets) : Step Octets := do
  let state ← get
  if name.contains '/' then pure name
  else
    let places := ((state.value? State.searchPath).getD []).splitOn ':'
    let paths := places.map fun directory => if directory = [] then name else directory ++ '/' :: name
    match paths.find? state.isFile with
    | some path => pure path
    | none => abort (name ++ .ofText ": not found")

mutual

/-- The output of a script, without the newlines at its end. -/
def takeOutput : Nat → Script → Step Octets
  | 0, _ => pure []
  | fuel + 1, script => do
    let status := (← get).status
    let (number, opened) := (← get).newStream .unbounded
    set opened
    let child := (opened.forked.setDescriptor 1 (.writer number)).adjust fun process =>
      { process with tested := false, nesting := process.nesting + 1 }
    let child := if child.isExtended then child.setOption 'e' false else child
    settle (← apart fuel startTime (if child.isExtended then printScript fuel script else execute fuel script) child)
    awaitClosing number patience
    let state ← get
    let output : Octets := (state.stream number).content.filter (· ≠ '\x00')
    set (((state.dropStream number).withStatus status).adjust fun process =>
      { process with substituted := state.status })
    pure (output.dropEndWhile (· = '\n'))

/-- Runs a script for its output; one that only names its input is that output. -/
def printScript : Nat → Script → Step Unit
  | 0, _ => pure ()
  | fuel + 1, .simple line [] [] redirections =>
    match redirections with
    | [redirection] =>
      if redirection.opening = .input && redirection.descriptor = 0 then do
        modify (·.adjust fun process => { process with line })
        let opened ← Expansion.redirectionsOf (takeOutput fuel) redirections
        Redirection.around opened false false do
          setStatus 0
          awaitInput
          modify fun state => (state.print state.inputPending).leave 0 []
      else execute fuel (.simple line [] [] redirections)
    | redirections => execute fuel (.simple line [] [] redirections)
  | fuel + 1, script => execute fuel script

/-- Takes a step in another process, up to the end of that. -/
def apart : Nat → Nat → Step Unit → State → Step Ending
  | 0, _, _, _ => pure (0, none)
  | fuel + 1, delay, step, child => do
    let before ← get
    set (child.awaitedBy before)
    spend (forkTime + delay)
    let signal ← attempt (finish fuel step)
    let left ← get
    let state := (Builtin.notice (before.resumed left)).raise before.process.id Signal.child
    set state
    match deadlySignal? state with
    | some signal => throw (.killed signal)
    | none => pure (left.status, signal.toOption.join)

/-- Takes a step that a process consists of, and what is set for its end; yields the signal
that ended it, if one did. -/
def finish : Nat → Step Unit → Step (Option Nat)
  | 0, _ => pure none
  | fuel + 1, step => do
    match ← attempt step with
    | .error (.killed signal) => pure (some signal)
    | _ => do
      let state ← get
      match state.process.traps.find? Signal.exit with
      | none => pure none
      | some action => do
        set (state.adjust (Builtin.dropTrap Signal.exit))
        match ← attempt (runSource fuel [] 1 action) with
        | .error (.killed signal) => pure (some signal)
        | .error .exited => pure none
        | _ => do
          setStatus state.status
          pure none

/-- Takes the signals that the process has yet to take. -/
def deliver : Nat → Step Unit
  | 0 => pure ()
  | fuel + 1 => do
    match (← get).nextSignal? with
    | none => pure ()
    | some (signal, state) => do
      set state
      match if signal = Signal.kill then none else state.process.traps.find? signal with
      | some action => do
        runSource fuel [] 1 action
        setStatus state.status
      | none => if !Signal.harmless.contains signal then throw (.killed signal)
      deliver fuel

/-- Minds a failure that nobody looks at: what is set for that is run, and a script that ends upon
failures ends. -/
def check : Nat → Step Unit
  | 0 => pure ()
  | fuel + 1 => do
    let state ← get
    if state.status ≠ 0 && !state.process.tested then
      match state.process.traps.find? Signal.failure with
      | some action =>
        if state.process.calls.isEmpty || state.hasOption 'E' then
          testing true (runSource fuel [] state.process.line action)
          setStatus state.status
      | none => pure ()
      if state.hasOption 'e' then throw .exited

/-- Runs a source line by line, the first of which has a number. -/
def runSource : Nat → Octets → Nat → Octets → Step Unit
  | 0, _, _, _ => pure ()
  | fuel + 1, context, line, source => do
    let dialect := (← get).process.dialect
    apartLines (runRows fuel context (line, source) true { rest := source, line, hidden := 0, dialect })

/-- Runs what is left of a source, of which the start and all of it are known. Each row is read when the
ones in front of it have been run, since they may change how it reads. -/
def runRows : Nat → Octets → Nat × Octets → Bool → Reader.Source → Step Unit
  | 0, _, _, _, _ => pure ()
  | fuel + 1, context, whole, isFirst, source => do
    match Reader.nextRow { source with aliases := (← get).aliases } with
    | .over => if isFirst then setStatus 0
    | .faulty fault => do
      if isFirst then setStatus 0
      match source.dialect with
      | .standard => do
        modify (·.adjust fun process => { process with line := fault.line })
        abort (.ofText ("Syntax error: " ++ fault.cause.message))
      | .extended => reportFault context whole.1 whole.2 fault
    | .script body rest =>
      if rest.isOver then alone (execute fuel body)
      else do
        alone (midway (execute fuel body))
        runRows fuel context whole false rest

def execute : Nat → Script → Step Unit
  | 0, _ => pure ()
  | _ + 1, .nothing => pure ()
  | fuel + 1, .simple line assignments words redirections => do
    if !(← get).hasOption 'n' then
      modify (·.adjust fun process => { process with line, substituted := 0 })
      runSimple fuel assignments words redirections
      conclude fuel
  | fuel + 1, .declaration line command arguments redirections => do
    modify (·.adjust fun process => { process with line, substituted := 0 })
    runDeclaration fuel command arguments redirections
    conclude fuel
  | fuel + 1, .condition line condition => do
    modify (·.adjust fun process => { process with line })
    onBehalf (.ofText "[[") do
      match ← attempt (holds fuel condition) with
      | .ok held => setStatus (if held then 0 else 1)
      | .error .dropped => if (← get).status = 0 then setStatus 1
      | .error halt => throw halt
    conclude fuel
  | fuel + 1, .calculation line expression => do
    modify (·.adjust fun process => { process with line })
    let value ← reckon fuel expression
    setStatus (if value.any (· ≠ 0) then 0 else 1)
    conclude fuel
  | fuel + 1, .counted line start condition next body => do
    modify (·.adjust fun process => { process with line })
    match ← reckon fuel start with
    | some _ => inLoop (runCounted fuel condition next body 0)
    | none => setStatus 1
  | fuel + 1, .menu line name values body => do
    modify (·.adjust fun process => { process with line })
    let fields ← match values with
      | some words => do pure (← words.mapM (Expansion.fieldsOf (takeOutput fuel))).flatten
      | none => do pure (← get).process.arguments
    if fields.isEmpty then setStatus 0 else inLoop (runMenu fuel name fields true body)
  | fuel + 1, .timed brief body => do
    execute fuel body
    modify (·.report (.ofText (if brief then "real 0.00\nuser 0.00\nsys 0.00\n"
      else "\nreal\t0m0.001s\nuser\t0m0.001s\nsys\t0m0.000s\n")))
  | fuel + 1, .redirected line body redirections => do
    modify (·.adjust fun process => { process with line })
    let redirections ← Expansion.redirectionsOf (takeOutput fuel) redirections
    let passages := (← get).process.passages
    modify (·.adjust fun process => { process with passages := [] })
    midway (Redirection.around redirections false false (execute fuel body))
    modify (·.adjust fun process => { process with passages })
    Expansion.closePassages
    check fuel
  | fuel + 1, .sequence first second => do
    midway (execute fuel first)
    execute fuel second
  | fuel + 1, .andThen first second => do
    testing true (execute fuel first)
    if (← get).status = 0 then execute fuel second
  | fuel + 1, .orElse first second => do
    testing true (execute fuel first)
    if (← get).status ≠ 0 then execute fuel second
  | fuel + 1, .pipe first second => do
    if (← get).isExtended then
      let ended ← runStages fuel none (stages first ++ [second])
      let statuses := ended.map statusOf
      let failed := statuses.reverse.find? (· ≠ 0)
      settle (ended.getLast?.getD (0, none))
      if (← get).hasSwitch "pipefail" then setStatus (failed.getD 0)
      modify (·.adjust fun process => { process with outcomes := statuses })
      deliver fuel
      check fuel
    else
    let (number, opened) := (← get).newStream .pipe
    let writer := opened.forked.setDescriptor 1 (.writer number)
    set ({ opened with world := writer.world }.bear writer.process (.script first))
    let child := (← get).forked.setDescriptor 0 (.reader number)
    let ended ← apart fuel startTime (execute fuel second) child
    await (.ending writer.process.id)
    settle (((← get).world.endings.find? writer.process.id).getD (0, none))
    settle ended
    modify (·.dropStream number)
    deliver fuel
    check fuel
  | fuel + 1, .negation body => do
    testing true (execute fuel body)
    setStatus (if (← get).status = 0 then 1 else 0)
  | _ + 1, .background body => do
    let state ← get
    let child := state.forked.setDescriptor 0 .void
    let job := child.process.id
    set (({ state with world := child.world }.bear child.process (.script body)).withJob job)
    setStatus 0
    spend forkTime
  | fuel + 1, .conditional condition yes no => do
    testing true (execute fuel condition)
    if (← get).status = 0 then execute fuel yes
    else match no with
      | .nothing => setStatus 0
      | no => execute fuel no
  | fuel + 1, .loop negated condition body => inLoop (runLoop fuel negated condition body 0)
  | fuel + 1, .each line name values body => do
    modify (·.adjust fun process => { process with line })
    let fields ← match values with
      | some words => do pure (← words.mapM (Expansion.fieldsOf (takeOutput fuel))).flatten
      | none => do pure (← get).process.arguments
    if fields.isEmpty then setStatus 0 else inLoop (runEach fuel name fields body)
  | fuel + 1, .choice line subject branches => do
    modify (·.adjust fun process => { process with line })
    let subject ← Expansion.textOf (takeOutput fuel) subject
    choose fuel subject branches
  | fuel + 1, .subshell body => do
    let state ← get
    let deeper := state.adjust fun process => { process with nesting := process.nesting + 1 }
    if state.isLeaving then
      set deeper
      execute fuel body
    else
      settle (← apart fuel startTime (execute fuel body) deeper.forked)
      modify (·.adjust fun process => { process with nesting := state.process.nesting })
      deliver fuel
    check fuel
  | _ + 1, .define name body => do
    modify (·.adjust fun process => { process with functions := process.functions.insert name body })
    setStatus 0

/-- What follows a command of any kind. -/
def conclude : Nat → Step Unit
  | 0 => pure ()
  | fuel + 1 => do
    drain
    modify (·.adjust fun process => { process with outcomes := [process.status] })
    spend commandTime
    deliver fuel
    check fuel

/-- Runs the commands of a pipe side by side, the last one as a process that is waited for; how each of
them has ended. -/
def runStages : Nat → Option Nat → List Script → Step (List Ending)
  | 0, _, _ => pure []
  | _ + 1, _, [] => pure []
  | fuel + 1, input, [last] => do
    let state ← get
    let child := state.forked
    let child := match input with
      | some number => child.setDescriptor 0 (.reader number)
      | none => child
    let ended ← apart fuel startTime (execute fuel last) child
    match input with
    | some number => modify (·.dropStream number)
    | none => pure ()
    pure [ended]
  | fuel + 1, input, stage :: rest => do
    let (number, opened) := (← get).newStream .pipe
    let writer := opened.forked.setDescriptor 1 (.writer number)
    let writer := match input with
      | some earlier => writer.setDescriptor 0 (.reader earlier)
      | none => writer
    set (State.bear { opened with world := writer.world } writer.process (.script stage))
    let later ← runStages fuel (some number) rest
    await (.ending writer.process.id)
    let ended := ((← get).world.endings.find? writer.process.id).getD (0, none)
    match input with
    | some earlier => modify (·.dropStream earlier)
    | none => pure ()
    pure (ended :: later)

/-- The value of an expression on its own, unless that makes no sense. -/
def reckon : Nat → Word → Step (Option Int)
  | 0, _ => pure none
  | fuel + 1, expression => do
    let source := Item.octets [' '] (← Expansion.expand (takeOutput fuel) false expression)
    match Calculation.run source (← get) with
    | .ok (value, state) => do
      set state
      pure (some value)
    | .error message => do
      let isFixed := (Octets.ofText ": readonly variable").reverse.isPrefixOf message.reverse
      let tell : Step Unit := modify fun state => (state.complain message).withStatus 1
      if isFixed then tell else onBehalf (.ofText "((") tell
      pure none

/-- Runs the rounds of a counted loop, which has the status of the last one. -/
def runCounted : Nat → Word → Word → Script → Nat → Step Unit
  | 0, _, _, _, _ => pure ()
  | fuel + 1, condition, next, body, last => do
    let isEmpty := condition.all fun part => part.characters.all Item.Splitting.isBlank && !part.isOutput
    let value ← if isEmpty then pure (some 1) else reckon fuel condition
    match value with
    | none => setStatus 1
    | some 0 => setStatus last
    | some _ => do
      if ← goesOn (← attempt (execute fuel body)) then
        let status := (← get).status
        match ← reckon fuel next with
        | some _ => runCounted fuel condition next body status
        | none => setStatus 1

/-- Runs the rounds of a menu, as long as something is chosen from it. -/
def runMenu : Nat → Octets → List Octets → Bool → Script → Step Unit
  | 0, _, _, _, _ => pure ()
  | fuel + 1, name, values, shows, body => do
    let prompt := ((← get).value? (.ofText "PS3")).getD (.ofText "#? ")
    if shows then modify (·.report (menuText values))
    modify (·.report prompt)
    match ← readChoice with
    | none => do
      modify (·.report ['\n'])
      setStatus 1
    | some answer => do
      Builtin.assign (.ofText "REPLY") answer
      if answer.all Name.isBlank then runMenu fuel name values true body
      else do
        let chosen := (Format.natural? answer).bind fun number =>
          if number = 0 then none else values[number - 1]?
        Builtin.assign name (chosen.getD [])
        if ← goesOn (← attempt (execute fuel body)) then runMenu fuel name values false body

/-- Whether words meet a condition. -/
def holds : Nat → Condition Word → Step Bool
  | 0, _ => pure false
  | fuel + 1, .negation body => return !(← holds fuel body)
  | fuel + 1, .both first second => do if ← holds fuel first then holds fuel second else pure false
  | fuel + 1, .either first second => do if ← holds fuel first then pure true else holds fuel second
  | fuel + 1, .unary operator operand => do
    let text ← Expansion.textOf (takeOutput fuel) operand
    Builtin.Extended.unary operator text
  | fuel + 1, .binary operator left right => do
    let left ← Expansion.textOf (takeOutput fuel) left
    if operator = "=~" then
      let pattern ← Expansion.fieldOf (takeOutput fuel) right
      Builtin.Extended.matchesRegex left pattern
    else if ["=", "==", "!="].contains operator then
      let pattern ← Expansion.fieldOf (takeOutput fuel) right
      let fits := Expansion.fits (← get) pattern left
      pure (if operator = "!=" then !fits else fits)
    else do
      let right ← Expansion.textOf (takeOutput fuel) right
      Builtin.Extended.binary left operator right

/-- Runs a command that declares variables. Its arguments are expanded before anything is declared. -/
def runDeclaration : Nat → Octets → List (Word ⊕ Assignment Word) → List (Redirection Word) → Step Unit
  | 0, _, _, _ => pure ()
  | fuel + 1, command, arguments, redirections => do
    let run := takeOutput fuel
    let wanted ← arguments.mapM fun
      | .inl word => do pure ((← Expansion.fieldsOf run word).map Builtin.Extended.Wanted.ofText)
      | .inr assignment => do
        let place ← assignment.place.mapM (Expansion.textOf run)
        let given : Builtin.Extended.Value ← match assignment.given with
          | .word word => do pure (.text (← Expansion.valueOf run word))
          | .members list => do pure (.members (← Expansion.listedOf run list))
        pure [{ text := [], name := assignment.name, place, appends := assignment.appends, given }]
    let redirections ← Expansion.redirectionsOf run redirections
    let errors := (← get).channel? 2
    Redirection.around redirections false false do
      trace errors (command :: wanted.flatten.map Builtin.Extended.Wanted.image)
      onBehalf command (Builtin.Extended.declare (String.ofList command) wanted.flatten)
      Expansion.closePassages

/-- Runs the rounds of a loop, which has the status of the last one. -/
def runLoop : Nat → Bool → Script → Script → Nat → Step Unit
  | 0, _, _, _, _ => pure ()
  | fuel + 1, negated, condition, body, last => do
    if ← goesOn (← attempt (testing true (execute fuel condition))) then
      if ((← get).status = 0) = negated then setStatus last
      else if ← goesOn (← attempt (execute fuel body)) then
        runLoop fuel negated condition body (← get).status

/-- Runs the body of a loop for each value. -/
def runEach : Nat → Octets → List Octets → Script → Step Unit
  | 0, _, _, _ => pure ()
  | _ + 1, _, [], _ => pure ()
  | fuel + 1, name, value :: rest, body => do
    if (← get).isExtended then
      if ← Variables.assign name value false then
        if ← goesOn (← attempt (execute fuel body)) then runEach fuel name rest body
    else
    Builtin.assign name value
    if ← goesOn (← attempt (execute fuel body)) then runEach fuel name rest body

/-- Runs the first branch with a pattern that fits, and those behind it that it goes on to. -/
def choose : Nat → Octets → List (List Word × Script × Sequel) → Step Unit
  | 0, _, _ => pure ()
  | _ + 1, _, [] => setStatus 0
  | fuel + 1, subject, (patterns, body, sequel) :: rest => do
    if ← anyFits fuel subject patterns then runBranch fuel subject body sequel rest
    else choose fuel subject rest

/-- Runs a branch, and goes on behind it as its end asks for. -/
def runBranch : Nat → Octets → Script → Sequel → List (List Word × Script × Sequel) → Step Unit
  | 0, _, _, _, _ => pure ()
  | fuel + 1, subject, body, sequel, rest => do
    match sequel, rest with
    | .next, (_, following, sequel) :: rest => do
      runBody fuel body
      runBranch fuel subject following sequel rest
    | .nextFitting, rest => do
      runBody fuel body
      chooseFurther fuel subject rest
    | _, _ => runBody fuel body

/-- Runs the next branch that fits, if there is one. -/
def chooseFurther : Nat → Octets → List (List Word × Script × Sequel) → Step Unit
  | 0, _, _ => pure ()
  | _ + 1, _, [] => pure ()
  | fuel + 1, subject, (patterns, body, sequel) :: rest => do
    if ← anyFits fuel subject patterns then runBranch fuel subject body sequel rest
    else chooseFurther fuel subject rest

def runBody : Nat → Script → Step Unit
  | 0, _ => pure ()
  | _ + 1, .nothing => setStatus 0
  | fuel + 1, body => execute fuel body

def anyFits : Nat → Octets → List Word → Step Bool
  | 0, _, _ => pure false
  | _ + 1, _, [] => pure false
  | fuel + 1, subject, pattern :: rest => do
    let field ← Expansion.fieldOf (takeOutput fuel) pattern
    if Expansion.fits (← get) field subject then pure true else anyFits fuel subject rest

/-- Runs a simple command. Its words are expanded before redirections and assignments. Without
words it has the status of the last script whose output it took; with them, assignments
last for its time only, unless it is a special command of the shell. They count already
where its name is looked up. -/
def runSimple : Nat → List (Assignment Word) → List Word → List (Redirection Word) → Step Unit
  | 0, _, _, _ => pure ()
  | fuel + 1, assignments, words, redirections => do
    let outer := (← get).process.passages
    modify (·.adjust fun process => { process with passages := [] })
    let fields ← Expansion.commandOf (takeOutput fuel) words
    let redirections ← Expansion.redirectionsOf (takeOutput fuel) redirections
    let state ← get
    let errors := state.channel? 2
    match fields with
    | [] => Redirection.around redirections false false do
      let assigned ← Expansion.assignAll (takeOutput fuel) false assignments
      if state.isExtended then traceAssigned errors assigned
      else if !assigned.isEmpty then trace errors assigned
      setStatus (← get).process.substituted
    | name :: arguments =>
      let special := (state.meaning name true).isSpecial && !state.isExtended
      Redirection.around redirections (isLasting fields) special do
        let saved := assignments.map fun assignment => (assignment.name, state.held? assignment.name)
        let result ← attempt do
          let assigned ← Expansion.assignAll (takeOutput fuel) (!special) assignments
          if state.isExtended then
            traceAssigned errors assigned
            trace errors fields
          else trace errors (assigned ++ fields)
          perform fuel ((← get).meaning name true) name arguments
        if !special then modify (saved.foldl State.restore ·)
        if state.isExtended then modify (·.assign ['_'] (fields.getLast?.getD []))
        resume result
    Expansion.closePassages
    modify (·.adjust fun process => { process with passages := outer })

/-- Runs what a name stands for. -/
def perform : Nat → State.Meaning → Octets → List Octets → Step Unit
  | 0, _, _, _ => pure ()
  | fuel + 1, .function body, name, arguments => inFunction name arguments (execute fuel body)
  | fuel + 1, .builtin text, _, arguments => do
    if (← get).isExtended then runExtended fuel text arguments
    else match ← attempt (runBuiltin fuel text arguments) with
    | .error .faulted => if Builtin.isSpecial text then throw .faulted
    | result => resume result
  | fuel + 1, .program path, name, arguments => spawn fuel (refuseProgram name) path name arguments
  | _ + 1, .nothing, name, _ => do
    let isDenied := name.isEmpty && !(← get).isExtended
    refuseProgram name (if isDenied then .denied else .missing)
    setStatus Refusal.missing.status

/-- Runs a command that a shell of the extended dialect knows itself. -/
def runExtended : Nat → String → List Octets → Step Unit
  | 0, _, _ => pure ()
  | fuel + 1, text, arguments =>
    let rest := if arguments.head? = some ['-', '-'] then arguments.drop 1 else arguments
    match text with
    | "command" => runPlainly fuel arguments
    | "builtin" => barringOptions text arguments <|
      match rest with
      | [] => setStatus 0
      | name :: arguments =>
        if Builtin.Extended.isCommand (String.ofList name) then runExtended fuel (String.ofList name) arguments
        else onBehalf (.ofText text) (Builtin.Extended.fail 1 (name ++ .ofText ": not a shell builtin"))
    | "eval" => barringOptions text arguments do
      let line := (← get).process.line
      if rest = [] then setStatus 0 else runSource fuel (.ofText text) line ([' '].intercalate rest)
    | "exec" => runInsteadAs fuel arguments
    | "." => barringOptions text arguments (runPartWith fuel text rest)
    | "source" => barringOptions text arguments (runPartWith fuel text rest)
    | _ =>
      match Builtin.Extended.commands.lookup text with
      | some run => onBehalf (.ofText text) do
        run arguments
        drain
        let tell (reason : String) (state : State) : State :=
          (state.complain (.ofText ("write error: " ++ reason))).withStatus 1
        heedUnwritten fun trouble => tell trouble.message
        heedBroken (tell "Broken pipe")
      | none => setStatus 0

/-- Lets a program take the place of the script, with some options. -/
def runInsteadAs : Nat → List Octets → Step Unit
  | 0, _ => pure ()
  | fuel + 1, arguments => do
    match Builtin.Extended.replacement arguments with
    | .error letter => onBehalf (.ofText "exec") (Builtin.Extended.refuseOption letter)
    | .ok (_, _, _, []) => setStatus 0
    | .ok (bare, own, login, name :: arguments) => do
      let state ← get
      let stripped (state : State) : State := if bare then state.adjust fun process =>
        { process with bindings := .empty } else state
      let called := (if login then ['-'] else []) ++ own.getD name
      match state.search? [] name with
      | none =>
        onBehalf (.ofText "exec") (modify fun state => (state.complain (name ++ .ofText ": not found")).withStatus 127)
        throw .exited
      | some path =>
        match state.startable path called arguments with
        | .error refusal =>
          onBehalf (.ofText "exec") (modify fun state =>
            (state.complain (name ++ .ofText (": cannot execute: " ++ refusal.message))).withStatus refusal.status)
          throw .exited
        | .ok started => do
          set ((stripped state).adjust fun process =>
            { process with traps := State.lastingTraps process.traps, number := process.id })
          start fuel started
          throw .exited

/-- Runs another script as a part of this one, perhaps with arguments of its own. -/
def runPartWith : Nat → String → List Octets → Step Unit
  | 0, _, _ => pure ()
  | _ + 1, text, [] => onBehalf (.ofText text) (Builtin.Extended.misuse "filename argument required")
  | fuel + 1, text, name :: arguments => do
    let state ← get
    if state.isDirectory (Builtin.Extended.partPath state name) then
      onBehalf (.ofText text) (Builtin.Extended.blame name "is a directory")
    else
    match state.read (Builtin.Extended.partPath state name) with
    | .error trouble =>
      modify fun state => (state.complain (name ++ .ofText (": " ++ trouble.message))).withStatus 1
    | .ok (source, read) => do
      set (read.adjust fun process =>
        { process with
          arguments := if arguments = [] then process.arguments else arguments
          origin := some name })
      let result ← attempt (midway (runSource fuel [] 1 source))
      modify (·.adjust fun process =>
        { process with
          arguments := if arguments = [] then process.arguments else state.process.arguments
          origin := state.process.origin })
      match result with
      | .error .returned => pure ()
      | result => resume result

/-- Runs a command of the shell. -/
def runBuiltin : Nat → String → List Octets → Step Unit
  | 0, _, _ => pure ()
  | fuel + 1, text, arguments =>
    match text with
    | "command" => runPlainly fuel arguments
    | "type" => onBehalf (.ofText text) do
      describeAll arguments
      tellLost text
    | "eval" => onBehalf (.ofText text) (runSource fuel [] 1 ([' '].intercalate arguments))
    | "exec" => onBehalf (.ofText text) (runInstead fuel arguments)
    | "." => onBehalf (.ofText text) (runPart fuel arguments)
    | _ =>
      match Builtin.commands.lookup text with
      | some run => onBehalf (.ofText text) do
        run arguments
        drain
        tellLost text
      | none => pure ()

/-- Runs a command that is no function, or tells what it is. -/
def runPlainly : Nat → List Octets → Step Unit
  | 0, _ => pure ()
  | _ + 1, [] => setStatus 0
  | fuel + 1, name :: rest => do
    let state ← get
    match name, rest with
    | '-' :: _ :: _, _ =>
      if state.isExtended then runLocated fuel (name :: rest) else runMarked fuel name rest
    | name, arguments => perform fuel (state.meaning name false) name arguments

/-- Runs a command that is no function, or tells what it is, as options of the extended dialect ask. -/
def runLocated : Nat → List Octets → Step Unit
  | 0, _ => pure ()
  | fuel + 1, words => do
    match ← onBehalf (.ofText "command") (Builtin.Extended.readOptions ['p', 'v', 'V'] [] words) with
    | none => pure ()
    | some given =>
      if given.has 'V' then onBehalf (.ofText "command") (Builtin.Extended.describeAll given.operands)
      else if given.has 'v' then Builtin.Extended.nameAll given.operands
      else match given.operands with
        | [] => setStatus 0
        | name :: arguments => perform fuel ((← get).meaning name false) name arguments

/-- Runs a command that is no function, or tells what it is, as a sign asks. -/
def runMarked : Nat → Octets → List Octets → Step Unit
  | 0, _, _ => pure ()
  | fuel + 1, name, rest => do
    let state ← get
    match name, rest with
    | ['-', 'v'], rest =>
      match rest.head?.map state.shortName with
      | some (some text) => onBehalf (.ofText "command") do
        modify (·.succeed.print (text ++ ['\n']))
        tellLost "command"
      | some none => setStatus 127
      | none => setStatus 0
    | ['-', 'V'], rest => onBehalf (.ofText "command") do
      describeAll (rest.take 1)
      tellLost "command"
    | ['-', 'p'], rest => runPlainly fuel rest
    | ['-', '-'], rest => runPlainly fuel rest
    | '-' :: letter :: _, _ => onBehalf (.ofText "command") (refuse (.ofText "Illegal option -" ++ [letter]))
    | name, arguments => perform fuel (state.meaning name false) name arguments

/-- Lets a program take the place of the script. -/
def runInstead : Nat → List Octets → Step Unit
  | 0, _ => pure ()
  | _ + 1, [] => setStatus 0
  | fuel + 1, name :: arguments => do
    let state ← get
    set (state.adjust fun process =>
      { process with traps := State.lastingTraps process.traps, number := process.id })
    replace fuel [] (refuseProgram name) name arguments
    throw .exited

/-- Runs another script as a part of this one. -/
def runPart : Nat → List Octets → Step Unit
  | 0, _ => pure ()
  | _ + 1, [] => setStatus 0
  | fuel + 1, name :: _ => do
    let path ← sourcePath name
    match (← get).read path with
    | .error _ => abort (.ofText "cannot open " ++ path ++ .ofText ": No such file")
    | .ok (source, state) => do
      set state
      match ← attempt (testing false (onBehalf path (runSource fuel [] 1 source))) with
      | .error .returned => pure ()
      | result => resume result

/-- Runs a program as a process of its own. -/
def spawn : Nat → (Refusal → Step Unit) → Octets → Octets → List Octets → Step Unit
  | 0, _, _, _, _ => pure ()
  | fuel + 1, refused, path, name, arguments => do
    let state ← get
    match state.startable path name arguments with
    | .error refusal => refused refusal
    | .ok started =>
      if state.isLeaving then
        set (state.adjust fun process => { process with number := process.id })
        spend programTime
        start fuel started
        throw .exited
      else settle (← apart fuel (startTime + programTime) (start fuel started) state.child)

/-- Lets a program run in the place of another. -/
def replace : Nat → Octets → (Refusal → Step Unit) → Octets → List Octets → Step Unit
  | 0, _, _, _, _ => pure ()
  | fuel + 1, usual, refused, name, arguments => do
    let state ← get
    match state.search? usual name with
    | none => refused .missing
    | some path =>
      match state.startable path name arguments with
      | .error refusal => refused refusal
      | .ok started => start fuel started

/-- Runs a program in the process at hand. -/
def start : Nat → Started → Step Unit
  | 0, _ => pure ()
  | fuel + 1, started => do
    modify (·.adjust fun process => { process with last := false, called := started.name })
    let program := String.ofList (Utility.lastName [] started.name)
    let tellBroken : Step Unit := do
      drain
      heedUnwritten (Utility.tellUnwritten program)
      heedBroken fun state => (Utility.complain program (.ofText "write error: Broken pipe") state).withStatus 1
    match started.program with
    | .utility appetite run => do
      Passing.runWhole appetite (run started.arguments) patience 0
      modify (Utility.tellStarved program)
      tellBroken
    | .stepwise run => do
      run started.arguments
      modify (Utility.tellStarved program)
      tellBroken
    | .locator => Starter.locate started.arguments
    | .starter kind =>
      let spawnNamed (refused : Refusal → Step Unit) (name : Octets) (arguments : List Octets) : Step Unit := do
        match (← get).search? State.usualSearchPath name with
        | none => refused .missing
        | some path => spawn fuel refused path name arguments
      let starting : Starting := { spawn := spawnNamed, replace := replace fuel State.usualSearchPath }
      Starter.run starting started.name kind started.arguments
      heedUnwritten (Utility.tellUnwritten program)
    | .shell dialect => do
      modify (·.asShell dialect started.name)
      let (context, source) ← Invocation.source started.arguments
      runSource fuel context 1 source

end

end Run
end ComponentViews.Shell
