import ComponentViews.Shell.Awk.Machine
import ComponentViews.Shell.Fork
import ComponentViews.Shell.Lookup

/-! Running scripts for records: rules that stand at the start, those for each record, and
those at the end. Commands that a script writes to run once it closes them; fuel bounds how
deep a run may go. -/

namespace ComponentViews.Shell.Awk

/-- Why a statement is left before its end. -/
inductive Jump where
  | next
  | nextFile
  | exit
  /-- Something is wrong, which ends all. -/
  | failed
  | giveBack (value : Value)
  | stop
  | goOn

/-- A step of a script for records, on its machine and on the shell's state. -/
abbrev Turn := ExceptT Jump (StateT Machine Step)

namespace Turn

def ofStep {α : Type} (step : Step α) : Turn α := ExceptT.lift (StateT.lift step)

def attempt {α : Type} (turn : Turn α) : Turn (Except Jump α) := ExceptT.lift turn.run

def resume {α : Type} : Except Jump α → Turn α
  | .ok value => pure value
  | .error jump => throw jump

/-- The state of the shell. -/
def outside : Turn State := ofStep get

def change (change : State → State) : Turn Unit := ofStep (modify change)

/-- Sends what has been printed. -/
def flush : Turn Unit := do
  let printed := (← get).printed
  modify fun machine => { machine with printed := [], printedSize := 0 }
  change (·.print printed.reverse.flatten)
  ofStep Step.drain

/-- How much is printed before it is sent. -/
def bufferSize : Nat := 4096

/-- Complains and gives up. -/
def fail {α : Type} (message : Octets) : Turn α := do
  let name := (← get).name
  change (·.report (name ++ .ofText ": " ++ message ++ ['\n']))
  modify fun machine => { machine with status := 2 }
  throw .failed

/-- Complains about what goes wrong with a record, and gives up. -/
def failThere {α : Type} (message : Octets) : Turn α := do
  let machine ← get
  let place := .ofText "\n\tFILENAME=\"" ++ machine.ownText "FILENAME" ++ .ofText "\" FNR=" ++ machine.ownText "FNR"
    ++ .ofText " NR=" ++ machine.ownText "NR"
  fail (.ofText "run time error: " ++ message ++ place)

def reasonOf : Regex.Fault → String
  | .openGroup => "missing ')'"
  | .nothingRepeated => "missing operand"
  | .openBracket => "class -- [], [^] or [ "
  | _ => "syntax error"

def regexOf (source : Octets) : Turn Regex := do
  match Regex.parse .escaped source with
  | .ok (regex, _) => pure regex
  | .error fault =>
    fail (.ofText ("line 1: regular expression compile failed (" ++ reasonOf fault ++ ")\n") ++ source)

def text (value : Value) : Turn Octets := do return (← get).text value

/-! ### What is read and written -/

/-- Runs a command, with a descriptor leading elsewhere if that is asked for; yields its status. -/
def command (starting : Starting) (arguments : List Octets) (leading : Option (Nat × Channel)) : Turn Nat := do
  let before ← outside
  match leading with
  | some (descriptor, channel) => change (·.setDescriptor descriptor channel)
  | none => pure ()
  ofStep (starting.spawn (fun refusal => Step.setStatus refusal.status) (.ofText "/bin/sh") (.ofText "-c" :: arguments))
  match leading with
  | some (descriptor, _) =>
    match before.channel? descriptor with
    | some channel => change (·.setDescriptor descriptor channel)
    | none => change (·.closeDescriptor descriptor)
  | none => pure ()
  return (← outside).status

def isInput (name : Octets) : Bool := name = ['-'] ∨ name = .ofText "/dev/stdin"

def isOutput (name : Octets) : Bool := name = ['-'] ∨ name = .ofText "/dev/stdout"

/-- Where descriptors begin that no script can name. -/
def hiddenDescriptor : Nat := 1000

/-- Opens a file, or what the process itself has to read. -/
def sourceOf (name : Octets) : Turn (Except Trouble Source) := do
  let state ← outside
  match Passing.streamOf? state (if isInput name then ['-'] else name) with
  | some number => pure (.ok { content := [], stream := some number, process := none })
  | none =>
    if isInput name then pure (.ok { content := [], stream := none, process := none })
    else match state.read name with
      | .ok (content, state) => do
        change fun _ => state
        pure (.ok { content, stream := none, process := none })
      | .error trouble => pure (.error trouble)

/-- A source with more of what its stream yields, or without a stream that yields nothing more. -/
def pull (source : Source) : Nat → Turn Source
  | 0 => pure source
  | fuel + 1 => do
    match source.stream with
    | none => pure source
    | some number => do
      let state ← outside
      let stream := state.stream number
      if stream.size > 0 then
        change (·.setStream number (stream.keep []))
        pure { source with content := source.content ++ stream.content }
      else if state.isWritten number then
        ofStep (Step.await (.content number 0))
        pull source fuel
      else pure { source with stream := none }

/-- Whether a record is whole, whatever may come behind it. -/
def isWhole (ending : Octets) (source : Source) (record rest : Octets) : Bool :=
  source.stream.isNone || !rest.isEmpty ||
    (ending.length = 1 && source.content.getLast? = ending.head? && record.length < source.content.length)

/-- The next record of a source, with what is left then. -/
def recordOf? (source : Source) : Nat → Turn (Option (Octets × Source))
  | 0 => pure none
  | fuel + 1 => do
    let ending := (← get).ownText "RS"
    match nextRecord? ending source.content with
    | some (record, rest) =>
      if isWhole ending source record rest then pure (some (record, { source with content := rest }))
      else recordOf? (← pull source fuel) fuel
    | none => if source.stream.isNone then pure none else recordOf? (← pull source fuel) fuel

/-- Starts a command whose output is read. -/
def startSource (name : Octets) : Turn Source := do
  let state ← outside
  let (number, state) := state.newStream .pipe
  let writer := state.child.setDescriptor 1 (.writer number)
  let shell := Octets.ofText "/bin/sh"
  let task := Task.program shell shell [.ofText "-c", name]
  let born := { state with world := writer.world }.bear writer.process task
  change fun _ => born.setDescriptor (hiddenDescriptor + number) (.reader number)
  pure { content := [], stream := some number, process := some writer.process.id }

/-- What a file or a command's output still has to be read. -/
def source? (origin : Origin) (name : Octets) : Turn (Option Source) := do
  match (← get).sources.lookup (origin, name) with
  | some source => pure (some source)
  | none =>
    if origin = .command then
      flush
      return some (← startSource name)
    else return (← sourceOf name).toOption

/-- What is written to by a name. -/
def opened (outlet : Outlet) (name : Octets) : Turn Opened := do
  let key := (decide (outlet = .command), name)
  let machine ← get
  let keep (found : Opened) : Turn Opened := do
    modify fun machine =>
      { machine with outlets := (key, found) :: machine.outlets.filter fun entry => entry.1 ≠ key }
    pure found
  match machine.outlets.lookup key with
  | some found => keep found
  | none =>
    if outlet = .command then
      flush
      let (number, state) := (← outside).newStream .unbounded
      change fun _ => state
      keep (.command number)
    else match (← outside).openOutput name (outlet = .file) with
      | .ok (channel, state) => do
        change fun _ => state
        keep (.channel channel)
      | .error trouble =>
        fail (.ofText "cannot open \"" ++ name ++ .ofText ("\" for output (" ++ trouble.message ++ ")"))

def emit (target : Option (Outlet × Octets)) (text : Octets) : Turn Unit := do
  let print : Turn Unit := do
    modify fun machine =>
      { machine with printed := text :: machine.printed, printedSize := machine.printedSize + text.length }
    if (← get).printedSize ≥ bufferSize then flush
  match target with
  | none => print
  | some (outlet, name) =>
    if outlet ≠ .command ∧ isOutput name then print
    else match ← opened outlet name with
      | .channel channel => change (·.send channel text)
      | .command number => change (·.send (.writer number) text)

/-- Ends what is written to; a command gets to run, and yields its status. -/
def finish (starting : Starting) (name : Octets) : Opened → Turn Nat
  | .channel _ => pure 0
  | .command number => do
    let status ← command starting [name] (some (0, .reader number))
    change (·.dropStream number)
    pure status

/-- Ends a source; yields the status of the command, if it is one. -/
def finishSource (source : Source) : Turn Nat := do
  match source.process with
  | none => pure 0
  | some id => do
    match source.stream with
    | some number => change (·.closeDescriptor (hiddenDescriptor + number))
    | none => pure ()
    ofStep (Step.await (.ending id))
    let (status, signal) := ((← outside).world.endings.find? id).getD (0, none)
    pure ((signal.map (256 + ·)).getD status)

/-- Closes what is open by a name; yields the status of the last command among it, if anything is. -/
def close (starting : Starting) (name : Octets) : Turn (Option Nat) := do
  let machine ← get
  let outlets := machine.outlets.filter fun entry => entry.1.2 = name
  let sources := machine.sources.filter fun entry => entry.1.2 = name
  set { machine with
    outlets := machine.outlets.filter fun entry => entry.1.2 ≠ name
    sources := machine.sources.filter fun entry => entry.1.2 ≠ name }
  let statuses ← outlets.mapM fun entry => finish starting name entry.2
  let read ← sources.mapM fun entry => finishSource entry.2
  pure (read ++ statuses).getLast?

/-- Ends all that is written to, the latest first. -/
def closeAll (starting : Starting) : Turn Unit := do
  for (key, found) in (← get).outlets do
    let _ ← finish starting key.2 found
  flush

/-- Opens an operand. -/
def openInput (name : Octets) : Turn Unit := do
  match ← sourceOf name with
  | .error .isDirectory => fail (.ofText "read error (Is a directory)")
  | .error trouble => fail (.ofText "cannot open \"" ++ name ++ .ofText ("\" (" ++ trouble.message ++ ")"))
  | .ok source => modify fun machine =>
    ({ machine with input := some source, served := true }.setOwn "FILENAME" (.text name)).setOwn "FNR" (.ofInt 0)

/-- Opens the next operand that names a file, or else what the process itself has to read if
there is none at all. Operands with an equals sign give values to variables. -/
def openNext : Nat → Turn Bool
  | 0 => pure false
  | fuel + 1 => do
    let machine ← get
    if machine.operand < (machine.own "ARGC").toReal.toInt.toNat then
      let (number, machine) := machine.arrayOf (.ofText "ARGV")
      let operand := (((machine.elements number).find? (.ofNat machine.operand)).map machine.text).getD []
      set { machine with operand := machine.operand + 1 }
      let name := Name.chosenAt operand
      if operand = [] then openNext fuel
      else if name ≠ [] ∧ (operand.drop name.length).head? = some '=' then
        modify (·.assignGiven name (operand.drop (name.length + 1)))
        openNext fuel
      else
        openInput operand
        pure true
    else if machine.served then pure false
    else
      openInput ['-']
      pure true

/-- The next record of the input, which is counted. -/
def nextInput : Nat → Turn (Option Octets)
  | 0 => pure none
  | fuel + 1 => do
    let machine ← get
    match machine.input with
    | none => if ← openNext fuel then nextInput fuel else pure none
    | some source =>
      match ← recordOf? source fuel with
      | some (record, source) => do
        set (({ machine with input := some source }.count "NR").count "FNR")
        pure (some record)
      | none => do
        set { machine with input := none }
        nextInput fuel

/-! ### Functions that every script has -/

/-- Where a part is first found in a text, counted from one. -/
def indexOf (part : Octets) : Nat → Octets → Nat
  | position, text =>
    if part.isPrefixOf text then position
    else match text with
      | [] => 0
      | _ :: rest => indexOf part (position + 1) rest

/-- A part of a text. A start in front of the text makes the part longer instead. -/
def substring (text : Octets) (start : Int) (length : Option Int) : Octets :=
  let rest := text.drop (start - 1).toNat
  match length with
  | none => rest
  | some length => rest.take (if start ≤ 0 then length - start else length).toNat

def formatted (command : String) (values : List Value) : Turn Octets := do
  let machine ← get
  let format := machine.text (values.headD .nothing)
  let place := .ofText (" " ++ command ++ "(\"") ++ format ++ .ofText "\")"
  match Awk.print machine.conversion format (values.drop 1) with
  | .ok text => pure text
  | .error .missing => failThere (.ofText "not enough arguments passed to" ++ place)
  | .error (.improper number) =>
    failThere (.ofText ("improper conversion(number " ++ toString number ++ ") in") ++ place)

/-- The time. -/
def now : Turn Moment := do return .ofClock (← outside).world.clock

/-- The zone that the process is in. -/
def zone : Turn Zone := do return (((← outside).value? (.ofText "TZ")).map Zone.ofText).getD .universal

/-- The time in seconds that a date is, whose parts are six numbers between blanks. -/
def timeOf (zone : Zone) (text : Octets) : Int :=
  match ((text.splitOn ' ').filter (· ≠ [])).map Format.integer? with
  | some year :: some month :: some day :: some hour :: some minute :: some second :: _ =>
    Date.toSeconds { year, month, day, hour, minute, second } - zone.offset
  | _ => -1

/-- Functions of values alone. -/
def apply (starting : Starting) (name : String) (values : List Value) : Turn Value := do
  let machine ← get
  let text := machine.text (values.headD .nothing)
  let second := values[1]?.getD .nothing
  let number := (values.headD .nothing).toReal
  match name with
  | "length" => pure (.ofInt (if values = [] then machine.record else text).length)
  | "substr" =>
    pure (.text (substring text second.toReal.toInt (values[2]?.map fun value => value.toReal.toInt)))
  | "index" => pure (.ofInt (if text = [] then 0 else indexOf (machine.text second) 1 text))
  | "sprintf" => return .text (← formatted name values)
  | "int" => pure (.number number.truncated)
  | "sin" => pure (.number number.sineAndCosine.1)
  | "cos" => pure (.number number.sineAndCosine.2)
  | "atan2" => pure (.number (number.arc second.toReal))
  | "exp" => pure (.number number.exp)
  | "log" => pure (.number number.log)
  | "rand" => do
    let (number, machine) := machine.scatter
    set machine
    pure (.number number)
  | "srand" => do
    let moment ← now
    let seed := if values = [] then .ofInt moment.seconds else number
    modify (·.seeded seed)
    pure (.number machine.seed)
  | "systime" => return .ofInt (← now).seconds
  | "strftime" => do
    let now ← now
    let own ← zone
    let moment : Moment := if values.length < 2 then now else { seconds := second.toReal.toInt, nanoseconds := 0 }
    let zone : Zone := if values[2]?.any Value.isTrue then .universal else own
    pure (.text (moment.print zone (if values = [] then .ofText "%c" else text)))
  | "mktime" => return .ofInt (timeOf (← zone) text)
  | "sqrt" => pure (.number number.root)
  | "tolower" => pure (.text (text.map Char.toLower))
  | "toupper" => pure (.text (text.map Char.toUpper))
  | "system" => do
    flush
    return .ofInt (← command starting [text, .ofText "sh"] none)
  | "close" => return .ofInt (((← close starting text).map Int.ofNat).getD (-1))
  | "fflush" => do
    flush
    pure (.ofInt 0)
  | _ => pure .nothing

end Turn

open Turn

mutual

def evaluate (starting : Starting) : Nat → Expression → Turn Value
  | 0, _ => pure .nothing
  | fuel + 1, expression => do
    match expression with
    | .number value => pure (.number value)
    | .text value => pure (.text value)
    | .regex source => do
      let regex ← regexOf source
      let machine ← get
      pure (.ofFlag (regex.isIn machine.record))
    | .place place => do
      let spot ← spotOf starting fuel place
      let (value, machine) := (← get).read spot
      set machine
      pure value
    | .arithmetic operation left right => do
      let left ← evaluate starting fuel left
      let right ← evaluate starting fuel right
      pure (.number (Value.compute operation left.toReal right.toReal))
    | .concatenation left right => do
      let left ← text (← evaluate starting fuel left)
      return .text (left ++ (← text (← evaluate starting fuel right)))
    | .comparison kind left right => do
      let left ← evaluate starting fuel left
      let right ← evaluate starting fuel right
      return .ofFlag (Value.compare (← get).conversion kind left right)
    | .fitting negated subject pattern => do
      let subject ← text (← evaluate starting fuel subject)
      let regex ← patternOf starting fuel pattern
      pure (.ofFlag (regex.isIn subject != negated))
    | .both left right => do
      if (← evaluate starting fuel left).isTrue then return .ofFlag (← evaluate starting fuel right).isTrue
      else pure (.ofFlag false)
    | .either left right => do
      if (← evaluate starting fuel left).isTrue then pure (.ofFlag true)
      else return .ofFlag (← evaluate starting fuel right).isTrue
    | .negation operand => do
      let value ← evaluate starting fuel operand
      pure (.ofFlag !value.isTrue)
    | .minus operand => return .number (← evaluate starting fuel operand).toReal.neg
    | .plus operand => return .number (← evaluate starting fuel operand).toReal
    | .conditional condition yes no => do
      if (← evaluate starting fuel condition).isTrue then evaluate starting fuel yes else evaluate starting fuel no
    | .assignment place operation expression => do
      let value ← evaluate starting fuel expression
      let spot ← spotOf starting fuel place
      let machine ← get
      let value := match operation with
        | some operation => .number (Value.compute operation (machine.read spot).1.toReal value.toReal)
        | none => value
      set (machine.write spot value)
      pure value
    | .increment place amount before => do
      let spot ← spotOf starting fuel place
      let old := ((← get).read spot).1.toReal
      let new := old.add (.ofInt amount)
      modify (·.write spot (.number new))
      pure (.number (if before then old else new))
    | .membership indices array => do
      let key ← keyOf starting fuel indices
      let (number, machine) := (← get).arrayOf array
      set machine
      pure (.ofFlag ((machine.elements number).find? key).isSome)
    | .call name arguments => callFunction starting fuel name arguments
    | .builtin name arguments => callBuiltin starting fuel name arguments
    | .readRecord origin name place => readFrom starting fuel origin name place

/-- The place that indices lead to. -/
def spotOf (starting : Starting) : Nat → Place → Turn Spot
  | 0, _ => pure (.field 0)
  | fuel + 1, place => do
    match place with
    | .named name => pure (.named name)
    | .field index => do
      let index := (← evaluate starting fuel index).toReal.toInt
      if index < 0 then failThere (.ofText ("negative field index $" ++ toString index)) else pure (.field index.toNat)
    | .element array indices => do
      let key ← keyOf starting fuel indices
      let (number, machine) := (← get).arrayOf array
      set machine
      pure (.element number key)

/-- Indices as one key. -/
def keyOf (starting : Starting) : Nat → List Expression → Turn Octets
  | 0, _ => pure []
  | fuel + 1, indices => do
    let values ← indices.mapM (evaluate starting fuel)
    let machine ← get
    pure ((machine.ownText "SUBSEP").intercalate (values.map machine.text))

/-- The pattern that an expression stands for. -/
def patternOf (starting : Starting) : Nat → Expression → Turn Regex
  | 0, _ => pure .empty
  | fuel + 1, expression => do
    match expression with
    | .regex source => regexOf source
    | expression => do regexOf (← text (← evaluate starting fuel expression))

/-- What a function gets for an argument: arrays themselves, which variables without a value
may turn out to be. -/
def cellOf (starting : Starting) : Nat → Expression → Turn Cell
  | 0, _ => pure (.value .nothing)
  | fuel + 1, expression => do
    match expression with
    | .place (.named name) => do
      let machine ← get
      match machine.value name with
      | .nothing => do
        let (number, machine) := machine.arrayOf name
        set machine
        pure (.array number)
      | value => pure (.value value)
    | expression => return .value (← evaluate starting fuel expression)

def callFunction (starting : Starting) : Nat → Octets → List Expression → Turn Value
  | 0, _, _ => pure .nothing
  | fuel + 1, name, arguments => do
    match (← get).script.functions.lookup name with
    | none => pure .nothing
    | some function => do
      let cells ← arguments.mapM (cellOf starting fuel)
      let missing := List.replicate (function.parameters.length - cells.length) (Cell.value .nothing)
      let before := (← get).locals
      modify fun machine => { machine with locals := { entries := function.parameters.zip (cells ++ missing) } }
      let result ← attempt (execute starting fuel function.body)
      modify fun machine => { machine with locals := before }
      match result with
      | .ok () => pure .nothing
      | .error (.giveBack value) => pure value
      | .error jump => throw jump

def callBuiltin (starting : Starting) : Nat → String → List Expression → Turn Value
  | 0, _, _ => pure .nothing
  | fuel + 1, name, arguments => do
    match name, arguments with
    | "length", [.place (.named array)] => do
      let machine ← get
      match machine.cell? array with
      | some (.array number) => pure (.ofInt (machine.elements number).size)
      | _ => pure (.ofInt (machine.text (machine.value array)).length)
    | "split", subject :: .place (.named array) :: rest => do
      let subject ← text (← evaluate starting fuel subject)
      let separator ← match rest with
        | [] => do pure (← get).separator
        | .regex source :: _ => do pure (.matching (← regexOf source))
        | expression :: _ => do
          let source ← text (← evaluate starting fuel expression)
          match Separator.ofText source with
          | .ok separator => pure separator
          | .error _ => do pure (.matching (← regexOf source))
      let parts := separator.split false subject
      let (number, machine) := (← get).arrayOf array
      set (machine.setElements number { entries := parts.zipIdx.map fun (part, index) =>
        (Octets.ofNat (index + 1), Value.given part) })
      pure (.ofInt parts.length)
    | "match", subject :: pattern :: _ => do
      let subject ← text (← evaluate starting fuel subject)
      let regex ← patternOf starting fuel pattern
      let (start, length) : Int × Int := match regex.find? subject.toArray 0 with
        | some found => (found.first + 1, found.last - found.first)
        | none => (0, -1)
      modify fun machine => (machine.setOwn "RSTART" (.ofInt start)).setOwn "RLENGTH" (.ofInt length)
      pure (.ofInt start)
    | "sub", pattern :: template :: rest => substitute starting fuel false pattern template rest
    | "gsub", pattern :: template :: rest => substitute starting fuel true pattern template rest
    | name, arguments => do apply starting name (← arguments.mapM (evaluate starting fuel))

/-- Replaces matches in the record or in what stands at a place; yields how many there were. -/
def substitute (starting : Starting) : Nat → Bool → Expression → Expression → List Expression → Turn Value
  | 0, _, _, _, _ => pure .nothing
  | fuel + 1, all, pattern, template, rest => do
    let regex ← patternOf starting fuel pattern
    let template ← text (← evaluate starting fuel template)
    let spot ← match rest with
      | .place place :: _ => spotOf starting fuel place
      | _ => pure (.field 0)
    let machine ← get
    let (replaced, count) := replace regex template all (machine.text (machine.read spot).1)
    if count > 0 then set (machine.write spot (.text replaced))
    pure (.ofInt count)

/-- Reads a record to a place, by default to where records stand; yields whether there was one. -/
def readFrom (starting : Starting) : Nat → Origin → Option Expression → Option Place → Turn Value
  | 0, _, _, _ => pure .nothing
  | fuel + 1, origin, name, place => do
    let keep (record : Octets) : Turn Value := do
      match place with
      | none => modify (·.withRecord record)
      | some place => do
        let spot ← spotOf starting fuel place
        modify (·.write spot (.given record))
      pure (.ofInt 1)
    match origin, name with
    | .input, _ => do
      match ← nextInput fuel with
      | some record => keep record
      | none => pure (.ofInt 0)
    | _, none => pure (.ofInt (-1))
    | origin, some name => do
      let name ← text (← evaluate starting fuel name)
      match ← source? origin name with
      | none => pure (.ofInt (-1))
      | some source => do
        let update (source : Source) : Turn Unit := modify fun machine =>
          { machine with sources := ((origin, name), source) ::
              machine.sources.filter fun entry => entry.1 ≠ (origin, name) }
        match ← recordOf? source fuel with
        | some (record, source) => do
          update source
          keep record
        | none => do
          update { source with content := [] }
          pure (.ofInt 0)

def execute (starting : Starting) : Nat → Statement → Turn Unit
  | 0, _ => pure ()
  | fuel + 1, statement => do
    match statement with
    | .nothing => pure ()
    | .evaluate expression => do
      let _ ← evaluate starting fuel expression
      pure ()
    | .print formats arguments target => do
      let values ← arguments.mapM (evaluate starting fuel)
      let target ← match target with
        | some (outlet, name) => do
          let name ← text (← evaluate starting fuel name)
          pure (some (outlet, name))
        | none => pure none
      let machine ← get
      let printed := if values.isEmpty then machine.record
        else (machine.ownText "OFS").intercalate (values.map (Value.toText (machine.ownText "OFMT")))
      emit target (← if formats then formatted "printf" values else pure (printed ++ machine.ownText "ORS"))
    | .conditional condition yes no => do
      if (← evaluate starting fuel condition).isTrue then execute starting fuel yes else execute starting fuel no
    | .loop atLeastOnce condition step body => do
      let goesOn ← if atLeastOnce then pure true else do pure (← evaluate starting fuel condition).isTrue
      if goesOn then
        match ← attempt (execute starting fuel body) with
        | .error .stop => pure ()
        | .error .goOn => execute starting fuel (.sequence step (.loop false condition step body))
        | result => do
          resume result
          execute starting fuel (.sequence step (.loop false condition step body))
    | .each name array body => do
      let (number, machine) := (← get).arrayOf array
      set machine
      executeEach starting fuel name (machine.keys number) body
    | .sequence first second => do
      execute starting fuel first
      execute starting fuel second
    | .delete array none => do
      let (number, machine) := (← get).arrayOf array
      set (machine.setElements number .empty)
    | .delete array (some indices) => do
      let key ← keyOf starting fuel indices
      let (number, machine) := (← get).arrayOf array
      set (machine.setElements number
        { entries := (machine.elements number).entries.filter fun entry => entry.1 ≠ key })
    | .next => throw .next
    | .nextFile => throw .nextFile
    | .exit status => do
      match status with
      | some status => do
        let status := (← evaluate starting fuel status).toReal.toInt
        modify fun machine => { machine with status := (status % 256).toNat }
      | none => pure ()
      throw .exit
    | .giveBack value => do
      match value with
      | some value => throw (.giveBack (← evaluate starting fuel value))
      | none => throw (.giveBack .nothing)
    | .stop => throw .stop
    | .goOn => throw .goOn

/-- Runs the body of a loop for each key. -/
def executeEach (starting : Starting) : Nat → Octets → List Octets → Statement → Turn Unit
  | 0, _, _, _ => pure ()
  | _ + 1, _, [], _ => pure ()
  | fuel + 1, name, key :: rest, body => do
    modify (·.write (.named name) (.text key))
    match ← attempt (execute starting fuel body) with
    | .error .stop => pure ()
    | .error .goOn => executeEach starting fuel name rest body
    | result => do
      resume result
      executeEach starting fuel name rest body

end

/-! ### Rules -/

/-- Whether a rule is for the record at hand. -/
def fits (starting : Starting) (fuel index : Nat) : Pattern → Turn Bool
  | .atStart => pure false
  | .atEnd => pure false
  | .always => pure true
  | .when condition => do pure (← evaluate starting fuel condition).isTrue
  | .between first last => do
    let started := (← get).between.contains index
    if started || (← evaluate starting fuel first).isTrue then
      let ends := (← evaluate starting fuel last).isTrue
      modify fun machine =>
        let others := machine.between.filter (· ≠ index)
        { machine with between := if ends then others else index :: others }
      pure true
    else pure false

/-- Runs what rules do that are for the record at hand. -/
def runRules (starting : Starting) (fuel : Nat) : List (Rule × Nat) → Turn Unit
  | [] => pure ()
  | (rule, index) :: rest => do
    if ← fits starting fuel index rule.pattern then execute starting fuel rule.action
    runRules starting fuel rest

/-- Runs the rules for each record. -/
def runRecords (starting : Starting) (rules : List (Rule × Nat)) : Nat → Turn Unit
  | 0 => pure ()
  | fuel + 1 => do
    match ← nextInput fuel with
    | none => pure ()
    | some record => do
      modify (·.withRecord record)
      match ← attempt (runRules starting fuel rules) with
      | .error .next => pure ()
      | .error .nextFile => modify fun machine => { machine with input := none }
      | result => resume result
      runRecords starting rules fuel

/-- Takes a turn that a script may exit from. -/
def untilExit (turn : Turn Unit) : Turn Bool := do
  match ← attempt turn with
  | .error .exit => pure true
  | result => do
    resume result
    pure false

/-- Runs a whole script: what stands at the start, records if any rule is for them or at
the end, and what stands at the end. -/
def runScript (starting : Starting) (fuel : Nat) (script : Script) : Turn Unit := do
  let isFirst (rule : Rule) : Bool := match rule.pattern with
    | .atStart => true
    | _ => false
  let isLast (rule : Rule) : Bool := match rule.pattern with
    | .atEnd => true
    | _ => false
  let actions (rules : List Rule) : Turn Unit := rules.forM fun rule => execute starting fuel rule.action
  let exited ← untilExit (actions (script.rules.filter isFirst))
  let others := script.rules.filter fun rule => !isFirst rule
  if !exited && !others.isEmpty then
    let _ ← untilExit (runRecords starting others.zipIdx fuel)
  let _ ← untilExit (actions (script.rules.filter isLast))

/-! ### Calls -/

/-- How the program is called: values for variables, files that hold the script, and what
stands behind. -/
structure Call where
  separator : Option Octets
  assignments : List (Octets × Octets)
  files : List Octets
  rest : List Octets

namespace Call

def withOption (call : Call) (letter : Char) (value : Octets) : Call :=
  match letter with
  | 'F' => { call with separator := call.separator.or (some value) }
  | 'f' => { call with files := value :: call.files }
  | _ =>
    let name := value.takeWhile (· ≠ '=')
    { call with assignments := (name, value.drop (name.length + 1)) :: call.assignments }

def read : List Octets → Except Octets Call
  | ['-', '-'] :: rest => .ok { separator := none, assignments := [], files := [], rest }
  | ('-' :: letter :: value) :: rest =>
    if letter ∉ ['F', 'f', 'v'] then .error (.ofText "not an option: -" ++ letter :: value)
    else match value, rest with
      | [], [] => .error (.ofText "option -" ++ letter :: Octets.ofText " lacks argument")
      | [], value :: rest => (read rest).map (·.withOption letter value)
      | value, rest => (read rest).map (·.withOption letter value)
  | rest => .ok { separator := none, assignments := [], files := [], rest }

end Call

/-- How deep a run may go, and how many records there may be. -/
def greatestDepth : Nat := 1000000

/-- Runs a script that is spelled out. -/
def runSource (starting : Starting) (name : Octets) (call : Call) (source : Octets) (operands : List Octets) : Step Unit := do
  let refuse (message : Octets) : Step Unit := modify fun state =>
    (state.report (name ++ .ofText ": " ++ message ++ ['\n'])).withStatus 2
  match Script.parse source with
  | .error fault => refuse fault.message
  | .ok script => do
    let state ← get
    let machine := Machine.start name script operands (Utility.environment state)
    let machine := { machine with chance := state.world.clock * 1000 + state.process.id }
    let machine := call.assignments.foldl (fun machine (name, value) => machine.assignGiven name value) machine
    let machine := match call.separator with
      | some separator => machine.setOwn "FS" (.text (Sign.resolved separator))
      | none => machine
    let turn : Turn Unit := do
      let result ← attempt (runScript starting greatestDepth script)
      closeAll starting
      resume result
    let (_, machine) ← turn.run.run machine
    Step.setStatus machine.status

/-- Runs the program that was called by a name. -/
def run (starting : Starting) (own : Octets) (arguments : List Octets) : Step Unit := do
  let name := Utility.lastName [] own
  let refuse (message : Octets) : Step Unit := modify fun state => (state.report (message ++ ['\n'])).withStatus 2
  match Call.read arguments with
  | .error message => refuse (name ++ .ofText ": " ++ message)
  | .ok call =>
    match call.files, call.rest with
    | [], [] => modify fun state =>
      (state.report (.ofText "Usage: mawk [Options] [Program] [file ...]\n")).succeed
    | [], source :: operands => runSource starting name call source operands
    | files, operands => do
      let mut sources : List Octets := []
      for file in files do
        match (← get).read file with
        | .ok (source, state) => do
          set state
          sources := sources ++ [source]
        | .error trouble =>
          return ← refuse (name ++ .ofText ": cannot open \"" ++ file ++ .ofText ("\" (" ++ trouble.message ++ ")"))
      runSource starting name call (['\n'].intercalate sources) operands

end ComponentViews.Shell.Awk
