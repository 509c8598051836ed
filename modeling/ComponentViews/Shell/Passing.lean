import ComponentViews.Shell.Step
import ComponentViews.Shell.Utility

/-! How programs get what they read while others still write it, and programs that pass on
what they read as it comes. -/

namespace ComponentViews.Shell

/-- How a utility takes what it reads: all of it at once, no more than it needs, or all of it
in the end, but with output in between. -/
inductive Appetite where
  | whole
  | sparing
  | gradual
  deriving DecidableEq, Repr

namespace Passing
open Step

/-- Streams from which something has been read that others still write to. -/
def lacking (state : State) : List Nat :=
  (state.world.streams.entries.filter fun (number, stream) => stream.touched && state.isWritten number).map Prod.fst

/-- A state in which nothing has been read yet. -/
def untouched (state : State) : State :=
  let streams := state.world.streams.entries.map fun (number, stream) => (number, { stream with touched := false })
  { state with
    world := { state.world with streams := { entries := streams } }
    process := { state.process with sated := false } }

/-- How much output is held back until there is more of it. -/
def heldBack : Nat := 4096

/-- Runs a utility and keeps its output aside: the output, and the state that is left. -/
def withOutput (run : State → State) (state : State) : Octets × State :=
  let (number, opened) := state.newStream .unbounded
  let ended := run (opened.setDescriptor 1 (.writer number))
  let output := (ended.stream number).content
  let closed := match state.channel? 1 with
    | some channel => ended.setDescriptor 1 channel
    | none => ended.closeDescriptor 1
  (output, closed.dropStream number)

/-- Runs a utility that has printed some of its output already. -/
def commit (run : State → State) (printed : Nat) : Step Unit := modify fun state =>
  if printed = 0 then run state
  else
    let (output, state) := withOutput run state
    state.print (output.drop printed)

/-- Runs a utility once there is all that it reads. Until then one of those whose output
follows their input prints what it can when its input is full. -/
def runWhole (appetite : Appetite) (run : State → State) : Nat → Nat → Step Unit
  | 0, _ => pure ()
  | fuel + 1, printed => do
    let state ← get
    let ended := run (untouched state)
    match lacking ended with
    | [] => commit (fun state => run (untouched state)) printed
    | number :: _ =>
      let stream := state.stream number
      if ended.process.sated then commit (fun state => run (untouched state)) printed
      else if appetite = .sparing then do
        if stream.isFull then set (state.setStream number stream.widen)
        await (.content number stream.size)
        runWhole appetite run fuel printed
      else if stream.isFull then do
        let ready := if appetite = .gradual then (withOutput run (untouched state)).1 else []
        let ready := ready.take (ready.length - heldBack)
        set ((state.setStream number stream.widen).print (ready.drop printed))
        drain
        runWhole appetite run fuel (max printed ready.length)
      else do
        await (.whole number)
        runWhole appetite run fuel printed

/-- Hands over what a stream holds, again and again, until nobody writes to it any more. -/
def passAll (number : Nat) (hand : Octets → Step Unit) : Nat → Step Unit
  | 0 => pure ()
  | fuel + 1 => do
    let state ← get
    let stream := state.stream number
    if stream.size > 0 then
      set (state.setStream number (stream.keep []))
      hand stream.content
      if !(← get).process.broken && (← get).process.unwritten.isNone then passAll number hand fuel
    else if state.isWritten number then do
      await (.content number 0)
      passAll number hand fuel

/-- The stream behind an operand, if it is one that others may still write to. -/
def streamOf? (state : State) (operand : Octets) : Option Nat :=
  let behind (descriptor : Nat) : Option Nat := (state.channel? descriptor).bind Channel.source?
  if operand = ['-'] then behind 0
  else match state.place operand with
    | .ok (.descriptor number) => behind number
    | .ok (.queue number) => some number
    | _ => none

def cat (arguments : List Octets) : Step Unit := do
  let plain := match Utility.Showing.usage.read arguments with
    | .ok options => if (Utility.Showing.Manner.ofOptions options).isPlain then some options.operands else none
    | .error _ => none
  match plain with
  | none => runWhole .gradual (Utility.cat arguments) patience 0
  | some operands =>
    setStatus 0
    for operand in if operands = [] then [['-']] else operands do
      let state ← get
      match streamOf? state operand with
      | some number => do
        match state.openInput operand with
        | .ok (_, state) => if operand ≠ ['-'] then set state
        | .error _ => pure ()
        passAll number (fun octets => do modify (·.print octets); drain) patience
      | none => do
        modify fun state =>
          let status := state.status
          let ended := Utility.cat [['-', '-'], operand] state
          if ended.status = 0 then ended.withStatus status else ended
        drain

/-- Copies the input to the output and into files. -/
def tee (arguments : List Octets) : Step Unit := do
  let usage : Utility.Usage := {
    alone := ['a', 'i', 'p'], valued := [], anywhere := true
    words := [("append", 'a'), ("ignore-interrupts", 'i')] }
  match usage.read arguments with
  | .error misuse => modify (misuse.tell "tee")
  | .ok options => do
    setStatus 0
    let mut channels : List Channel := []
    for operand in options.operands do
      let state ← get
      match state.openOutput operand (!options.has 'a') with
      | .ok (channel, state) => do
        set state
        channels := channels ++ [channel]
      | .error trouble => modify (Utility.faultOf "tee" operand trouble.message)
    let opened := channels
    let hand (octets : Octets) : Step Unit := do
      modify fun state => opened.foldl (fun state channel => state.send channel octets) (state.print octets)
      drain
    match streamOf? (← get) ['-'] with
    | some number => passAll number hand patience
    | none => pure ()

/-- How long it takes until growth of a file is noticed. -/
def noticingTime : Nat := 10000

/-- Prints what is added to files behind some sizes, as long as the process is there. -/
def follow : Nat → List (Octets × Nat) → Step Unit
  | 0, _ => pure ()
  | fuel + 1, files => do
    await (.moment ((← get).world.clock + noticingTime))
    let mut sizes : List (Octets × Nat) := []
    for (path, size) in files do
      let content := (((← get).read path).toOption.map Prod.fst).getD []
      if content.length ≠ size then
        modify (·.print (if content.length > size then content.drop size else content))
        drain
      sizes := sizes ++ [(path, content.length)]
    if !(← get).process.broken then follow fuel sizes

/-- Prints the last lines of files, and what is added to them if that is asked for. -/
def tail (arguments : List Octets) : Step Unit := do
  runWhole .whole (Utility.tail arguments) patience 0
  let operands := Utility.followed arguments
  let state ← get
  let files := (operands.filter state.isFile).map fun path =>
    (path, ((state.read path).toOption.map fun found => found.1.length).getD 0)
  if !files.isEmpty then
    drain
    follow patience files

/-! ### Time -/

/-- The units of time in millionths of a second, by their letters. -/
def units : List (Char × Nat) := [('s', 1000000), ('m', 60000000), ('h', 3600000000), ('d', 86400000000)]

/-- A time such as `0.5` or `2m`, in millionths of a second. -/
def duration? (text : Octets) : Option Nat :=
  let digits := text.takeWhile fun c => Name.isDigit c || c = '.'
  let unit := match text.drop digits.length with
    | [] => some 1000000
    | [letter] => units.lookup letter
    | _ => none
  let value := match digits.splitOn '.' with
    | [whole] => (Format.natural? whole).map fun whole => (whole, 0, 1)
    | [whole, fraction] =>
      let number (digits : Octets) : Option Nat := if digits = [] then some 0 else Format.natural? digits
      if whole = [] ∧ fraction = [] then none
      else do
        let whole ← number whole
        let part ← number fraction
        pure (whole, part, Nat.pow 10 fraction.length)
    | _ => none
  do
    let unit ← unit
    let (whole, part, scale) ← value
    pure (whole * unit + part * unit / scale)

def sleep (arguments : List Octets) : Step Unit := do
  match arguments.find? fun argument => (duration? argument).isNone with
  | some argument => do
    let isOption := argument.head? = some '-' && argument.length > 1
    if isOption then
      modify (Utility.Misuse.tell "sleep" (.unknownLetter (argument.getD 1 ' ')))
    else modify (Utility.hinted "sleep" (.ofText "invalid time interval " ++ Utility.quoted argument))
  | none =>
    if arguments = [] then modify (Utility.missingOperand "sleep")
    else do
      setStatus 0
      let time := (arguments.filterMap duration?).foldl Nat.add 0
      await (.moment ((← get).world.clock + time))

/-- Prints a line again and again. -/
def yes (arguments : List Octets) : Step Unit := do
  let arguments := if arguments.head? = some ['-', '-'] then arguments.drop 1 else arguments
  let line := (if arguments = [] then ['y'] else [' '].intercalate arguments) ++ ['\n']
  let block := (List.replicate (Utility.Ends.blockSize / line.length + 1) line).flatten
  setStatus 0
  goOn block patience
where
  goOn (block : Octets) : Nat → Step Unit
    | 0 => pure ()
    | fuel + 1 => do
      modify (·.print block)
      drain
      spend commandTime
      if !(← get).process.broken && (← get).process.unwritten.isNone then goOn block fuel

/-- Programs that take several steps, by their names. -/
def programs : List (String × (List Octets → Step Unit)) :=
  [("cat", cat), ("tee", tee), ("sleep", sleep), ("tail", tail), ("yes", yes)]

end Passing
end ComponentViews.Shell
