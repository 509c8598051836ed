import ComponentViews.Shell.Builtin
import ComponentViews.Shell.Extended.Declaration

/-! Processes in the background and signals in the extended dialect. -/

namespace ComponentViews.Shell.Builtin.Extended
open Step

/-! ### Signals -/

/-- What besides signals a trap may be set for. -/
def occasions : List (Nat × String) := [(Signal.failure, "ERR"), (66, "DEBUG"), (67, "RETURN")]

/-- Names of signals that have only numbers elsewhere. -/
def lateName (number : Nat) : String :=
  let name (start : String) (sign : String) (distance : Nat) : String :=
    if distance = 0 then start else start ++ sign ++ toString distance
  if number < 50 then name "RTMIN" "+" (number - 34) else name "RTMAX" "-" (64 - number)

/-- The name of a signal, if it has one. -/
def signalName? (number : Nat) : Option String :=
  (((16, "STKFLT") :: Signal.names).lookup number).or (if 34 ≤ number ∧ number ≤ 64 then some (lateName number) else none)

def signalsInOrder : List Nat := (List.range 31).map (· + 1) ++ (List.range 31).map (· + 34)

/-- The number of a signal that its name or its number tells. -/
def signalOf? (text : Octets) : Option Nat :=
  match Format.natural? text with
  | some number => if number ≤ 64 ∧ number ≠ 32 ∧ number ≠ 33 then some number else none
  | none =>
    let upper := text.map Char.toUpper
    let bare := String.ofList (if ['S', 'I', 'G'].isPrefixOf upper then upper.drop 3 else upper)
    if bare = "EXIT" then some Signal.exit
    else signalsInOrder.find? fun number => signalName? number = some bare

/-- The same, or something else that a trap may be set for. -/
def occasionOf? (text : Octets) : Option Nat :=
  let upper := String.ofList (text.map Char.toUpper)
  (signalOf? text).or ((occasions.find? fun entry => entry.2 = upper).map Prod.fst)

/-- The name that a list of traps shows. -/
def occasionName (number : Nat) : String :=
  match occasions.lookup number, signalName? number with
  | some name, _ => name
  | none, some name => if number = Signal.exit then name else "SIG" ++ name
  | none, none => toString number

/-- The table of signals. -/
def signalTable : Octets :=
  let cell (number : Nat) : String :=
    let digits := toString number
    "".pushn ' ' (2 - digits.length) ++ digits ++ ") SIG" ++ (signalName? number).getD ""
  let rec rows : Nat → List Nat → List String
    | 0, _ => []
    | _ + 1, [] => []
    | fuel + 1, numbers =>
      let row := "\t".intercalate ((numbers.take 5).map cell)
      (if numbers.length < 5 then row ++ "\t" else row) :: rows fuel (numbers.drop 5)
  Octets.ofLines ((rows 20 signalsInOrder).map Octets.ofText)

def badSignal (text : Octets) : Octets := text ++ .ofText ": invalid signal specification"

/-- Traps as the commands that set them. -/
def listTraps (among : Nat → Bool) : Step Unit := modify fun state =>
  let traps := (state.process.traps.entries.filter fun entry => among entry.1).mergeSort fun a b => decide (a.1 ≤ b.1)
  state.print (Octets.ofLines (traps.map fun (signal, action) =>
    .ofText "trap -- " ++ Quoting.single action ++ .ofText (" " ++ occasionName signal)))

/-- Sets what is to be run upon signals, or lists it. -/
def setTraps (arguments : List Octets) : Step Unit := do
  if arguments.head? = some ['-'] then change ['-'] (arguments.drop 1)
  else withGiven ['l', 'p'] [] arguments fun given => do
    setStatus 0
    if given.has 'l' then modify (·.print signalTable)
    else if given.operands.isEmpty then listTraps fun _ => true
    else if given.has 'p' then
      for name in given.operands do
        match occasionOf? name with
        | some signal => listTraps (· = signal)
        | none => fail 1 (badSignal name)
    else match given.operands with
      | [only] => if (occasionOf? only).isSome then change ['-'] [only] else tellUsage
      | first :: names =>
        if (Format.natural? first).isSome && (occasionOf? first).isSome then change ['-'] (first :: names)
        else change first names
      | [] => pure ()
where
  change (action : Octets) (names : List Octets) : Step Unit := do
    setStatus 0
    for name in names do
      match occasionOf? name with
      | none => fail 1 (badSignal name)
      | some signal =>
        modify (·.adjust (dropTrap signal))
        if action ≠ ['-'] then
          modify (·.adjust fun process => { process with traps := process.traps.insert signal action })

/-- The names of signals by their numbers, and the other way round. -/
def nameSignals (codes : List Octets) : Step Unit := do
  setStatus 0
  if codes.isEmpty then modify (·.print signalTable)
  else for code in codes do
    match Format.natural? code with
    | some number =>
      let number := if number > 128 then number - 128 else number
      match if number = 0 then some "EXIT" else signalName? number with
      | some name => modify (·.print (.ofText (name ++ "\n")))
      | none => fail 1 (badSignal code)
    | none =>
      match signalOf? code with
      | some number => modify (·.print (.ofText (toString number ++ "\n")))
      | none => fail 1 (badSignal code)

/-- Sends signals to processes. -/
def kill (arguments : List Octets) : Step Unit := do
  let send (signal : Nat) (targets : List Octets) : Step Unit := do
    if targets.isEmpty then tellUsage
    else
      setStatus 0
      for target in targets do
        match (jobOf? (← get) target).map Int.ofNat |>.or (Format.integer? target) with
        | some number =>
          if !(← strike signal number) then fail 1 ('(' :: target ++ .ofText ") - No such process")
        | none =>
          if target.head? = some '%' then blame target "no such job"
          else blame target "arguments must be process or job IDs"
  let named (name : Octets) (targets : List Octets) : Step Unit := do
    match signalOf? name with
    | some signal => send signal (if targets.head? = some ['-', '-'] then targets.drop 1 else targets)
    | none => fail 1 (badSignal name)
  match arguments with
  | ['-', 'l'] :: codes => nameSignals codes
  | ['-', 'L'] :: codes => nameSignals codes
  | [['-', 's']] => fail 1 (.ofText "-s: option requires an argument")
  | [['-', 'n']] => fail 1 (.ofText "-n: option requires an argument")
  | ['-', 's'] :: name :: targets => named name targets
  | ['-', 'n'] :: name :: targets => named name targets
  | ['-', '-'] :: targets => send Signal.terminate targets
  | ('-' :: letter :: letters) :: targets => named (letter :: letters) targets
  | targets => send Signal.terminate targets

/-! ### Processes in the background -/

/-- Takes the status of a process in the background once it has ended. -/
def awaitJob (id : Nat) : Nat → Step Unit
  | 0 => pure ()
  | fuel + 1 => do
    let state ← get
    match signalFor? state, state.world.endings.find? id with
    | some signal, none => setStatus (128 + signal)
    | _, some ended => do
      setStatus ((ended.2.map (128 + ·)).getD ended.1)
      modify notice
    | none, none => do
      await (.either (.ending id) (.signal state.process.id))
      awaitJob id fuel

/-- Waits for the next one among some processes to end; which one it is. -/
def awaitAny (ids : List Nat) : Nat → Step (Option Nat)
  | 0 => pure none
  | fuel + 1 => do
    let state ← get
    match ids.find? (fun id => (state.world.endings.find? id).isSome), signalFor? state with
    | some id, _ => pure (some id)
    | none, some signal => do
      setStatus (128 + signal)
      pure none
    | none, none =>
      match ids.map Need.ending with
      | [] => pure none
      | first :: rest => do
        await (.either (rest.foldl Need.either first) (.signal state.process.id))
        awaitAny ids fuel

/-- Forgets a job, though not how it has ended. -/
def forgetJob (id : Nat) : Step Unit := modify (·.adjust fun process =>
  { process with jobs := process.jobs.filter (fun job => job.1 ≠ id), noticed := id :: process.noticed })

/-- Waits for processes in the background. -/
def waitFor (arguments : List Octets) : Step Unit := withGiven ['f', 'n'] ['p'] arguments fun given => do
  let holder := (given.value? 'p').filter Name.isChosen
  let tell (id : Nat) : Step Unit := match holder with
    | some name => modify (·.assign name (.ofNat id))
    | none => pure ()
  if given.has 'n' then
    let jobs := (← get).process.jobs.map Prod.fst
    let named := given.operands.filterMap fun word => Format.natural? word
    let ids := jobs.filter fun id => named.isEmpty || named.contains id
    if ids.isEmpty then setStatus 127
    else match ← awaitAny ids.reverse patience with
      | some id => do
        awaitJob id patience
        tell id
        forgetJob id
      | none => pure ()
  else if given.operands.isEmpty then
    awaitAll patience
    modify (·.adjust fun process => { process with jobs := [] })
  else for word in given.operands do
    let state ← get
    match (jobOf? state word).or (Format.natural? word) with
    | some id =>
      if (state.process.jobs.map Prod.fst).contains id || state.process.noticed.contains id then
        awaitJob id patience
        tell id
        forgetJob id
      else fail 127 (.ofText "pid " ++ word ++ .ofText " is not a child of this shell")
    | none =>
      if word.head? = some '%' then fail 127 (word ++ .ofText ": no such job")
      else fail 1 ('\x60' :: word ++ .ofText "': not a pid or valid job spec")

/-- Forgets processes in the background. -/
def disown (arguments : List Octets) : Step Unit := withGiven ['a', 'h', 'r'] [] arguments fun given => do
  let state ← get
  setStatus 0
  if given.operands.isEmpty then
    match state.process.jobs with
    | [] => if !given.has 'a' && !given.has 'r' then fail 1 (.ofText "current: no such job")
    | (first, _) :: _ =>
      if given.has 'a' || given.has 'r' then modify (·.adjust fun process => { process with jobs := [] })
      else forgetJob first
  else for word in given.operands do
    match (jobOf? state word).or (Format.natural? word) with
    | some id =>
      if (state.process.jobs.map Prod.fst).contains id then forgetJob id else blame word "no such job"
    | none => blame word "no such job"

end ComponentViews.Shell.Builtin.Extended
