import ComponentViews.Shell.Place
import ComponentViews.Shell.Signal

/-! Steps of a run. A step changes the state and yields something, unless the script halts
there; in between it may have to wait for other processes, with what it goes on to do kept as
a function of the world at that time. -/

namespace ComponentViews.Shell

/-- What has to happen before a process goes on. -/
inductive Need where
  /-- A stream holds more than some octets, or nobody writes to it any more. -/
  | content (stream size : Nat)
  /-- Nobody writes to a stream any more, or it is full. -/
  | whole (stream : Nat)
  /-- Nobody writes to a stream any more. -/
  | closing (stream : Nat)
  /-- A stream has room again, or nobody reads from it any more. -/
  | room (stream : Nat)
  /-- Somebody reads from a stream, or is about to. -/
  | reader (stream : Nat)
  | ending (process : Nat)
  /-- Some process among several ends. -/
  | someEnding (processes : List Nat)
  | moment (time : Nat)
  /-- The process has a signal to take. -/
  | signal (process : Nat)
  | either (first second : Need)

/-- How a step goes: to its end, or up to where it waits. -/
inductive Course (α : Type) where
  | ended (result : Except Halt α) (state : State)
  | waiting (need : Need) (state : State) (goOn : World → Course α)

/-- Goes on behind a course with what its end yields. -/
def Course.andThen {α β : Type} (course : Course α) (next : Except Halt α → State → Course β) : Course β :=
  match course with
  | .ended result state => next result state
  | .waiting need state goOn => .waiting need state fun world => (goOn world).andThen next

/-- A step of a run. -/
def Step (α : Type) : Type := State → Course α

namespace Step

@[always_inline, inline]
protected def pure {α : Type} (value : α) : Step α := fun state => .ended (.ok value) state

@[always_inline, inline]
protected def bind {α β : Type} (step : Step α) (next : α → Step β) : Step β := fun state =>
  (step state).andThen fun
    | .ok value, state => next value state
    | .error halt, state => .ended (.error halt) state

@[always_inline]
instance : Monad Step where
  pure := Step.pure
  bind := Step.bind

instance : MonadStateOf State Step where
  get := fun state => .ended (.ok state) state
  set state := fun _ => .ended (.ok ()) state
  modifyGet change := fun state =>
    let (value, state) := change state
    .ended (.ok value) state

/-- Takes a step, whether the script halts there or not. -/
def attempt {α : Type} (step : Step α) : Step (Except Halt α) := fun state =>
  (step state).andThen fun result state => .ended (.ok result) state

instance : MonadExceptOf Halt Step where
  throw halt := fun state => .ended (.error halt) state
  tryCatch step recover := fun state =>
    (step state).andThen fun
      | .ok value, state => .ended (.ok value) state
      | .error halt, state => recover halt state

instance {α : Type} : Inhabited (Step α) := ⟨fun state => .ended (.error .faulted) state⟩

def setStatus (status : Nat) : Step Unit := modify (·.withStatus status)

/-- Complains and gives up on the command. -/
def refuse (message : Octets) : Step Unit := modify fun state => (state.complain message).withStatus 2

/-- Complains and gives up on the script. -/
def abort {α : Type} (message : Octets) : Step α := do
  modify fun state => (state.complain message).withStatus 2
  throw .faulted

/-- Goes on as a step that has been taken did. -/
def resume {α : Type} : Except Halt α → Step α
  | .ok value => pure value
  | .error halt => throw halt

/-! ### Waiting -/

/-- Goes on in another world, in the directory where the process works. -/
def inWorld (state : State) (world : World) : State where
  world := { world with stored := world.stored.workingIn state.world.stored.workingDirectory }
  process := state.process

/-- What a signal does to a process. -/
inductive Effect where
  | none
  | trapped
  | deadly
  deriving DecidableEq, Repr

/-- What a signal does to a process with some traps. -/
def effectOf (traps : Table Nat Octets) (signal : Nat) : Effect :=
  match if signal = Signal.kill then Option.none else traps.find? signal with
  | some [] => .none
  | some _ => .trapped
  | none => if Signal.harmless.contains signal then .none else .deadly

/-- A signal that ends the process before it takes another step. -/
def deadlySignal? (state : State) : Option Nat :=
  (state.world.raised.find? fun (id, signal) =>
    id = state.process.id && effectOf state.process.traps signal = .deadly).map Prod.snd

/-- Waits until a need is met or a signal ends the process. -/
def await (need : Need) : Step Unit := fun state =>
  .waiting need state fun world =>
    let state := inWorld state world
    match deadlySignal? state with
    | some signal => .ended (.error (.killed signal)) state
    | none => .ended (.ok ()) state

/-- How many steps may be taken at a stretch. -/
def stretch : Nat := 128

/-- Lets time pass, in which other processes may go on. -/
def spend (time : Nat) : Step Unit := do
  let state ← get
  let world := { state.world with clock := state.world.clock + time, beats := state.world.beats + 1 }
  set { state with world }
  if !world.others.isEmpty || !world.births.isEmpty || world.beats % stretch = 0 then await (.moment world.clock)

/-- What things take, in millionths of a second: a command of the shell, a new process up to its
first command, what it costs the process that starts it, a new program, the end of a process,
and to notice something. -/
def commandTime : Nat := 20
def startTime : Nat := 400
def forkTime : Nat := 150
def programTime : Nat := 600
def endTime : Nat := 100
def noticeTime : Nat := 60

/-- Waits until a stream has all that will ever be written to it. A pipe that gets full
makes room for more. -/
def awaitClosing (number : Nat) : Nat → Step Unit
  | 0 => pure ()
  | fuel + 1 => do
    let state ← get
    if state.isWritten number then
      if (state.stream number).isFull then set (state.setStream number (state.stream number).widen)
      else await (.whole number)
      awaitClosing number fuel

/-- How often a process may find that it has to wait on. -/
def patience : Nat := 1000000

/-- Waits until the input has all that will ever be written to it. -/
def awaitInput : Step Unit := do
  match ((← get).channel? 0).bind Channel.source? with
  | some number => awaitClosing number patience
  | _ => pure ()

/-- Waits until what has been written to pipes has been taken from them, as far as it does not
fit in. Who writes what nobody reads is ended for that unless it ignores the signal. -/
def drain : Step Unit := do
  let state ← get
  if state.process.broken then
    if state.process.traps.find? Signal.pipe ≠ some [] then throw (.killed Signal.pipe)
  else
    for entry in state.process.descriptors.entries do
      match entry.2 with
      | .writer number => flush number patience
      | _ => pure ()
where
  flush (number : Nat) : Nat → Step Unit
    | 0 => pure ()
    | fuel + 1 => do
      let state ← get
      if (state.stream number).isFull then
        if state.isRead number then
          await (.room number)
          flush number fuel
        else throw (.killed Signal.pipe)

/-- Takes note that something was written which nobody will read. -/
def heedBroken (note : State → State) : Step Unit := do
  let state ← get
  if state.process.broken then
    set (note (state.adjust fun process => { process with broken := false }))

/-- Takes note that output could not be written. -/
def heedUnwritten (note : Trouble → State → State) : Step Unit := do
  let state ← get
  match state.process.unwritten with
  | some trouble => set (note trouble (state.adjust fun process => { process with unwritten := none }))
  | none => pure ()

end Step
end ComponentViews.Shell
