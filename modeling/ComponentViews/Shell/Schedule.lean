import ComponentViews.Shell.Run

/-! Processes side by side. Each takes its steps at times of its own; the one whose time comes
first goes on, up to where it has to wait. A run is over once its first process has ended
and nobody can write to its output any more. -/

namespace ComponentViews.Shell

/-- A process that waits to go on. -/
structure Thread where
  process : Process
  parent : Nat
  need : Need
  /-- Since when it waits. -/
  time : Nat
  goOn : World → Course (Option Nat)

namespace Thread

/-- The process with those that wait for it. -/
def chain (thread : Thread) : List Frame := thread.process.frame :: thread.process.frames

/-- What the thread as a whole is known by. -/
def id (thread : Thread) : Nat := (thread.process.frames.getLast?.map Frame.id).getD thread.process.id

end Thread

/-- Processes and the world that they share. -/
structure Machine where
  world : World
  threads : List Thread

namespace Machine

/-! ### Beginnings -/

/-- How deep a run may go. -/
def greatestDepth : Nat := 1000000000

/-- What a process does that starts with a task. -/
def stepOf : Task → Step Unit
  | .script body => Run.execute greatestDepth body
  | .program path name arguments => do
    match (← get).startable path name arguments with
    | .ok started => Run.start greatestDepth started
    | .error refusal => Step.setStatus refusal.status

/-- A thread for a process that starts. -/
def threadOf (birth : Birth) : Thread where
  process := birth.process
  parent := birth.parent
  need := .moment birth.time
  time := birth.time
  goOn world :=
    let world := { world with stored := world.stored.workingIn birth.directory }
    let step : Step (Option Nat) := do
      let signal ← Run.finish greatestDepth (stepOf birth.task)
      if signal.isNone then Step.spend Step.endTime
      pure signal
    step { world, process := birth.process }

/-- Adds threads for the processes that have been started. -/
def seated (machine : Machine) : Machine where
  world := { machine.world with births := [] }
  threads := machine.threads ++ machine.world.births.map threadOf

/-! ### Signals -/

/-- Lets a thread go on at once if a signal for its process is deadly. -/
def struck (signal : Nat) (now : Nat) (thread : Thread) : Thread :=
  if Step.effectOf thread.process.traps signal = .deadly then
    let soon := now + Step.noticeTime
    match thread.need with
    | .moment time => { thread with need := .moment (min time soon) }
    | _ => { thread with need := .moment soon }
  else thread

/-- Lets a process that waits for another one keep nothing open, because it has been ended. -/
def bereft (id : Nat) (thread : Thread) : Thread :=
  let frames := thread.process.frames.map fun frame => if frame.id = id then { frame with channels := [] } else frame
  { thread with process := { thread.process with frames } }

/-- Hands a signal to its process. One that waits for another ends at once, though what it does
then is left to the thread. -/
def strike (machine : Machine) (entry : Nat × Nat) : Machine :=
  let (id, signal) := entry
  let dropped : Machine :=
    { machine with world := { machine.world with raised := machine.world.raised.erase entry } }
  match machine.threads.find? fun thread => thread.chain.any (·.id = id) with
  | none => dropped
  | some thread =>
    let change (f : Thread → Thread) : Machine :=
      { machine with threads := machine.threads.map fun other => if other.id = thread.id then f other else other }
    if thread.process.id = id then
      if Step.effectOf thread.process.traps signal = .none then dropped else change (struck signal machine.world.clock)
    else
      let isHandled := signal ≠ Signal.kill ∧ thread.process.frames.any fun frame =>
        frame.id = id && frame.handled.contains signal
      if isHandled then machine
      else if Signal.harmless.contains signal then dropped
      else
        let left := change (bereft id)
        let isKnown := (machine.world.endings.find? id).isSome
        if thread.id = id ∧ !isKnown then
          { left with world := { left.world with endings := left.world.endings.insert id (128 + signal, some signal) } }
        else left

def strikeAll (machine : Machine) : Machine := machine.world.raised.foldl strike machine

/-! ### Turns -/

/-- Whether some process keeps a channel of some kind open. -/
def keeps (machine : Machine) (isIt : Channel → Bool) : Bool :=
  machine.threads.any fun thread => thread.chain.any (·.channels.any isIt)

def isWritten (machine : Machine) (stream : Stream) (number : Nat) : Bool :=
  machine.keeps (·.writes number) || stream.awaited

def hasEnded (machine : Machine) (id : Nat) : Bool := (machine.world.endings.find? id).isSome

/-- When a need is met, if that is known by now. -/
def due? (machine : Machine) (now : Nat) : Need → Option Nat
  | .moment time => some time
  | .either first second =>
    match due? machine now first, due? machine now second with
    | some first, some second => some (min first second)
    | first, second => first.or second
  | .content number size => judge number fun stream => stream.size > size || !machine.isWritten stream number
  | .whole number => judge number fun stream => stream.isFull || !machine.isWritten stream number
  | .closing number => judge number fun stream => !machine.isWritten stream number
  | .room number => judge number fun stream => !stream.isFull || !machine.keeps (·.reads number)
  | .reader number => judge number fun stream => stream.awaited || machine.keeps (·.reads number)
  | .ending id => settled (machine.hasEnded id)
  | .someEnding ids => settled (ids.any machine.hasEnded)
  | .signal id => settled (machine.world.raised.any (·.1 = id))
where
  settled (holds : Bool) : Option Nat := if holds then some now else none
  judge (number : Nat) (holds : Stream → Bool) : Option Nat :=
    settled (holds ((machine.world.streams.find? number).getD .unbounded))
/-- Threads whose needs are met get to know when they go on. -/
def heed (machine : Machine) : Machine :=
  let now := machine.world.clock + Step.noticeTime
  let heeding (thread : Thread) : Thread :=
    match thread.need, machine.due? now thread.need with
    | .moment _, _ => thread
    | .either _ _, some time => if time ≤ now then { thread with need := .moment (max thread.time time) } else thread
    | _, some time => { thread with need := .moment (max thread.time time) }
    | _, none => thread
  { machine with threads := machine.threads.map heeding }

/-- The thread that goes on first, with when it does. -/
def next? (machine : Machine) : Option (Nat × Thread) :=
  machine.threads.foldl (fun best thread =>
    match machine.due? 0 thread.need, best with
    | some time, none => some (time, thread)
    | some time, some (earliest, chosen) => if time < earliest then some (time, thread) else some (earliest, chosen)
    | none, best => best) none

/-- Lets a thread go on. -/
def advance (machine : Machine) (time : Nat) (thread : Thread) : Machine :=
  let others := machine.threads.filter fun other => other.id ≠ thread.id
  let world := { machine.world with clock := max time thread.time, others := others.flatMap Thread.chain }
  match thread.goOn world with
  | .ended result state =>
    let signal := result.toOption.join
    let known := state.world.endings.find? thread.id
    let ending := known.getD (state.status % 256, signal)
    let told := state.raise thread.parent Signal.child
    { world := { told.world with endings := told.world.endings.insert thread.id ending }, threads := others }
  | .waiting need state goOn =>
    let gone : Thread := { thread with process := state.process, need, time := state.world.clock, goOn }
    { world := state.world
      threads := machine.threads.map fun other => if other.id = thread.id then gone else other }

/-- Whether a process has ended and nobody can write to any of some streams. -/
def isOver (machine : Machine) (id : Nat) (streams : List Nat) : Bool :=
  machine.hasEnded id && streams.all fun number => !machine.keeps (·.writes number)

/-- Lets threads go on by turns until a process has ended and nobody can write to some streams
any more, or until nobody can go on. -/
def run (id : Nat) (streams : List Nat) : Nat → Machine → Machine
  | 0, machine => machine
  | fuel + 1, machine =>
    let machine := machine.seated.strikeAll.heed
    if machine.isOver id streams then machine
    else match machine.next? with
      | none => machine
      | some (time, thread) => run id streams fuel (machine.advance time thread)

end Machine
end ComponentViews.Shell
