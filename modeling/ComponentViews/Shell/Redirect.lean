import ComponentViews.Shell.Builtin

/-! Redirections: for the time of a step, descriptors lead elsewhere. -/

namespace ComponentViews.Shell

namespace Redirection

/-- Why a file is not opened, with what the shell calls the trouble. -/
def refusal (purpose missing : String) (path : Octets) (trouble : Trouble) : Octets :=
  let cause := match trouble with
    | .missing => missing
    | .noDirectory => missing
    | trouble => trouble.message
  .ofText ("cannot " ++ purpose ++ " ") ++ path ++ .ofText (": " ++ cause)

/-- The first descriptors that variables take. -/
def firstHeld : Nat := 10

/-- Lets a descriptor lead to a channel, a new one if a variable takes its number. -/
def lead (redirection : Redirection Octets) (channel : Channel) (state : State) : State :=
  match redirection.holder with
  | none => state.setDescriptor redirection.descriptor channel
  | some name =>
    let isFree (number : Nat) : Bool := (state.channel? number).isNone
    let number := (((List.range 50).map (firstHeld + ·)).find? isFree).getD firstHeld
    (state.setDescriptor number channel).assign name (.ofNat number)

/-- Lets a descriptor lead nowhere. -/
def close (redirection : Redirection Octets) (state : State) : State :=
  match redirection.holder with
  | none => state.closeDescriptor redirection.descriptor
  | some name =>
    (((state.value? name).bind Format.natural?).map state.closeDescriptor).getD state

/-- Lets a descriptor lead where it is asked to. -/
def carryOut (redirection : Redirection Octets) (state : State) : Except Octets State :=
  let target := redirection.target
  let leadTo (opened : Except Trouble (Channel × State)) (purpose missing : String) : Except Octets State :=
    match opened with
    | .ok (channel, state) => .ok (redirection.lead channel state)
    | .error trouble =>
      .error (if state.isExtended then target ++ .ofText (": " ++ trouble.message)
        else refusal purpose missing target trouble)
  match redirection.opening with
  | .input => leadTo (state.openInput target) "open" "No such file"
  | .output =>
    if state.hasOption 'C' && state.isFile target then
      .error (if state.isExtended then target ++ .ofText ": cannot overwrite existing file"
        else refusal "create" "" target .present)
    else leadTo (state.openOutput target true) "create" "Directory nonexistent"
  | .overwriting => leadTo (state.openOutput target true) "create" "Directory nonexistent"
  | .update => leadTo (state.openUpdate target) "create" "Directory nonexistent"
  | .append => leadTo (state.openOutput target false) "create" "Directory nonexistent"
  | .duplicate =>
    if target = ['-'] then .ok (redirection.close state)
    else match (Format.natural? target).bind state.channel? with
      | some channel => .ok (redirection.lead channel state)
      | none => .error (target ++ .ofText (": " ++ Trouble.closed.message))
  | _ =>
    let (number, state) := state.newStream (.ofContent target true)
    .ok (redirection.lead (.reader number) state)

/-- Carries out redirections up to the first that fails, and tells why that one does. -/
def carryOutAll : List (Redirection Octets) → State → Option Octets × State
  | [], state => (none, state)
  | redirection :: rest, state =>
    match redirection.carryOut state with
    | .ok state => carryOutAll rest state
    | .error message => (some message, state)

/-- Lets descriptors lead where they did. -/
def undo (redirections : List (Redirection Octets)) (before state : State) : State :=
  redirections.foldl (fun state redirection =>
    match before.channel? redirection.descriptor with
    | some channel => state.setDescriptor redirection.descriptor channel
    | none => state.closeDescriptor redirection.descriptor) state

/-- Keeps open for later where descriptors have led so far. -/
def keepOpen (redirections : List (Redirection Octets)) (before state : State) : State :=
  let channels := redirections.filterMap fun redirection => before.channel? redirection.descriptor
  let frame : Frame := { state.process.frame with channels }
  state.adjust fun process => { process with frames := frame :: process.frames }

/-- Drops streams from one number up to another. -/
def dropStreams (first last : Nat) (state : State) : State :=
  (List.range' first (last - first)).foldl State.dropStream state

open Step

/-- Waits until somebody reads from the pipes that are written to. -/
def awaitReaders (redirections : List (Redirection Octets)) : Step Unit := do
  for redirection in redirections do
    if [Opening.output, .overwriting, .append].contains redirection.opening then
      match (← get).queueAt? redirection.target with
      | some number =>
        let state ← get
        let isRead := (state.stream number).awaited || state.process.channels.any (·.reads number) ||
          state.world.keeps (·.reads number)
        if !isRead then await (.reader number)
      | none => pure ()

/-- Takes a step with redirections, which may outlast it. One that fails keeps the step from
being taken, and ends the script if the step matters that much. -/
def around (redirections : List (Redirection Octets)) (lasting grave : Bool) (step : Step Unit) : Step Unit :=
  if redirections.isEmpty then step
  else do
    awaitReaders redirections
    let before ← get
    match carryOutAll redirections before with
    | (some message, opened) => do
      let status := if before.isExtended then 1 else 2
      set (undo redirections before ((opened.complain message).withStatus status))
      if grave then throw .faulted
    | (none, opened) => do
      set (if lasting then opened else keepOpen redirections before opened)
      let result ← attempt step
      let finished ← get
      if !lasting then
        let finished := finished.adjust fun process => { process with frames := before.process.frames }
        set (dropStreams before.world.nextStream opened.world.nextStream (undo redirections before finished))
      resume result

end Redirection
end ComponentViews.Shell
