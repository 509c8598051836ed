import ComponentViews.Shell.Search.Query
import ComponentViews.Shell.Lookup

/-! How a search goes through directories, and what it does with what it finds. -/

namespace ComponentViews.Shell.Search
open Step

/-- What is being looked at: a path, how deep it lies, and where the search has begun. -/
structure Candidate where
  path : Octets
  start : Octets
  depth : Nat
  item : Utility.Item

/-- What a search has come to. -/
structure Progress where
  /-- The paths that each command waits for that is run for many of them. -/
  batches : Table Nat (List Octets)
  /-- Whether what lies below the candidate is left out. -/
  pruned : Bool
  /-- Whether the search is over. -/
  quit : Bool
  failed : Bool

def Progress.start : Progress := { batches := .empty, pruned := false, quit := false, failed := false }

/-! ### Formats -/

/-- The last segment of a path. -/
def nameOf (path : Octets) : Octets := Utility.lastName [] path

/-- The path without its last segment. -/
def directoryOf (path : Octets) : Octets :=
  if path.contains '/' then
    let above := (path.dropEndWhile Utility.isSlash).dropEndWhile fun c => c ≠ '/'
    if above = [] then [] else above.dropLast
  else ['.']

namespace Candidate

/-- The kind of what a link leads to, or of the candidate itself. -/
def kindBehind (candidate : Candidate) (state : State) : Char :=
  match state.reached candidate.path with
  | .ok (location, standing) => { candidate.item with location, standing : Utility.Item }.kindLetter
  | .error .circular => 'L'
  | .error _ => 'N'

def letterOf (letter : Char) : Char := if letter = '-' then 'f' else letter

/-- What a directive with a letter behind it says about a time. -/
def timed (state : State) (candidate : Candidate) (letter : Char) : Octets :=
  let moment := Moment.ofClock (state.changedAt candidate.item.location)
  let fraction := Numeral.digitsOf 9 moment.nanoseconds ++ ['0']
  let text (format : String) : Octets := moment.print .universal (.ofText format)
  match letter with
  | '@' => text "%s" ++ '.' :: fraction
  | 'S' => text "%S" ++ '.' :: fraction
  | 'T' => text "%H:%M:%S" ++ '.' :: fraction
  | '+' => text "%Y-%m-%d+%H:%M:%S" ++ '.' :: fraction
  | letter => moment.print .universal ['%', letter]

/-- What a directive says about a candidate. -/
def told? (state : State) (candidate : Candidate) (directive : Char) : Option Octets :=
  let item := candidate.item
  match directive with
  | 'p' => some candidate.path
  | 'f' => some (nameOf candidate.path)
  | 'h' => some (directoryOf candidate.path)
  | 'P' => some ((candidate.path.drop candidate.start.length).dropWhile Utility.isSlash)
  | 'H' => some candidate.start
  | 'd' => some (.ofNat candidate.depth)
  | 's' => some (.ofNat item.size)
  | 'b' => some (.ofNat item.blocks)
  | 'k' => some (.ofNat (item.blocks / 2))
  | 'm' => some (Mode.digits 1 (item.mode state))
  | 'M' => some (item.kindLetter :: Mode.image (item.mode state))
  | 'y' => some [letterOf item.kindLetter]
  | 'Y' => some [letterOf (candidate.kindBehind state)]
  | 'l' => some (match item.standing with
    | .link target => target
    | _ => [])
  | 'n' => some (.ofNat (item.names state))
  | 'i' => some (.ofNat item.number)
  | 'u' => some (.ofText "root")
  | 'g' => some (.ofText "root")
  | 'U' => some ['0']
  | 'G' => some ['0']
  | 'D' => some (.ofText "64768")
  | 'F' => some (.ofText "ext4")
  | 'S' => some ['1']
  | 't' =>
    let moment := Moment.ofClock (state.changedAt item.location)
    some (moment.print .universal (.ofText "%a %b %e %H:%M:%S.") ++ Numeral.digitsOf 9 moment.nanoseconds ++
      moment.print .universal (.ofText "0 %Y"))
  | _ => none

/-- What a format says about a candidate, and remarks about what it cannot. -/
def formatted (state : State) (candidate : Candidate) : Nat → Octets → Octets × List Octets
  | 0, _ => ([], [])
  | _ + 1, [] => ([], [])
  | fuel + 1, '%' :: rest =>
    let before (text : Octets) (rest : Octets) : Octets × List Octets :=
      let (later, remarks) := candidate.formatted state fuel rest
      (text ++ later, remarks)
    let flags := rest.takeWhile fun c => c ∈ ['-', '0', '+', ' ', '#']
    let digits := (rest.drop flags.length).takeWhile Name.isDigit
    let width := Numeral.digitsValue digits
    let padded (value : Octets) : Octets :=
      let fill := width - value.length
      if flags.contains '-' then value ++ List.replicate fill ' '
      else List.replicate fill (if flags.contains '0' then '0' else ' ') ++ value
    match rest.drop (flags.length + digits.length) with
    | '%' :: rest => before ['%'] rest
    | letter :: time :: rest =>
      if letter ∈ ['T', 'A', 'C'] then before (padded (candidate.timed state time)) rest
      else told letter (time :: rest) before padded
    | [letter] => told letter [] before padded
    | [] => ([], [])
  | _ + 1, '\\' :: 'c' :: _ => ([], [])
  | fuel + 1, '\\' :: c :: rest =>
    let (text, remark, behind) : Octets × List Octets × Octets :=
      match Format.letterEscape? c, Format.octalDigit? c with
      | some value, _ => ([value], [], rest)
      | none, some _ =>
        let (value, behind) := Format.readOctal 3 0 (c :: rest)
        ([Format.octet value], [], behind)
      | none, none =>
        if c = '\\' then (['\\'], [], rest)
        else (['\\', c], [.ofText "warning: unrecognized escape \x60\\" ++ [c, '\'']], rest)
    let (later, remarks) := candidate.formatted state fuel behind
    (text ++ later, remark ++ remarks)
  | fuel + 1, c :: rest =>
    let (later, remarks) := candidate.formatted state fuel rest
    (c :: later, remarks)
where
  told (letter : Char) (rest : Octets) (before : Octets → Octets → Octets × List Octets) (padded : Octets → Octets) :
      Octets × List Octets :=
    match candidate.told? state letter with
    | some value => before (padded value) rest
    | none =>
      let (later, remarks) := before ['%', letter] rest
      (later, (.ofText "warning: unrecognized format directive \x60%" ++ [letter, '\'']) :: remarks)

/-- All that is known about a candidate, in one line. -/
def details (state : State) (candidate : Candidate) : Octets :=
  let item := candidate.item
  let moment := Moment.ofClock (state.changedAt item.location)
  let left (width : Nat) (text : Octets) : Octets := text ++ List.replicate (width - text.length) ' '
  let right (width : Nat) (text : Octets) : Octets := List.replicate (width - text.length) ' ' ++ text
  let target := match item.standing with
    | .link target => Octets.ofText " -> " ++ target
    | _ => []
  [' '].intercalate [right 9 (.ofNat item.number), right 6 (.ofNat (item.blocks / 2)),
    item.kindLetter :: Mode.image (item.mode state), right 3 (.ofNat (item.names state)), left 8 (.ofText "root"),
    left 8 (.ofText "root"), right 8 (.ofNat item.size), moment.print .universal (.ofText "%b %e %H:%M"),
    candidate.path ++ target] ++ ['\n']

/-- Whether a test that looks but does nothing holds. -/
def passes (state : State) (candidate : Candidate) : Query → Bool
  | .constant value => value
  | .name pattern folded =>
    let name := nameOf candidate.path
    Glyph.fits pattern (if folded then name.map Char.toLower else name)
  | .path pattern folded => Glyph.fits pattern (if folded then candidate.path.map Char.toLower else candidate.path)
  | .target pattern folded =>
    match candidate.item.standing with
    | .link target => Glyph.fits pattern (if folded then target.map Char.toLower else target)
    | _ => false
  | .regex regex => regex.isIn candidate.path
  | .kind letters follows =>
    letters.contains (letterOf (if follows then candidate.kindBehind state else candidate.item.kindLetter))
  | .vacant =>
    match candidate.item.standing with
    | .file content _ => content.bytes.isEmpty
    | .directory => (state.namesIn candidate.path).isEmpty
    | _ => false
  | .runnable => candidate.item.isDirectory || Mode.isExecutable ((state.mode? candidate.path).getD 0)
  | .size amount unit => amount.admits ((candidate.item.size + unit - 1) / unit)
  | .age amount unit =>
    let passed := (state.world.clock : Int) - state.changedAt candidate.item.location
    amount.admits ((max 0 passed).toNat / 1000000 / unit)
  | .newer time => state.changedAt candidate.item.location > time
  | .mode mode extent =>
    let own := candidate.item.mode state
    match extent with
    | .exact => own = mode
    | .all => own &&& mode = mode
    | .any => mode = 0 || own &&& mode ≠ 0
  | .names amount => amount.admits (candidate.item.names state)
  | .number amount => amount.admits candidate.item.number
  | .same location => candidate.item.location = location
  | _ => true

end Candidate

/-! ### Commands -/

/-- A word with each mark in it replaced by a path. -/
def marked (path : Octets) : Nat → Octets → Octets
  | 0, word => word
  | _ + 1, [] => []
  | fuel + 1, '\x7b' :: '\x7d' :: rest => path ++ marked path fuel rest
  | fuel + 1, c :: rest => c :: marked path fuel rest

/-- Runs a command as a process of its own, and tells how it ended. -/
def runCommand (starting : Starting) (words : List Octets) : Step Nat := do
  let before := (← get).status
  let name := words.headD []
  let refused (refusal : Refusal) : Step Unit := modify fun state =>
    (state.report (.ofText "find: " ++ Utility.quoted name ++ .ofText (": " ++ refusal.message ++ "\n"))).withStatus
      refusal.status
  starting.spawn refused name (words.drop 1)
  let status := (← get).status
  setStatus before
  pure status

/-- Runs a command in the directory of a path, if that is asked for. -/
def runAt (starting : Starting) (call : Call) (path : Octets) (words : List Octets) : Step Nat := do
  let here := (← get).world.stored.workingDirectory
  let target := ((← get).files.locate ((← get).pathOf (directoryOf path))).toOption
  if call.inside then
    match target with
    | some target => modify fun state => state.withFiles (state.files.workingIn target)
    | none => pure ()
  let status ← runCommand starting words
  if call.inside then modify fun state => state.withFiles (state.files.workingIn here)
  pure status

/-- The path as a command sees it. -/
def seenPath (call : Call) (path : Octets) : Octets :=
  if call.inside then .ofText "./" ++ nameOf path else path

/-- Waits for a line of input, or for its end. -/
def awaitAnswer : Nat → Step Octets
  | 0 => pure []
  | fuel + 1 => do
    let state ← get
    let input := state.inputPending
    match if input.contains '\n' then none else (state.channel? 0).bind Channel.source? with
    | some number =>
      if state.isWritten number then do
        await (.content number (state.stream number).size)
        awaitAnswer fuel
      else pure input
    | _ => pure input

/-- Asks whether a command is to be run. -/
def asked (call : Call) (path : Octets) : Step Bool := do
  modify (·.report (.ofText "< " ++ call.words.headD [] ++ .ofText " ... " ++ path ++ .ofText " > ? "))
  let input ← awaitAnswer patience
  let line := input.takeWhile (· ≠ '\n')
  modify (·.take 0 (line.length + 1) (input.drop (line.length + 1)))
  pure (line.head?.any fun c => c = 'y' || c = 'Y')

/-- How many paths a command gets at once. -/
def batchSize : Nat := 10000

/-- Sends what is printed to the output or to a file. -/
def send (file : Option Octets) (text : Octets) : Step Unit :=
  modify fun state =>
    match file with
    | none => state.print text
    | some path =>
      match state.openOutput path false with
      | .ok (channel, state) => state.send channel text
      | .error _ => state

/-- Whether a candidate fits a query, after all has been done that the query asks for. -/
def evaluate (starting : Starting) (candidate : Candidate) : Query → Progress → Step (Bool × Progress)
  | .negation query, progress => do
    let (value, progress) ← evaluate starting candidate query progress
    pure (!value, progress)
  | .both first second, progress => do
    let (value, progress) ← evaluate starting candidate first progress
    if value && !progress.quit then evaluate starting candidate second progress else pure (value, progress)
  | .either first second, progress => do
    let (value, progress) ← evaluate starting candidate first progress
    if value || progress.quit then pure (value, progress) else evaluate starting candidate second progress
  | .also first second, progress => do
    let (_, progress) ← evaluate starting candidate first progress
    if progress.quit then pure (true, progress) else evaluate starting candidate second progress
  | .prune, progress => pure (true, { progress with pruned := true })
  | .quit, progress => pure (true, { progress with quit := true })
  | .delete, progress => do
    let state ← get
    if candidate.path = ['.'] then pure (true, progress)
    else if candidate.item.isDirectory ∧ state.namesIn candidate.path ≠ [] then
      set (Utility.refuse "find" "cannot delete" candidate.path .notEmpty state)
      pure (false, { progress with failed := true })
    else
      set (state.discard candidate.item.location)
      pure (true, progress)
  | .print format file, progress => do
    let (text, remarks) := candidate.formatted (← get) (format.length + 1) format
    for remark in remarks do modify (Utility.complain "find" remark)
    send file text
    pure (true, progress)
  | .details file, progress => do
    send file (candidate.details (← get))
    pure (true, progress)
  | .call call, progress => do
    let path := seenPath call candidate.path
    match call.together with
    | some number =>
      let waiting := (progress.batches.find? number).getD [] ++ [path]
      if call.inside || waiting.length ≥ batchSize then do
        let status ← runAt starting call candidate.path (call.words ++ waiting)
        let batches := progress.batches.insert number []
        pure (true, { progress with batches, failed := progress.failed || status ≠ 0 })
      else pure (true, { progress with batches := progress.batches.insert number waiting })
    | none => do
      let goes ← if call.asks then asked call candidate.path else pure true
      if goes then
        let status ← runAt starting call candidate.path (call.words.map fun word => marked path (word.length + 1) word)
        pure (status = 0, progress)
      else pure (false, progress)
  | query, progress => do
    let state ← get
    pure (candidate.passes state query, progress)

/-- What a path names, with links followed if that is asked for. -/
def itemAt (follows : Bool) (path : Octets) (state : State) : Except Trouble Utility.Item :=
  let plain := state.standing path
  let found := if follows then
      match state.reached path with
      | .ok found => .ok found
      | .error _ => plain
    else plain
  found.map fun (location, standing) => { name := nameOf path, path, location, standing }

/-- Looks at a path and at all that lies below it. -/
def visit (starting : Starting) (plan : Plan) (start : Octets) : Nat → Octets → Nat → Progress → Step Progress
  | 0, _, _, progress => pure progress
  | fuel + 1, path, depth, progress => do
    let state ← get
    if progress.quit then pure progress
    else match itemAt plan.follows path state with
      | .error trouble => do
        set (Utility.plainFaultOf "find" (Utility.quoted path) trouble.message state)
        pure { progress with failed := true }
      | .ok item => do
        let candidate : Candidate := { path, start, depth, item }
        let look (progress : Progress) : Step Progress := do
          if plan.least ≤ depth && !progress.quit then
            let (_, progress) ← evaluate starting candidate plan.query { progress with pruned := false }
            pure progress
          else pure { progress with pruned := false }
        let below (progress : Progress) : Step Progress := do
          if !item.isDirectory || plan.most.any (· ≤ depth) || progress.quit then pure progress
          else
            let names := (← get).namesIn path
            names.foldlM (fun progress name =>
              visit starting plan start fuel (Utility.joined path (.ofText name)) (depth + 1) progress) progress
        if plan.depthFirst then
          let progress ← below progress
          look progress
        else
          let progress ← look progress
          if progress.pruned then pure progress else below progress

/-- Finds files. -/
def run (starting : Starting) (arguments : List Octets) : Step Unit := do
  let state ← get
  match planOf state arguments with
  | .error problem => set (Utility.fault "find" problem.message state)
  | .ok plan => do
    setStatus 0
    let progress ← plan.starts.foldlM (fun progress start =>
      visit starting plan start Utility.greatestDepth start 0 progress) Progress.start
    let progress ← (callsOf plan.query).foldlM (fun progress call => do
      match call.together.bind progress.batches.find? with
      | none => pure progress
      | some [] => pure progress
      | some waiting => do
        let status ← runCommand starting (call.words ++ waiting)
        pure { progress with failed := progress.failed || status ≠ 0 }) progress
    setStatus (if progress.failed then 1 else 0)
where
  callsOf : Query → List Call
    | .call call => [call]
    | .negation query => callsOf query
    | .both first second => callsOf first ++ callsOf second
    | .either first second => callsOf first ++ callsOf second
    | .also first second => callsOf first ++ callsOf second
    | _ => []

end ComponentViews.Shell.Search
