import ComponentViews.Shell.Builtin
import ComponentViews.Shell.Extended.Declaration

/-! Reading input into variables: lines and other records, with limits on their length and on the
time, and all lines at once. -/

namespace ComponentViews.Shell.Builtin.Extended
open Step

/-- How far one reading goes. -/
structure Stretch where
  /-- Whether backslashes stand for themselves. -/
  raw : Bool
  /-- What ends it, if something does. -/
  delimiter : Option Char
  /-- How many characters it has at most. -/
  most : Option Nat

/-- What is read within limits. -/
def Stretch.read (stretch : Stretch) : Option Nat → Octets → RawLine
  | some 0, rest => { characters := [], taken := 0, rest, ended := true }
  | _, [] => { characters := [], taken := 0, rest := [], ended := false }
  | left, c :: rest =>
    if some c = stretch.delimiter then { characters := [], taken := 1, rest, ended := true }
    else match rest with
      | next :: later =>
        if c = '\\' && !stretch.raw then
          if next = '\n' then (stretch.read left later).behind 2 []
          else (stretch.read (left.map (· - 1)) later).behind 2 [(next, true)]
        else (stretch.read (left.map (· - 1)) (next :: later)).behind 1 [(c, false)]
      | [] => (stretch.read (left.map (· - 1)) []).behind 1 [(c, false)]
termination_by _ text => text.length

/-- What a descriptor has within limits, once all of it is there or the time is over. -/
def awaitStretch (descriptor : Nat) (stretch : Stretch) (deadline : Option Nat) : Nat → Step (RawLine × Bool)
  | 0 => pure (stretch.read stretch.most [], false)
  | fuel + 1 => do
    let state ← get
    match (state.channel? descriptor).bind Channel.source? with
    | some number =>
      let line := stretch.read stretch.most (state.stream number).content
      if line.ended || !state.isWritten number then pure (line, false)
      else
        let content : Need := .content number (state.stream number).size
        match deadline with
        | none => do
          await content
          awaitStretch descriptor stretch deadline fuel
        | some time =>
          if state.world.clock ≥ time then pure (line, true)
          else do
            await (.either content (.moment time))
            awaitStretch descriptor stretch deadline fuel
    | _ => pure (stretch.read stretch.most [], false)

/-- Gives a variable or a member a value; complains if that is not possible. -/
def putNamed (target value : Octets) : Step Bool := do
  let wanted := Wanted.ofText target
  if !Name.isChosen wanted.name || wanted.isAssigned then do
    fail 1 (badIdentifier target)
    pure false
  else
    let done ← unnamed do
      match wanted.place with
      | some place => Variables.assignMember wanted.name place value false
      | none => Variables.assign wanted.name value false
    if !done then setStatus 1
    pure done

/-- Gives each name a field of a line, and the last one what is left; whether all could be given. -/
def fillNamed (separators : Octets) : List Octets → List (Char × Bool) → Step Bool
  | [], _ => pure true
  | [name], line =>
    let (field, behind) := splitField separators line
    let isBlank (c : Char × Bool) : Bool := !c.2 && separators.contains c.1 && Item.Splitting.isBlank c.1
    putNamed name (if behind = [] then field else ((line.reverse.dropWhile isBlank).reverse).map Prod.fst)
  | name :: names, line => do
    let (field, behind) := splitField separators line
    if ← putNamed name field then fillNamed separators names behind else pure false

/-- The fields of a line. -/
def fieldsOf (separators : Octets) : Nat → List (Char × Bool) → List Octets
  | 0, _ => []
  | _ + 1, [] => []
  | fuel + 1, line =>
    let (field, behind) := splitField separators line
    field :: fieldsOf separators fuel behind

/-- A number of seconds in millionths. -/
def duration? (text : Octets) : Option Nat :=
  let whole := text.takeWhile Name.isDigit
  let part := match text.drop whole.length with
    | '.' :: part => some part
    | [] => some []
    | _ => none
  match part with
  | some part =>
    if (whole ++ part).isEmpty || !part.all Name.isDigit then none
    else
      let number (digits : Octets) : Nat := (Format.natural? digits).getD 0
      some (number whole * 1000000 + number ((part ++ List.replicate 6 '0').take 6))
  | none => none

/-- The descriptor that an option names, if it leads to some input. -/
def descriptorOf (given : Given) : Step (Option Nat) := do
  match given.value? 'u' with
  | none => pure (some 0)
  | some text =>
    match Format.natural? text with
    | none => do
      blame text "invalid file descriptor specification"
      pure none
    | some number =>
      if ((← get).channel? number).isNone then do
        blame text "invalid file descriptor: Bad file descriptor"
        pure none
      else pure (some number)

/-- The variable that takes a line for which no other is named. -/
def replyVariable : Octets := .ofText "REPLY"

/-- Gives variables what has been read. -/
def takeLine (given : Given) (separators : Octets) (characters : List (Char × Bool)) : Step Bool := do
  let isBlank (c : Char × Bool) : Bool := !c.2 && separators.contains c.1 && Item.Splitting.isBlank c.1
  let text := characters.map Prod.fst
  match given.value? 'a', given.operands with
  | some name, _ => unnamed do
    Variables.assignMembers name
      ((fieldsOf separators (characters.length + 1) (characters.dropWhile isBlank)).map fun field => (none, false, field)) false
  | none, [] => putNamed replyVariable text
  | none, name :: names =>
    if given.has 'N' then do
      if ← putNamed name text then fillNamed separators names [] else pure false
    else fillNamed separators (name :: names) (characters.dropWhile isBlank)

/-- Reads a line into variables. -/
def readLine (arguments : List Octets) : Step Unit :=
  withGiven ['r', 's', 'e'] ['a', 'd', 'i', 'n', 'N', 'p', 't', 'u'] arguments fun given => do
    let count := (given.value? 'n').or (given.value? 'N')
    let patience := given.value? 't'
    let first := (given.value? 'a').or given.operands.head?
    if count.any fun text => (Format.natural? text).isNone then blame (count.getD []) "invalid number"
    else if patience.any fun text => (duration? text).isNone then
      blame (patience.getD []) "invalid timeout specification"
    else match ← descriptorOf given with
      | none => pure ()
      | some descriptor =>
        let wanted := first.map Wanted.ofText
        if wanted.any fun wanted => !Name.isChosen wanted.name || wanted.isAssigned then
          fail 1 (badIdentifier (first.getD []))
        else if ((← get).pending? descriptor).toOption.isNone then
          fail 1 (.ofText ("read error: " ++ toString descriptor ++ ": Bad file descriptor"))
        else
          let delimiter := if given.has 'N' then none
            else some (((given.value? 'd').map fun text => text.headD '\x00').getD '\n')
          let stretch : Stretch := { raw := given.has 'r', delimiter, most := count.bind Format.natural? }
          let state ← get
          if patience.bind duration? = some 0 then
            let isThere := match (state.channel? descriptor).bind Channel.source? with
              | some number => !(state.stream number).content.isEmpty || !state.isWritten number
              | _ => true
            setStatus (if isThere then 0 else 1)
          else
            let deadline := (patience.bind duration?).map fun time => state.world.clock + time
            let (line, isLate) ← awaitStretch descriptor stretch deadline Step.patience
            modify (·.take descriptor line.taken line.rest)
            let separators := (← get).separators
            if ← takeLine given separators (line.characters.filter fun c => c.1 ≠ '\x00') then
              setStatus (if isLate then 142 else if line.ended then 0 else 1)

/-- Records up to a delimiter, which each one keeps if it has it. -/
def recordsOf (delimiter : Char) : Octets → List Octets
  | [] => []
  | c :: rest =>
    if c = delimiter then [c] :: recordsOf delimiter rest
    else match recordsOf delimiter rest with
      | [] => [[c]]
      | record :: others => (c :: record) :: others

/-- The number that an option gives, or the usual one; nothing if it is none. -/
def countOf (given : Given) (letter : Char) (kind : String) : Step (Option Nat) := do
  match given.value? letter with
  | none => pure (some 0)
  | some text =>
    match Format.natural? text with
    | some number => pure (some number)
    | none => do
      blame text kind
      pure none

/-- Reads lines into an array. -/
def readLines (arguments : List Octets) : Step Unit :=
  withGiven ['t'] ['d', 'n', 'O', 's', 'u', 'C', 'c'] arguments fun given => do
    match ← countOf given 'n' "invalid line count", ← countOf given 's' "invalid line count",
      ← countOf given 'O' "invalid array origin" with
    | some most, some skipped, some origin =>
      match ← descriptorOf given with
      | none => pure ()
      | some descriptor =>
        let name := given.operands.headD (.ofText "MAPFILE")
        let state ← get
        if name = [] then fail 2 (.ofText "empty array variable name")
        else if !Name.isChosen name then fail 1 (badIdentifier name)
        else if ((state.held? name).bind Variable.members).any Members.keyed then blame name "not an indexed array"
        else if state.isFixed name then fail 1 (name ++ .ofText ": readonly variable")
        else
          match (state.channel? descriptor).bind Channel.source? with
          | some number => awaitClosing number patience
          | _ => pure ()
          let content := match (← get).pending? descriptor with
            | .ok stream => stream.content
            | .error _ => []
          let delimiter := ((given.value? 'd').map fun text => text.headD '\x00').getD '\n'
          let records := recordsOf delimiter content
          let behind := records.drop skipped
          let chosen := if most = 0 then behind else behind.take most
          let taken := ((records.take (skipped + chosen.length)).map List.length).foldl (· + ·) 0
          modify (·.take descriptor taken (content.drop taken))
          let bare (record : Octets) : Octets :=
            (if given.has 't' && record.getLast? = some delimiter then record.dropLast else record).filter (· ≠ '\x00')
          let former := ((← get).members? name).getD (.empty false)
          let start := if given.has 'O' then former else .empty false
          let members := (chosen.zipIdx origin).foldl (fun (members : Members) (record, index) =>
            members.insert (Nat.toDigits 10 index) (bare record)) start
          change name fun held => { held with value := none, members := some members }
          setStatus 0
    | _, _, _ => pure ()

end ComponentViews.Shell.Builtin.Extended
