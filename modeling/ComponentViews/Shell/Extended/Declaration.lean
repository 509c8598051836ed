import ComponentViews.Shell.Extended.Usage
import ComponentViews.Shell.Variables

/-! Commands that declare variables: they give them values and traits, hide those outside of a
function, list them, and take them away. -/

namespace ComponentViews.Shell.Builtin.Extended
open Step

/-- What a declared variable is given. -/
inductive Value where
  | none
  | text (value : Octets)
  | members (list : List Variables.Listed)

/-- A variable that is to be declared, with the argument as it stands. -/
structure Wanted where
  text : Octets
  name : Octets
  place : Option Octets
  appends : Bool
  given : Value

namespace Wanted

/-- What an argument asks for: an assignment, or a name alone. -/
def ofText (text : Octets) : Wanted :=
  let name := Name.chosenAt text
  let behind := text.drop name.length
  let plain : Wanted := { text, name := text, place := none, appends := false, given := .none }
  let assigned (place : Option Octets) : Octets → Wanted
    | '=' :: value => { text, name, place, appends := false, given := .text value }
    | '+' :: '=' :: value => { text, name, place, appends := true, given := .text value }
    | [] => { text, name, place, appends := false, given := .none }
    | _ => plain
  match behind with
  | '[' :: inner =>
    let place := inner.takeWhile (· ≠ ']')
    if inner.drop place.length = [] then plain else assigned (some place) (inner.drop (place.length + 1))
  | behind => assigned none behind

/-- The argument as a script would write it. -/
def image (wanted : Wanted) : Octets :=
  if wanted.text ≠ [] then wanted.text
  else
    let place := (wanted.place.map fun place => '[' :: place ++ [']']).getD []
    let sign : Octets := if wanted.appends then ['+', '='] else ['=']
    wanted.name ++ place ++ match wanted.given with
      | .none => []
      | .text value => sign ++ value
      | .members list => sign ++ '(' :: [' '].intercalate (list.map fun member => Quoting.always member.2.2) ++ [')']

def label (wanted : Wanted) : Octets := if wanted.text ≠ [] then wanted.text else wanted.name

def isAssigned (wanted : Wanted) : Bool :=
  match wanted.given with
  | .none => false
  | _ => true

end Wanted

/-- The letters that options give and take away. -/
structure Marks where
  added : List Char
  dropped : List Char

def Marks.has (marks : Marks) (letter : Char) : Bool := marks.added.contains letter

/-- Options in front of what is to be declared; nothing if one of them makes no sense. -/
def readMarks (known : List Char) (marks : Marks) : List Wanted → Step (Option (Marks × List Wanted))
  | [] => pure (some (marks, []))
  | wanted :: rest => do
    match wanted.text with
    | ['-', '-'] => pure (some (marks, rest))
    | '-' :: letter :: letters => readOption '-' (letter :: letters) rest
    | '+' :: letter :: letters => readOption '+' (letter :: letters) rest
    | _ => pure (some (marks, wanted :: rest))
where
  readOption (sign : Char) (letters : List Char) (rest : List Wanted) : Step (Option (Marks × List Wanted)) := do
    match letters.find? fun letter => !known.contains letter with
    | some letter => do
      modify (·.complain (sign :: letter :: Octets.ofText ": invalid option"))
      tellUsage
      pure none
    | none =>
      readMarks known (if sign = '-' then { marks with added := marks.added ++ letters }
        else { marks with dropped := marks.dropped ++ letters }) rest

/-! ### Listing -/

/-- Variables by their names in order. -/
def sortedVariables (state : State) : List (Octets × Variable) :=
  state.process.bindings.entries.mergeSort fun a b => Octets.atMost a.1 b.1

/-- Whether a variable has all that some letters stand for. -/
def isMarked (letters : List Char) (held : Variable) : Bool :=
  letters.all fun letter => (Variables.letters held).contains letter

def listDeclared (letters : List Char) : Step Unit := modify fun state =>
  let chosen := (sortedVariables state).filter fun entry => isMarked letters entry.2
  state.succeed.print (Octets.ofLines (chosen.map fun (name, held) => Variables.declaration name held))

/-- A variable as an assignment that would make it. -/
def assignmentOf (name : Octets) (held : Variable) : Option Octets :=
  match held.members, held.value with
  | some members, _ => some (name ++ '=' :: Variables.listOf members)
  | none, some value => some (name ++ '=' :: Quoting.whereNeeded value)
  | none, none => none

/-- All variables as assignments. -/
def listAssigned : Step Unit := modify fun state =>
  state.succeed.print (Octets.ofLines ((sortedVariables state).filterMap fun (name, held) => assignmentOf name held))

/-- The declarations of some variables by their names. -/
def showDeclared (names : List Octets) : Step Unit := do
  setStatus 0
  for name in names do
    let state ← get
    let told : Option Variable := (state.toldValue? name).map fun value =>
      { value := some value, exported := false, fixed := false
        traits := if ["RANDOM", "SECONDS", "BASHPID"].contains (String.ofList name) then ['i'] else [] }
    match (state.held? name).or told with
    | some held => set (state.print (Variables.declaration name held ++ ['\n']))
    | none => blame name "not found"

/-- What the current function hides. -/
def listHidden : Step Unit := modify fun state =>
  let names := ((state.process.scopes.headD []).filterMap Hidden.name?).mergeSort Octets.atMost
  state.succeed.print (Octets.ofLines (names.filterMap fun name =>
    (state.held? name).map fun held => Variables.declaration name held))

/-- Functions by their names. -/
def listFunctions (names : List Octets) : Step Unit := do
  setStatus 0
  let known := ((← get).process.functions.entries.map Prod.fst).mergeSort Octets.atMost
  if names.isEmpty then
    modify (·.print (Octets.ofLines (known.map fun name => .ofText "declare -f " ++ name)))
  else for name in names do
    if known.contains name then modify (·.print (name ++ ['\n'])) else setStatus 1

/-! ### Declaring -/

/-- Lets a variable of the running function hide the one outside. -/
def hide (name : Octets) : Step Unit := modify fun state =>
  match state.process.scopes with
  | [] => state
  | scope :: scopes =>
    if scope.any (·.name? = some name) then state
    else
      let outer := state.held? name
      let fresh : Variable := { value := none, exported := outer.any Variable.exported, fixed := false }
      (state.adjust fun process => { process with scopes := (.variable name outer :: scope) :: scopes }).bind name fresh

/-- Takes a step on the variable outside of all functions. -/
def outside (name : Octets) (step : Step Unit) : Step Unit := do
  let state ← get
  match state.process.scopes.reverse.findSome? fun scope => scope.reverse.findSome? (·.held? name) with
  | none => step
  | some saved =>
    let own := state.held? name
    set (state.restore (name, saved))
    let result ← attempt step
    let changed := (← get).held? name
    let isIt (scope : List Hidden) : Bool := scope.any (·.name? = some name)
    let behind := state.process.scopes.reverse.takeWhile fun scope => !isIt scope
    let renew (scope : List Hidden) : List Hidden :=
      scope.map fun entry => if entry.name? = some name then .variable name changed else entry
    let scopes := state.process.scopes.take (state.process.scopes.length - behind.length - 1) ++
      ((state.process.scopes.drop (state.process.scopes.length - behind.length - 1)).take 1).map renew ++ behind.reverse
    modify fun state => (state.adjust fun process => { process with scopes }).restore (name, own)
    resume result

/-- Changes what is known about a variable. -/
def change (name : Octets) (change : Variable → Variable) : Step Unit := modify fun state =>
  state.bind name (change ((state.held? name).getD { value := none, exported := state.hasOption 'a', fixed := false }))

/-- Makes a variable an array, unless it is one of the other kind. -/
def makeArray (name : Octets) (keyed : Bool) : Step Bool := do
  let held := ((← get).held? name).getD { value := none, exported := false, fixed := false }
  match held.members with
  | some members =>
    if members.keyed = keyed then pure true
    else do
      blame name (if keyed then "cannot convert indexed to associative array"
        else "cannot convert associative to indexed array")
      pure false
  | none => do
    let first := held.value.toList
    let members : Members := { Members.ofList first with keyed }
    let traits := if first.isEmpty then '-' :: held.traits else held.traits
    change name fun held => { held with value := none, members := some members, traits }
    pure true

/-- The traits that letters stand for, besides being an array, exported or fixed. -/
def traitLetters : List Char := ['i', 'l', 'u', 'c', 'n']

/-- Gives a variable traits and takes others away. -/
def changeTraits (name : Octets) (marks : Marks) : Step Unit :=
  let cases := marks.added.filter fun letter => letter ∈ ['l', 'u', 'c']
  let added := marks.added.filter fun letter =>
    traitLetters.contains letter && (cases.eraseDups.length ≤ 1 || !cases.contains letter)
  let gone := marks.dropped ++ if cases.isEmpty then [] else ['l', 'u', 'c']
  if added.isEmpty && gone.isEmpty then pure ()
  else change name fun held =>
    { held with traits := (held.traits.filter fun letter => !gone.contains letter && !added.contains letter) ++ added }

/-- A text between brackets as the members of an array. -/
def membersIn? (text : Octets) : Option (List Variables.Listed) :=
  match text with
  | '(' :: inner =>
    if inner.getLast? = some ')' then
      let words := (inner.dropLast.splitOn ' ').filter fun word => !word.isEmpty
      some (words.map fun word => match word with
        | '[' :: rest =>
          let place := rest.takeWhile (· ≠ ']')
          match rest.drop place.length with
          | ']' :: '=' :: value => (some place, false, value)
          | _ => (none, false, word)
        | word => (none, false, word))
    else none
  | _ => none

/-- Gives a declared variable its value; whether that is allowed. -/
def give (wanted : Wanted) (isArray : Bool) : Step Bool := do
  match wanted.given, wanted.place with
  | .none, _ => pure true
  | .text value, some place => Variables.assignMember wanted.name place value wanted.appends
  | .text value, none =>
    match if isArray then membersIn? value else none with
    | some list => Variables.assignMembers wanted.name list wanted.appends
    | none => Variables.assign wanted.name value wanted.appends
  | .members list, _ => Variables.assignMembers wanted.name list wanted.appends

/-- Lets a variable stand for another one. -/
def refer (wanted : Wanted) : Step Bool := do
  match wanted.given with
  | .text target =>
    if target = wanted.name then do
      blame wanted.name "nameref variable self references not allowed"
      pure false
    else if Name.chosenAt target = [] then do
      fail 1 ('\x60' :: target ++ .ofText "': invalid variable name for name reference")
      pure false
    else do
      change wanted.name fun held => { held with value := some target }
      changeTraits wanted.name { added := ['n'], dropped := [] }
      pure true
  | _ => do
    changeTraits wanted.name { added := ['n'], dropped := [] }
    pure true

/-- Declares one variable; whether all went well. -/
def declareOne (marks : Marks) (wanted : Wanted) : Step Bool := do
  let name := wanted.name
  let held := (← get).held? name
  if held.any (fun held => held.fixed) && (marks.dropped.contains 'r' ||
      wanted.isAssigned && !(wanted.given matches .none)) then do
    blame name "readonly variable"
    pure false
  else if marks.dropped.contains 'a' && held.any fun held => held.members.isSome then do
    blame name "cannot destroy array variables in this way"
    pure false
  else if marks.has 'n' then refer wanted
  else do
    let keyed := marks.has 'A'
    let isList := match wanted.given with
      | .members _ => true
      | _ => false
    let isKeyedAlready := held.any fun held => held.members.any Members.keyed
    let isArray := keyed || marks.has 'a' || (isList || wanted.place.isSome) && !isKeyedAlready
    let isReady ← if isArray then makeArray name keyed else pure true
    if !isReady then pure false
    else do
      changeTraits name marks
      if !(← give wanted (isArray || isKeyedAlready)) then pure false
      else do
        change name fun held =>
          { held with
            exported := (held.exported || marks.has 'x') && !marks.dropped.contains 'x'
            fixed := held.fixed || marks.has 'r' }
        pure true

/-- Takes a step whose complaints do not name the command. -/
def unnamed {α : Type} (step : Step α) : Step α := do
  let before := (← get).process.command
  modify (·.adjust fun process => { process with command := none })
  let result ← attempt step
  modify (·.adjust fun process => { process with command := before })
  resume result

/-- Where a command declares variables. -/
inductive Reach where
  /-- In the running function, if one runs. -/
  | inner
  | global
  /-- Wherever a variable is. -/
  | anywhere

/-- Declares variables one by one. -/
def declareAll (reach : Reach) (marks : Marks) (wanted : List Wanted) : Step Unit := do
  let outcomes ← wanted.mapM fun wanted => do
    if !Name.isChosen wanted.name then do
      fail 1 (badIdentifier wanted.label)
      pure false
    else do
      let done ← match reach with
        | .inner => do
          let state ← get
          let isFixedOutside := state.isFixed wanted.name && !((state.process.scopes.headD []).any (·.name? = some wanted.name))
          if isFixedOutside && !state.process.scopes.isEmpty then do
            blame wanted.name "readonly variable"
            pure false
          else do
            hide wanted.name
            declareOne marks wanted
        | .global => do
          let before := (← get).status
          setStatus 0
          outside wanted.name do
            if !(← declareOne marks wanted) then setStatus 1
          let failed := (← get).status ≠ 0
          setStatus before
          pure !failed
        | .anywhere => unnamed (declareOne marks wanted)
      pure done
  setStatus (if outcomes.all id then 0 else 1)

/-- Letters of declared variables that lists ask for. -/
def filters (marks : Marks) : List Char := marks.added.filter fun letter => letter ≠ 'p' && letter ≠ 'g'

/-- Marks functions, which have no values; whether they are there counts alone. -/
def markFunctions (names : List Octets) : Step Unit := do
  setStatus 0
  for name in names do
    match (← get).process.functions.find? name with
    | some body => modify (·.adjust fun process => { process with lent := process.lent.insert name body })
    | none => blame name "not a function"

/-- Declares variables, or lists them, as a command by its name does. -/
def declare (command : String) (wanted : List Wanted) : Step Unit := do
  let nothing : Marks := { added := [], dropped := [] }
  let known : List Char := match command with
    | "export" => ['f', 'n', 'p']
    | "readonly" => ['a', 'A', 'f', 'p']
    | _ => ['a', 'A', 'f', 'F', 'g', 'I', 'i', 'l', 'n', 'r', 't', 'u', 'x', 'c', 'p']
  match ← readMarks known nothing wanted with
  | none => pure ()
  | some (marks, wanted) =>
    let names := wanted.map Wanted.label
    match command with
    | "export" =>
      if marks.has 'f' then markFunctions names
      else if wanted.isEmpty then listDeclared ['x']
      else if marks.has 'n' then declareAll .anywhere { added := [], dropped := ['x'] } wanted
      else declareAll .anywhere { added := ['x'], dropped := [] } wanted
    | "readonly" =>
      if marks.has 'f' then markFunctions names
      else if wanted.isEmpty then listDeclared ('r' :: filters marks)
      else declareAll .anywhere { added := 'r' :: filters marks, dropped := [] } wanted
    | _ =>
      let inFunction := !(← get).process.scopes.isEmpty
      if command = "local" && !inFunction then fail 1 (.ofText "can only be used in a function")
      else if marks.has 'f' || marks.has 'F' then listFunctions names
      else if marks.has 'p' && !wanted.isEmpty then showDeclared names
      else if wanted.isEmpty then
        if command = "local" then listHidden
        else if marks.has 'p' || !(filters marks).isEmpty then listDeclared (filters marks)
        else listAssigned
      else declareAll (if marks.has 'g' || !inFunction then .global else .inner) marks wanted

/-! ### Taking away -/

/-- Takes a member away from an array, or all of them. -/
def eraseMember (name place : Octets) : Step Unit := do
  let state ← get
  match state.held? name with
  | none => pure ()
  | some held =>
    if held.fixed then blame name "cannot unset: readonly variable"
    else match held.members with
      | none =>
        if place = ['0'] then modify (·.forget name) else blame name "not an array variable"
      | some members =>
        if (place = ['@'] || place = ['*']) && !members.keyed then
          set (state.bind name { held with members := some (.empty members.keyed) })
        else
          match Calculation.placeOf name place state with
          | .ok (key, state) => set (state.bind name { held with members := some (members.erase key) })
          | .error message =>
            let isPlace := message = name ++ .ofText ": bad array subscript"
            fail 1 (if isPlace then '[' :: place ++ .ofText "]: bad array subscript" else message)

/-- Takes variables or functions away. -/
def unset (arguments : List Octets) : Step Unit := withGiven ['f', 'v', 'n'] [] arguments fun given => do
  let forgetFunction (name : Octets) : Step Unit := modify (·.adjust fun process =>
    { process with functions := { entries := process.functions.entries.filter fun entry => entry.1 ≠ name } })
  setStatus 0
  if given.has 'f' && given.has 'v' then fail 1 (.ofText "cannot simultaneously unset a function and a variable")
  else for argument in given.operands do
    if given.has 'f' then forgetFunction argument
    else
      let wanted := Wanted.ofText argument
      let state ← get
      let name := if given.has 'n' then wanted.name else state.referent State.mostReferences wanted.name
      if !Name.isChosen wanted.name || wanted.isAssigned then
        if given.has 'v' then fail 1 (badIdentifier argument) else forgetFunction argument
      else match wanted.place with
        | some place => eraseMember name place
        | none =>
          if state.isFixed name then blame name "cannot unset: readonly variable"
          else if (state.held? name).isSome then set (state.forget name)
          else if !given.has 'v' then forgetFunction argument

end ComponentViews.Shell.Builtin.Extended
