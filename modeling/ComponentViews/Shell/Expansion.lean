import ComponentViews.Shell.Braces
import ComponentViews.Shell.Fork
import ComponentViews.Shell.Selection

/-! What words expand to: parameters, the output of scripts and the values of expressions
in the place of their parts, and then the fields that those make. How a script runs is
left open here. -/

namespace ComponentViews.Shell

namespace Word

/-- A word in which a tilde in front, up to a slash or the end, stands for a directory by its name. -/
def atHome (home? : Octets → Option Octets) (word : Word) : Word :=
  match word with
  | .text ['~'] false :: rest =>
    let isNamed : Part → Bool
      | .text [c] false => Name.isInner c || c = '+' || c = '-'
      | _ => false
    let name := rest.takeWhile isNamed
    let behind := rest.drop name.length
    let ends := match behind with
      | [] => true
      | .text [c] false :: _ => c = '/' || c = ':'
      | _ => false
    match if ends then home? (name.flatMap Part.characters) else none with
    | some home => .text home true :: behind
    | none => word
  | word => word

/-- A word in which tildes stand for directories in front and behind colons. -/
def atHomes (home? : Octets → Option Octets) : Word → Word
  | [] => []
  | .text [':'] false :: rest => .text [':'] false :: atHome home? (atHomes home? rest)
  | part :: rest => part :: atHomes home? rest

/-- The name and the value of a word that has the form of an assignment. -/
def assignment? : Word → Option (Octets × Word)
  | .text ['='] false :: value => some ([], value)
  | .text [c] false :: rest =>
    if Name.isInner c then (assignment? rest).map fun (name, value) => (c :: name, value) else none
  | _ => none

end Word

namespace Expansion
open Step

/-- Expressions find their variables among the parameters. -/
def memory : Expression.Memory State where
  value name state := (state.parameter? name).getD []
  assign name value state := state.assign? name value

/-- The digits of an expression's value. -/
def compute (source : Octets) : Step Octets := do
  let state ← get
  if state.isExtended then return Expression.digits (← Variables.calculate source)
  else match (Expression.parse source).bind fun expression => expression.compute memory state with
    | .ok (value, state) => do
      set state
      pure (Expression.digits value)
    | .error fault => abort (fault.message source)

/-- Ends a script over a parameter that it has to have. -/
def miss {α : Type} (message : Octets) : Step α := do
  if (← get).isExtended then
    modify fun state => (state.complain message).withStatus 127
    throw .exited
  else abort message

/-- A parameter as treatments see it. -/
structure Subject where
  /-- What complaints call it. -/
  name : Octets
  /-- Its items once each of its values has been changed. -/
  items : (Octets → Octets) → List Item
  isMissing : Bool → Bool
  isUnset : Bool
  size : Nat

/-- The items of a parameter. Each argument makes a field of its own, except where quotes
join them all. -/
def itemsOf (name : Octets) (quoted : Bool) (change : Octets → Octets) (state : State) : List Item :=
  let arguments := state.process.arguments.map change
  if name = ['@'] ∨ name = ['*'] ∧ !quoted then Item.ofArguments quoted arguments
  else if name = ['*'] then Item.ofValue quoted (state.joint.intercalate arguments)
  else Item.ofValue quoted (change ((state.parameter? name).getD []))

namespace Subject

/-- A parameter of the standard dialect. -/
def plain (state : State) (name : Octets) (quoted : Bool) : Subject where
  name := name
  items change := itemsOf name quoted change state
  isMissing evenEmpty := match state.parameter? name with
    | none => true
    | some value => evenEmpty && value.isEmpty
  isUnset := (state.parameter? name).isNone
  size := ((state.parameter? name).getD []).length

def ofWorth (state : State) (name : Octets) (quoted : Bool) (worth : Worth) : Subject where
  name := name
  items change := (worth.map change).items state quoted
  isMissing evenEmpty := worth.isMissing evenEmpty
  isUnset := worth.isUnset
  size := worth.size

end Subject

/-- Ends a script that takes a missing parameter and asked for that to be an error. -/
def demandSet (subject : Subject) : Step Unit := do
  let state ← get
  if subject.isUnset && state.hasOption 'u' then
    miss (subject.name ++ .ofText (if state.isExtended then ": unbound variable" else ": parameter not set"))

/-- A text without the start or the end that fits a pattern. -/
def trimmed (state : State) (atStart most : Bool) (pattern : Field) : Octets → Octets :=
  if state.isExtended then
    let wildcards := Wildcard.parse true pattern
    if atStart then Wildcard.trimStart most wildcards else Wildcard.trimEnd most wildcards
  else
    let glyphs := Glyph.parse pattern
    if atStart then Glyph.trimStart most glyphs else Glyph.trimEnd most glyphs

/-- The items of a parameter that is treated. The operand is expanded only where it counts. -/
def treat (subject : Subject) (quoted : Bool) (treatment : Treatment) (isPlain : Bool)
    (operand : Bool → Step (List Item)) (assign : Octets → Step Unit) : Step (List Item) := do
  let state ← get
  match treatment with
  | .plain => do
    demandSet subject
    pure (subject.items id)
  | .size => do
    demandSet subject
    pure (Item.ofValue quoted (.ofNat subject.size))
  | .fallback evenEmpty => if subject.isMissing evenEmpty then operand true else pure (subject.items id)
  | .replacement evenEmpty => if subject.isMissing evenEmpty then pure [] else operand true
  | .assignment evenEmpty =>
    if subject.isMissing evenEmpty then do
      let value := Item.octets state.joint (← operand true)
      assign value
      pure (Item.ofValue quoted value)
    else pure (subject.items id)
  | .demand evenEmpty =>
    if subject.isMissing evenEmpty then do
      let message := Item.octets state.joint (← operand true)
      let usual := if !evenEmpty then "parameter not set"
        else if state.isExtended then "parameter null or not set"
        else "parameter not set or null"
      miss (subject.name ++ [':', ' '] ++ (if isPlain then .ofText usual else message))
    else pure (subject.items id)
  | .trimStart most => do
    demandSet subject
    let pattern := Item.field state.joint (← operand false)
    pure (subject.items (trimmed state true most pattern))
  | .trimEnd most => do
    demandSet subject
    let pattern := Item.field state.joint (← operand false)
    pure (subject.items (trimmed state false most pattern))

/-- Gives a missing parameter a value. -/
def assignMissing (name value : Octets) : Step Unit := do
  if Name.isChosen name then Builtin.assign name value
  else if (← get).isExtended then Variables.forsake ('$' :: name ++ .ofText ": cannot assign in this way")
  else abort (Builtin.badName name)

/-- Goes on to the next number by chance once one has been taken. -/
def drawChance (name : Octets) : Step Unit := do
  if name = .ofText "RANDOM" && (← get).isExtended then
    modify (·.adjust fun process => { process with seed := (State.chance process.seed).2 })

/-- The members of an array that a place between brackets stands for. -/
def extentOf (name : Octets) (isAll : Bool) (place : Octets) : Step Extent := do
  if isAll then pure (.all (place = ['*'])) else return .member (← Variables.keyOf name place)

/-- The name of a parameter and of a member behind it, as complaints write them. -/
def labelOf (name : Octets) (subscripted : Bool) (place : Octets) : Octets :=
  if subscripted then name ++ '[' :: place ++ [']'] else name

/-- What a text names that a parameter holds: another parameter, perhaps members of it. -/
def referredTo (name : Octets) (worth : Worth) : Step (Octets × Extent) := do
  let target := match worth with
    | .one value => value
    | .several values _ => some ([' '].intercalate values)
  match target with
  | none => Variables.forsake (name ++ .ofText ": invalid indirect expansion")
  | some text =>
    let start := Name.parameterAt text
    match text.drop start.length with
    | [] => if start = [] then Variables.forsake (text ++ .ofText ": invalid variable name") else pure (start, .itself)
    | '[' :: inner =>
      let place := inner.takeWhile (· ≠ ']')
      if start = [] || inner.drop place.length ≠ [']'] then
        Variables.forsake (text ++ .ofText ": invalid variable name")
      else return (start, ← extentOf start (place = ['@'] || place = ['*']) place)
    | _ => Variables.forsake (text ++ .ofText ": invalid variable name")

/-- The names of variables that start with a text, in order. -/
def namesWith (state : State) (start : Octets) : List Octets :=
  let isSet (held : Variable) : Bool := held.value.isSome || held.members.isSome
  let names := (state.process.bindings.entries.filter fun entry => isSet entry.2).map Prod.fst
  (names.filter fun name => start.isPrefixOf name).mergeSort Octets.atMost

/-- The command that would make a parameter what it is. -/
def madeBy (state : State) (name : Octets) (worth : Worth) : Octets :=
  match worth with
  | .several values _ =>
    if name = ['@'] || name = ['*'] then .ofText "set -- " ++ [' '].intercalate (values.map Quoting.always)
    else ((state.held? name).map fun held => Variables.declaration name held).getD []
  | .one value =>
    match state.held? name, value with
    | some held, some value =>
      let letters := Variables.letters held
      (if letters = [] then [] else Octets.ofText "declare -" ++ letters ++ [' ']) ++ name ++ '=' :: Quoting.always value
    | _, _ => []

/-- A parameter in the form that a letter asks for. -/
def shownAs (state : State) (name : Octets) (letter : Char) (worth : Worth) : Step Worth := do
  let members := (state.members? name).getD (.empty false)
  match letter, worth with
  | 'A', worth => pure (.one (some (madeBy state name worth)))
  | 'a', .one _ => pure (.one (some (((state.held? name).map Variables.letters).getD [])))
  | 'a', .several values joined =>
    pure (.several (values.map fun _ => ((state.held? name).map Variables.letters).getD []) joined)
  | 'K', .several _ _ =>
    pure (.one (some ([' '].intercalate (members.entries.flatMap fun (key, value) => [key, Quoting.declared value]))))
  | 'k', .several _ joined => pure (.several (members.entries.flatMap fun (key, value) => [key, value]) joined)
  | letter, worth =>
    if (Worth.shown? letter []).isSome || worth.isUnset then pure (worth.map fun value => (Worth.shown? letter value).getD [])
    else Variables.forsake (.ofText "$\x7b" ++ name ++ '@' :: letter :: Octets.ofText "\x7d: bad substitution")

/-- A number for a descriptor that is free, from the highest of those that streams get. -/
def freeDescriptor (state : State) : Nat :=
  let isFree (number : Nat) : Bool := (state.channel? number).isNone
  (((List.range 54).map (63 - ·)).find? isFree).getD 64

/-- Starts a script that writes what is read from a path, or reads what is written to it; the path. -/
def openPassage (script : Script) (writes : Bool) : Step Octets := do
  let (number, opened) := (← get).newStream .pipe
  let descriptor := freeDescriptor opened
  let inner := if writes then opened.forked.setDescriptor 1 (.writer number)
    else opened.forked.setDescriptor 0 (.reader number)
  let started := State.bear { opened with world := inner.world } inner.process (.script script)
  let outer := started.setDescriptor descriptor (if writes then .reader number else .writer number)
  set (outer.adjust fun process => { process with passages := descriptor :: process.passages })
  spend forkTime
  pure (.ofText "/dev/fd/" ++ .ofNat descriptor)

/-- Closes the streams behind the paths in a command. -/
def closePassages : Step Unit := modify fun state =>
  let closed := state.process.passages.foldl (fun (state : State) descriptor =>
    let stream := match state.channel? descriptor with
      | some (.writer number) => some number
      | channel => channel.bind Channel.source?
    let state := state.closeDescriptor descriptor
    (stream.map state.dropStream).getD state) state
  closed.adjust fun process => { process with passages := [] }

mutual

/-- The items of a word's parts. What stands behind a parameter outside quotes is loose. -/
def expand (run : Script → Step Octets) (loose : Bool) : List Part → Step (List Item)
  | [] => pure []
  | part :: rest => do
    let first ← expandPart run loose part
    let later ← expand run loose rest
    pure (first ++ later)

/-- The items of one of several operands. -/
def expandOperand (run : Script → Step Octets) (loose : Bool) : Nat → List (List Part) → Step (List Item)
  | _, [] => pure []
  | 0, operand :: _ => expand run loose operand
  | index + 1, _ :: operands => expandOperand run loose index operands

def expandPart (run : Script → Step Octets) (loose : Bool) : Part → Step (List Item)
  | .text value true => pure (.mark :: value.map (.char · true))
  | .text value false => pure (value.map fun c => if loose then .loose c else .char c false)
  | .parameter name treatment operand quoted => do
    let state ← get
    let subject := if state.isExtended then Subject.ofWorth state name quoted (.of state name .itself)
      else Subject.plain state name quoted
    let items ← treat subject quoted treatment operand.isEmpty (fun loose => expand run loose operand)
      (assignMissing name)
    drawChance name
    pure items
  | .selection name subscripted indirect change operands quoted => do
    let place := Item.octets [' '] (← expandOperand run false 0 operands)
    let extent ← if subscripted then extentOf name (Word.isAll (operands.headD [])) place else pure .itself
    let label := labelOf name subscripted place
    let own := Worth.of (← get) name extent
    let isReference := indirect && !subscripted && (Variables.traitsOf (← get) name).contains 'n'
    let (name, extent) ← if indirect && !isReference then referredTo label own else pure (name, extent)
    let state ← get
    let worth := if isReference then .one (state.value? name) else Worth.of state name extent
    let subject := Subject.ofWorth state label quoted worth
    let changed (worth : Worth) : List Item := worth.items state quoted
    match change with
    | .treated treatment =>
      treat subject quoted treatment ((operands.drop 1).all List.isEmpty)
        (fun loose => expandOperand run loose 1 operands) fun value => do
          if subscripted then let _ ← Variables.assignMember name place value false
          else assignMissing name value
    | .substitution scope => do
      demandSet subject
      let pattern := Wildcard.parse true (Item.field [' '] (← expandOperand run false 1 operands))
      let image := Worth.replacement (Item.field [' '] (← expandOperand run false 2 operands))
      let folds := state.hasSwitch "nocasematch"
      pure (changed (worth.map (Worth.substituted folds scope pattern image)))
    | .slice => do
      demandSet subject
      let start ← Variables.calculate (Item.octets [' '] (← expandOperand run false 1 operands))
      let source := Item.octets [' '] (← expandOperand run false 2 operands)
      let length ← if operands.length > 2 then some <$> Variables.calculate source else pure none
      match worth.sliced (← get) name start length with
      | some worth => pure (changed worth)
      | none => Variables.forsake (source ++ .ofText ": substring expression < 0")
    | .casing casing every => do
      demandSet subject
      let pattern := Wildcard.parse true (Item.field [' '] (← expandOperand run false 1 operands))
      pure (changed (worth.map (Worth.cased casing every pattern)))
    | .shown letter => do
      demandSet subject
      return changed (← shownAs state name letter worth)
    | .keys =>
      let keys := match state.members? name with
        | some members => members.keys
        | none => if (state.parameter? name).isSome then [['0']] else []
      pure (changed (.several keys (place = ['*'])))
    | .names => pure (changed (.several (namesWith state name) (place = ['*'])))
  | .output script quoted => return Item.ofValue quoted (← run script)
  | .arithmetic expression quoted => do
    let source := Item.octets (← get).joint (← expand run false expression)
    return Item.ofValue quoted (← compute source)
  | .passage script writes => return Item.ofValue true (← openPassage script writes)
  | .senseless source => do
    if (← get).isExtended then Variables.forsake (.ofText "$\x7b" ++ source ++ .ofText ": bad substitution")
    else abort (.ofText "Bad substitution")

end

/-- The home of whoever runs the script, where nothing tells another one. -/
def usualHome : Octets := .ofText "/root"

/-- The directory that a name behind a tilde stands for. -/
def home? (state : State) (name : Octets) : Option Octets :=
  if name = [] then (state.value? (.ofText "HOME")).or (if state.isExtended then some usualHome else none)
  else if name = .ofText "root" then some usualHome
  else if state.isExtended && name = ['+'] then state.value? State.directoryVariable
  else if state.isExtended && name = ['-'] then state.value? State.formerVariable
  else none

/-- What joins several values to one text. -/
def jointOf (state : State) : Octets := if state.isExtended then [' '] else state.joint

/-- A word as one text. -/
def textOf (run : Script → Step Octets) (word : Word) : Step Octets := do
  let items ← expand run false (word.atHome (home? (← get)))
  return Item.octets (jointOf (← get)) items

/-- A word in which all arguments as one stand between quotes. -/
def joining (word : Word) : Word := word.map fun
  | .parameter ['*'] treatment operand _ => .parameter ['*'] treatment operand true
  | part => part

/-- A value that is to be assigned. -/
def valueOf (run : Script → Step Octets) (word : Word) : Step Octets := do
  let state ← get
  let word := Word.atHomes (home? state) (Word.atHome (home? state) word)
  let items ← expand run false (if state.isExtended then joining word else word)
  return Item.octets (jointOf (← get)) items

/-- A word as a pattern. -/
def fieldOf (run : Script → Step Octets) (word : Word) : Step Field := do
  let items ← expand run false (word.atHome (home? (← get)))
  return Item.field (jointOf (← get)) items

/-- Whether a pattern fits a text. -/
def fits (state : State) (pattern : Field) (text : Octets) : Bool :=
  if state.isExtended then Wildcard.fits (state.hasSwitch "nocasematch") (Wildcard.parse true pattern) text
  else Glyph.fits (Glyph.parse pattern) text

/-- The fields of a word without braces. -/
def plainFieldsOf (run : Script → Step Octets) (word : Word) : Step (List Octets) := do
  let items ← expand run false (word.atHome (home? (← get)))
  let state ← get
  let fields := Item.fields state.separators items
  let fitsNone (field : Field) : Bool := Field.isExpanded state field && (Field.found state field).isEmpty
  match if state.hasSwitch "failglob" then fields.find? fitsNone else none with
  | some field => Variables.forsake (.ofText "no match: " ++ field.octets)
  | none => pure (fields.flatMap (Field.paths state))

/-- The fields of a word. -/
def fieldsOf (run : Script → Step Octets) (word : Word) : Step (List Octets) := do
  let state ← get
  if state.isExtended && state.hasOption 'B' then return (← word.expandBraces.mapM (plainFieldsOf run)).flatten
  else plainFieldsOf run word

/-- The fields of an argument of a command that declares variables: one, if the argument
has the form of an assignment. -/
def declaredOf (run : Script → Step Octets) (word : Word) : Step (List Octets) := do
  match word.assignment?.filter fun (name, _) => Name.isChosen name with
  | some (name, value) => return [name ++ '=' :: (← valueOf run value)]
  | none => fieldsOf run word

/-- The fields of a command, of which the first one is its name. -/
def commandOf (run : Script → Step Octets) : List Word → Step (List Octets)
  | [] => pure []
  | word :: rest => do
    match ← fieldsOf run word with
    | [] => commandOf run rest
    | name :: fields => do
      let state ← get
      let declares := !state.isExtended && Builtin.declaring.contains (String.ofList name)
        && (state.process.functions.find? name).isNone
      let later ← rest.mapM fun word => if declares then declaredOf run word else fieldsOf run word
      pure (name :: fields ++ later.flatten)

/-- A redirection whose target is expanded. In the extended dialect what is no descriptor's number is the
path of a file for output and errors. -/
def redirectionOf (run : Script → Step Octets) (redirection : Redirection Word) :
    Step (List (Redirection Octets)) := do
  let target ← textOf run redirection.target
  let extended := (← get).isExtended
  let isNumber := target ≠ [] && (extended || target.length = 1) && target.all Name.isDigit
  let opening := redirection.opening
  let plain : Redirection Octets := {
    descriptor := redirection.descriptor, opening, target, holder := redirection.holder }
  match opening with
  | .duplicate =>
    if target = ['-'] || isNumber then pure [plain]
    else if extended && redirection.descriptor = 1 then
      pure [{ plain with opening := .output }, { descriptor := 2, opening := .duplicate, target := ['1'] }]
    else if extended then Variables.forsake (target ++ .ofText ": ambiguous redirect")
    else abort (.ofText "Syntax error: Bad fd number")
  | .phrase => pure [{ plain with opening := .document, target := target ++ ['\n'] }]
  | _ => pure [plain]

/-- Redirections whose targets are expanded. -/
def redirectionsOf (run : Script → Step Octets) (redirections : List (Redirection Word)) :
    Step (List (Redirection Octets)) := do
  return (← redirections.mapM (redirectionOf run)).flatten

/-- Members of an array that a script lists. One without a place makes as many as it has fields. -/
def listedOf (run : Script → Step Octets) : List (Member Word) → Step (List Variables.Listed)
  | [] => pure []
  | member :: rest => do
    let first : List Variables.Listed ← match member.place with
      | some place => do
        let place ← textOf run place
        let value ← valueOf run member.value
        pure [(some place, member.appends, value)]
      | none => do
        let fields ← fieldsOf run member.value
        pure (fields.map fun value => (none, false, value))
    let later ← listedOf run rest
    pure (first ++ later)

/-- Carries out an assignment: as a text, and whether the variable may change. -/
def carryOut (run : Script → Step Octets) (assignment : Assignment Word) : Step (Octets × Bool) := do
  let sign : Octets := if assignment.appends then ['+', '='] else ['=']
  match assignment.given with
  | .members list => do
    let allowed ← Variables.assignMembers assignment.name (← listedOf run list) assignment.appends
    pure (assignment.name ++ sign, allowed)
  | .word word => do
    let place ← assignment.place.mapM (textOf run)
    let value ← valueOf run word
    let extended := (← get).isExtended
    let allowed ← match place with
      | some place => Variables.assignMember assignment.name place value assignment.appends
      | none =>
        if extended then Variables.assign assignment.name value assignment.appends
        else do
          Builtin.assign assignment.name value
          pure true
    pure (labelOf assignment.name place.isSome (place.getD []) ++ sign ++ value, allowed)

/-- Carries out assignments, and yields them as texts. The variables may be exported. -/
def assignAll (run : Script → Step Octets) (exports : Bool) : List (Assignment Word) → Step (List Octets)
  | [] => pure []
  | assignment :: rest => do
    let (first, allowed) ← carryOut run assignment
    if !allowed && !exports then throw .dropped
    if exports && allowed then Builtin.mark assignment.name fun held => { held with exported := true }
    let later ← assignAll run exports rest
    pure (first :: later)

end Expansion
end ComponentViews.Shell
