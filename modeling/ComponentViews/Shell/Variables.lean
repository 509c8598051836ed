import ComponentViews.Shell.Calculation
import ComponentViews.Shell.Quoting
import ComponentViews.Shell.Step

/-! Variables of the extended dialect: what they take of the values that are assigned to them, arrays
and their members, and the commands that would make them. -/

namespace ComponentViews.Shell

namespace Variables
open Step

/-- Complains, and ends the commands on the line. -/
def forsake {α : Type} (message : Octets) : Step α := do
  modify fun state => (state.complain message).withStatus 1
  throw .dropped

/-- Complains, and ends the commands on the line, or a script that stands among the arguments of the shell. -/
def abandon {α : Type} (message : Octets) : Step α := do
  modify fun state => (state.complain message).withStatus 1
  throw (if (← get).hasOption 'c' then .exited else .dropped)

/-- The value of an expression. -/
def calculate (text : Octets) : Step Int := do
  match Calculation.run text (← get) with
  | .ok (value, state) => do
    set state
    pure value
  | .error message => forsake message

/-- What a member is found by that a place between brackets tells. -/
def keyOf (name place : Octets) : Step Octets := do
  match Calculation.placeOf name place (← get) with
  | .ok (key, state) => do
    set state
    pure key
  | .error message =>
    if (Octets.ofText ": bad array subscript").reverse.isPrefixOf message.reverse then forsake message
    else abandon message

def capitalized : Octets → Octets
  | [] => []
  | c :: rest => c.toUpper :: rest.map Char.toLower

/-- What a variable with traits takes of a value that comes behind the old one or in its place. -/
def admitted (traits : List Char) (old : Octets) (appends : Bool) (value : Octets) : Step Octets := do
  if traits.contains 'i' then
    let former ← if appends then calculate old else pure 0
    let added ← calculate value
    pure (Expression.digits (Expression.wrap (former + added)))
  else
    let whole := if appends then old ++ value else value
    pure (if traits.contains 'u' then whole.map Char.toUpper
      else if traits.contains 'l' then whole.map Char.toLower
      else if traits.contains 'c' then capitalized whole
      else whole)

/-- The variable itself that a name stands for. -/
def referent (name : Octets) : Step Octets := do
  let state ← get
  pure (state.referent State.mostReferences name)

/-- Whether a variable may change; complains if it may not. -/
def mayChange (name : Octets) : Step Bool := do
  if (← get).isFixed name then
    modify fun state => (state.complain (Calculation.readonlyMessage name)).withStatus 1
    pure false
  else pure true

def traitsOf (state : State) (name : Octets) : List Char := ((state.held? name).map Variable.traits).getD []

/-- Puts a value into an array. -/
def putMember (name key value : Octets) (appends : Bool) : Step Unit := do
  let state ← get
  let old := ((state.members? name).bind (·.find? key)).getD (if key = ['0'] then (state.value? name).getD [] else [])
  let value ← admitted (traitsOf state name) old appends value
  modify (·.putMember name key value)

/-- Gives a variable a value, in the place of the old one or behind it; an array takes it for its first
member. Tells whether it may. -/
def assign (name value : Octets) (appends : Bool) : Step Bool := do
  let name ← referent name
  if !(← mayChange name) then pure false
  else do
    let state ← get
    if name = .ofText "RANDOM" then
      let seed := (Expression.number? value).getD 0
      set (state.adjust fun process => { process with seed := seed.toNat })
    else if (state.members? name).isSome then putMember name ['0'] value appends
    else do
      let value ← admitted (traitsOf state name) ((state.value? name).getD []) appends value
      modify (·.assign name value)
    pure true

/-- Gives a member of an array a value. -/
def assignMember (name place value : Octets) (appends : Bool) : Step Bool := do
  let name ← referent name
  if !(← mayChange name) then pure false
  else do
    let isKeyed := ((← get).members? name).any Members.keyed
    let named := name ++ '[' :: place ++ [']']
    if place = [] then forsake (named ++ .ofText ": bad array subscript")
    let key ← match Calculation.placeOf name place (← get) with
      | .ok (key, state) => do
        set state
        pure key
      | .error message =>
        forsake (if !isKeyed && message = name ++ .ofText ": bad array subscript" then
          named ++ .ofText ": bad array subscript" else message)
    putMember name key value appends
    pure true

/-- Members as a list of them gives them: with a place or without. -/
abbrev Listed := Option Octets × Bool × Octets

/-- Puts listed members into an array, each without a place behind the one before. -/
def putListed (name : Octets) : Nat → List Listed → Step Unit
  | _, [] => pure ()
  | next, (place, appends, value) :: rest => do
    let key ← match place with
      | some place => keyOf name place
      | none => pure (Nat.toDigits 10 next)
    putMember name key value appends
    putListed name (if place.isSome then Members.numberOf key + 1 else next + 1) rest

/-- Puts listed keys, each with the value behind it, into an array. -/
def putPairs (name : Octets) : List Listed → Step Unit
  | [] => pure ()
  | (some place, appends, value) :: rest => do
    putMember name place value appends
    putPairs name rest
  | (none, _, key) :: (_, _, value) :: rest => do
    putMember name key value false
    putPairs name rest
  | [(none, _, key)] => putMember name key [] false

/-- Gives an array its members, in the place of the old ones or besides them. -/
def assignMembers (name : Octets) (listed : List Listed) (appends : Bool) : Step Bool := do
  let name ← referent name
  if !(← mayChange name) then pure false
  else do
    let state ← get
    let held := (state.held? name).getD { value := none, exported := false, fixed := false }
    let former := held.members.getD (.ofList held.value.toList)
    let members := if appends then former else .empty former.keyed
    let traits := held.traits.filter (· ≠ '-')
    set (state.bind name { held with value := none, members := some members, traits })
    if former.keyed then putPairs name listed
    else putListed name members.nextNumber listed
    pure true

/-- Gives an array the members of a list. -/
def setList (name : Octets) (values : List Octets) : Step Unit := do
  let name ← referent name
  modify fun state =>
    let held := (state.held? name).getD { value := none, exported := false, fixed := false }
    state.bind name { held with value := none, members := some (.ofList values) }

/-! ### Describing -/

/-- The letters of what a variable is. -/
def letters (held : Variable) : List Char :=
  let has (letter : Char) : List Char := if held.traits.contains letter then [letter] else []
  (match held.members with
    | some members => [if members.keyed then 'A' else 'a']
    | none => has 'a' ++ has 'A') ++
  has 'i' ++ has 'n' ++ (if held.fixed then ['r'] else []) ++ (if held.exported then ['x'] else []) ++
  has 'c' ++ has 'l' ++ has 'u'

/-- Members as a list of them in a script. -/
def listOf (members : Members) : Octets :=
  let isPlain (key : Octets) : Bool := key.all fun c => Name.isInner c || c ∈ ['.', '-', '/', ':', '+', '%', '@', ',']
  let entry (member : Octets × Octets) : Octets :=
    '[' :: (if isPlain member.1 then member.1 else Quoting.declared member.1) ++ [']', '='] ++ Quoting.declared member.2
  let entries := members.entries.map entry
  '(' :: (if members.keyed then entries.flatMap (· ++ [' ']) else [' '].intercalate entries) ++ [')']

/-- The command that makes a variable. -/
def declaration (name : Octets) (held : Variable) : Octets :=
  let letters := letters held
  let start : Octets := .ofText "declare -" ++ (if letters = [] then ['-'] else letters) ++ ' ' :: name
  match held.members, held.value with
  | some members, _ => if members.entries.isEmpty && held.traits.contains '-' then start else start ++ '=' :: listOf members
  | none, some value => start ++ '=' :: Quoting.declared value
  | none, none => start

end Variables
end ComponentViews.Shell
