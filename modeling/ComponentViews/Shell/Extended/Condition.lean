import ComponentViews.Shell.Builtin
import ComponentViews.Shell.Extended.Setting
import ComponentViews.Shell.Regex
import ComponentViews.Shell.Selection

/-! Conditions of the extended dialect: on one word, on two, with patterns and expressions, and
the command that takes them as arguments. -/

namespace ComponentViews.Shell.Builtin.Extended
open Step

/-- Whether a parameter is set that a text names, or a member of one. -/
def isSet (text : Octets) : Step Bool := do
  let name := Name.parameterAt text
  match text.drop name.length with
  | '[' :: inner =>
    let place := inner.dropLast
    let state ← get
    if place = ['@'] || place = ['*'] then pure (decide ((Worth.of state name (.all false)).size ≠ 0))
    else
      let key ← Variables.keyOf name place
      pure !(Worth.of (← get) name (.member key)).isUnset
  | [] => pure ((← get).parameter? name).isSome
  | _ => pure false

/-- Whether a file or a value is as an operator asks for. -/
def plainly (state : State) (operator word : Octets) : Bool :=
  match operator with
  | ['-', 'n'] => !word.isEmpty
  | ['-', 'z'] => word.isEmpty
  | ['-', 't'] => false
  | ['-', letter] => Test.fileIs state letter word
  | _ => false

/-- How two words compare by an operator that is not for numbers. -/
def compares (state : State) (left operator right : Octets) : Bool :=
  match String.ofList operator with
  | "!=" => left ≠ right
  | "<" => left ≠ right && Octets.atMost left right
  | ">" => left ≠ right && Octets.atMost right left
  | "-ef" => Test.areSame state left right
  | "-nt" => Test.isNewer state true left right
  | "-ot" => Test.isNewer state true right left
  | _ => left = right

/-- Whether a word meets a condition. -/
def unary (operator : String) (text : Octets) : Step Bool := do
  let state ← get
  match operator with
  | "-v" => isSet text
  | "-o" => pure (Setting.isOn state (String.ofList text))
  | "-R" => pure ((state.held? text).any fun held => held.traits.contains 'n' && held.value.isSome)
  | operator => pure (plainly state operator.toList text)

/-- Whether two words meet a condition. Numbers may be expressions. -/
def binary (left : Octets) (operator : String) (right : Octets) : Step Bool := do
  match Test.relations.lookup operator with
  | some compare => do
    let left ← Variables.calculate left
    let right ← Variables.calculate right
    pure (compare left right)
  | none => pure (compares (← get) left operator.toList right)

/-- Characters that mean something in expressions. -/
def regexSigns : List Char := ['\\', '^', '$', '.', '[', ']', '|', '(', ')', '*', '+', '?', '\x7b', '\x7d']

/-- Whether an expression fits somewhere in a text. Its groups are left in an array. -/
def matchesRegex (text : Octets) (pattern : Field) : Step Bool := do
  let source := pattern.flatMap fun (c, quoted) => if quoted && regexSigns.contains c then ['\\', c] else [c]
  match Regex.parse .extended source with
  | .error _ => do
    setStatus 2
    throw .dropped
  | .ok (regex, groups) => do
    let regex := if (← get).hasSwitch "nocasematch" then regex.ignoringCase else regex
    let letters := text.toArray
    let found := regex.find? letters 0
    Variables.setList (.ofText "BASH_REMATCH") (match found with
      | some found => Regex.part letters found.first found.last ::
        (List.range groups).map fun index => found.group letters (index + 1)
      | none => [])
    pure found.isSome

/-! ### The command -/

/-- A number as the command takes it. -/
def plainNumber (word : Octets) : Except Octets Int :=
  match Test.bounded? word with
  | some number => .ok number
  | none => .error (word ++ .ofText ": integer expression expected")

def isUnary : Octets → Bool
  | ['-', letter] => Test.unaryLetters.contains letter || ['v', 'o', 'R', 'a', 'N'].contains letter
  | _ => false

def isBinary (word : Octets) : Bool := word = ['=', '='] || Test.isBinary word

/-- What a test of one word needs to know beyond files: which options are on and parameters set. -/
structure Outlook where
  state : State
  isSet : Octets → Bool

namespace Outlook

def unary (outlook : Outlook) (operator word : Octets) : Bool :=
  match String.ofList operator with
  | "-v" => outlook.isSet word
  | "-o" => Setting.isOn outlook.state (String.ofList word)
  | "-R" => (outlook.state.held? word).any fun held => held.traits.contains 'n' && held.value.isSome
  | _ => plainly outlook.state operator word

def binary (outlook : Outlook) (left operator right : Octets) : Except Octets Bool :=
  match Test.relations.lookup (String.ofList operator) with
  | some compare => do
    let left ← plainNumber left
    let right ← plainNumber right
    pure (compare left right)
  | none => .ok (compares outlook.state left operator right)

def one (word : Octets) : Bool := !word.isEmpty

def two (outlook : Outlook) (first second : Octets) : Except Octets Bool :=
  if first = ['!'] then .ok second.isEmpty
  else if isUnary first then .ok (outlook.unary first second)
  else .error (first ++ .ofText ": unary operator expected")

def three (outlook : Outlook) (first second third : Octets) : Except Octets Bool :=
  if isBinary second then outlook.binary first second third
  else if second = ['-', 'a'] then .ok (one first && one third)
  else if second = ['-', 'o'] then .ok (one first || one third)
  else if first = ['!'] then (outlook.two second third).map (!·)
  else if first = ['('] && third = [')'] then .ok (one second)
  else .error (second ++ .ofText ": binary operator expected")

mutual

def anyOf (outlook : Outlook) : Nat → List Octets → Except Octets (Bool × List Octets)
  | 0, _ => .error (.ofText "too many arguments")
  | fuel + 1, words => do
    let (first, rest) ← allOf outlook fuel words
    match rest with
    | ['-', 'o'] :: rest =>
      let (second, rest) ← anyOf outlook fuel rest
      pure (first || second, rest)
    | rest => pure (first, rest)

def allOf (outlook : Outlook) : Nat → List Octets → Except Octets (Bool × List Octets)
  | 0, _ => .error (.ofText "too many arguments")
  | fuel + 1, words => do
    let (first, rest) ← term outlook fuel words
    match rest with
    | ['-', 'a'] :: rest =>
      let (second, rest) ← allOf outlook fuel rest
      pure (first && second, rest)
    | rest => pure (first, rest)

def term (outlook : Outlook) : Nat → List Octets → Except Octets (Bool × List Octets)
  | 0, _ => .error (.ofText "too many arguments")
  | _ + 1, [] => .error (.ofText "argument expected")
  | fuel + 1, ['!'] :: rest => (term outlook fuel rest).map fun (value, rest) => (!value, rest)
  | fuel + 1, ['('] :: rest => do
    let (value, rest) ← anyOf outlook fuel rest
    match rest with
    | [')'] :: rest => pure (value, rest)
    | [] => .error (.ofText "\x60)' expected")
    | found :: _ => .error (.ofText "\x60)' expected, found " ++ found)
  | _ + 1, left :: operator :: right :: rest =>
    if isBinary operator then (outlook.binary left operator right).map (·, rest)
    else if isUnary left then .ok (outlook.unary left operator, right :: rest)
    else .ok (one left, operator :: right :: rest)
  | _ + 1, [operator, word] => if isUnary operator then .ok (outlook.unary operator word, []) else .ok (one operator, [word])
  | _ + 1, [word] => .ok (one word, [])

end

/-- What words say as a test. -/
def holds (outlook : Outlook) (words : List Octets) : Except Octets Bool :=
  match words with
  | [] => .ok false
  | [word] => .ok (one word)
  | [first, second] => outlook.two first second
  | [first, second, third] => outlook.three first second third
  | [first, second, third, fourth] =>
    if first = ['!'] then (outlook.three second third fourth).map (!·)
    else if first = ['('] && fourth = [')'] then outlook.two second third
    else general words
  | words => general words
where
  general (words : List Octets) : Except Octets Bool := do
    match ← outlook.anyOf (4 * (words.length + 2)) words with
    | (value, []) => pure value
    | _ => .error (.ofText "too many arguments")

end Outlook

/-- Whether a text names a parameter that is set, with members found by plain keys. -/
def isPlainlySet (state : State) (text : Octets) : Bool :=
  let name := Name.parameterAt text
  match text.drop name.length with
  | [] => (state.parameter? name).isSome
  | '[' :: inner =>
    let place := inner.dropLast
    if place = ['@'] || place = ['*'] then (Worth.of state name (.all false)).size ≠ 0
    else match Calculation.placeOf name place state with
      | .ok (key, _) => !(Worth.of state name (.member key)).isUnset
      | .error _ => false
  | _ => false

def test (arguments : List Octets) : Step Unit := do
  let state ← get
  let outlook : Outlook := { state, isSet := isPlainlySet state }
  match outlook.holds arguments with
  | .ok value => setStatus (if value then 0 else 1)
  | .error message => fail 2 message

/-- The same up to a closing bracket. -/
def bracket (arguments : List Octets) : Step Unit :=
  if arguments.getLast? = some [']'] then test arguments.dropLast else fail 2 (.ofText "missing \x60]'")

end ComponentViews.Shell.Builtin.Extended
