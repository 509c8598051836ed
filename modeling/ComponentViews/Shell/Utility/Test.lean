import ComponentViews.Shell.Arithmetic
import ComponentViews.Shell.Format
import ComponentViews.Shell.Place

/-! Tests of values and files as a shell knows them, and how tests are joined there. A word counts as an
operator only where what follows lets it. -/

namespace ComponentViews.Shell.Test

/-- Why a test makes no sense. -/
inductive Fault where
  | illegalNumber (word : Octets)
  | unexpected (word : Octets)
  | argumentExpected (operator : Octets)
  | openParenthesis
  | nesting

def Fault.message : Fault → Octets
  | .illegalNumber word => .ofText "Illegal number: " ++ word
  | .unexpected word => word ++ .ofText ": unexpected operator"
  | .argumentExpected operator => operator ++ .ofText ": argument expected"
  | .openParenthesis => .ofText "closing paren expected"
  | .nesting => .ofText "nested too deeply"

/-! ### Values and files -/

/-- Whether a file is as an operator of one letter asks for. -/
def fileIs (state : State) (letter : Char) (path : Octets) : Bool :=
  let kind? := state.kind? path
  let hasMode (bits : Nat) : Bool := (state.mode? path).any fun mode => mode &&& bits ≠ 0
  match letter with
  | 'f' => kind? = some .file
  | 'd' => kind? = some .directory
  | 'p' => kind? = some .pipe
  | 'c' => kind? = some .device
  | 'x' => state.isExecutable path || kind? = some .directory
  | 's' =>
    match state.entry? path with
    | some (.file content _) => !content.bytes.isEmpty
    | some .directory => true
    | none => false
  | 'h' => (state.link? path).isSome
  | 'L' => (state.link? path).isSome
  | 'u' => hasMode 0o4000
  | 'g' => hasMode 0o2000
  | 'k' => hasMode 0o1000
  | letter => ['e', 'a', 'r', 'w', 'O', 'G'].contains letter && kind?.isSome

/-- Whether two paths lead to the same file. -/
def areSame (state : State) (left right : Octets) : Bool :=
  (state.entry? left).isSome &&
    (state.files.locate (state.pathOf left)).toOption = (state.files.locate (state.pathOf right)).toOption

/-- Whether one file has been changed later than another; one that is missing may count as older than
all others. -/
def isNewer (state : State) (evenMissing : Bool) (left right : Octets) : Bool :=
  match state.changed? left, state.changed? right with
  | some left, some right => left > right
  | some _, none => evenMissing
  | none, _ => false

/-- How numbers compare by the name of a relation. -/
def relations : List (String × (Int → Int → Bool)) :=
  [("-eq", fun a b => a = b), ("-ne", fun a b => a ≠ b), ("-lt", fun a b => a < b), ("-le", fun a b => a ≤ b),
    ("-gt", fun a b => a > b), ("-ge", fun a b => a ≥ b)]

/-- The number that a word is, between blanks perhaps. -/
def integer? (word : Octets) : Option Int :=
  let isSpace (c : Char) : Bool := c = ' ' || ('\t' ≤ c && c ≤ '\r')
  Format.integer? ((word.dropWhile isSpace).reverse.dropWhile isSpace).reverse

/-- The same if it fits into the numbers of a machine. -/
def bounded? (word : Octets) : Option Int :=
  (integer? word).filter fun value => -Expression.greatest - 1 ≤ value && value ≤ Expression.greatest

def number (word : Octets) : Except Fault Int :=
  match bounded? word with
  | some number => .ok number
  | none => .error (.illegalNumber word)

/-- The value of a test with one argument. -/
def unary (state : State) (operator argument : Octets) : Except Fault Bool :=
  match operator with
  | ['-', 'n'] => .ok !argument.isEmpty
  | ['-', 'z'] => .ok argument.isEmpty
  | ['-', 't'] => (number argument).map fun _ => false
  | ['-', letter] => .ok (fileIs state letter argument)
  | _ => .ok false

/-- The value of a test with two arguments. -/
def binary (state : State) (left operator right : Octets) : Except Fault Bool :=
  match String.ofList operator with
  | "=" => .ok (left = right)
  | "!=" => .ok (left ≠ right)
  | "<" => .ok (left ≠ right && Octets.atMost left right)
  | ">" => .ok (left ≠ right && Octets.atMost right left)
  | "-ef" => .ok (areSame state left right)
  | "-nt" => .ok (isNewer state false left right)
  | "-ot" => .ok (isNewer state false right left)
  | name =>
    match relations.lookup name with
    | some holds => do pure (holds (← number left) (← number right))
    | none => .ok false

/-! ### Words -/

def unaryLetters : List Char :=
  ['n', 'z', 'e', 'f', 'd', 'r', 'w', 'x', 's', 'h', 'L', 'p', 'S', 'b', 'c', 'O', 'G', 'u', 'g', 'k', 't']

def binaryOperators : List String := ["=", "!=", "<", ">", "-nt", "-ot", "-ef"] ++ relations.map Prod.fst

def isBinary (word : Octets) : Bool := binaryOperators.contains (String.ofList word)

/-- What a word is where it stands. -/
inductive Token where
  | ending
  | operand
  | unary
  | binary
  | negation
  | both
  | either
  | opening
  | closing
  deriving DecidableEq, Repr

/-- What the first of some words is. An operator with one argument stands for itself at the end and in
front of an operator with two. -/
def Token.read : List Octets → Token
  | [] => .ending
  | ['!'] :: _ => .negation
  | ['-', 'a'] :: _ => .both
  | ['-', 'o'] :: _ => .either
  | ['('] :: rest => if rest.isEmpty then .operand else .opening
  | [')'] :: _ => .closing
  | word :: rest =>
    if isBinary word then .binary
    else match word with
      | ['-', letter] =>
        let standsAlone := match rest with
          | [] => true
          | [_] => false
          | next :: _ => isBinary next
        if unaryLetters.contains letter && !standsAlone then .unary else .operand
      | _ => .operand

mutual

/-- Alternatives: their value, and the words from the last one on that counts. -/
def anyOf (state : State) : Nat → Token → List Octets → Except Fault (Bool × List Octets)
  | 0, _, _ => .error .nesting
  | fuel + 1, token, words => do
    let (first, words) ← allOf state fuel token words
    if Token.read (words.drop 1) = .either then
      let (second, words) ← anyOf state fuel (Token.read (words.drop 2)) (words.drop 2)
      pure (first || second, words)
    else pure (first, words)

def allOf (state : State) : Nat → Token → List Octets → Except Fault (Bool × List Octets)
  | 0, _, _ => .error .nesting
  | fuel + 1, token, words => do
    let (first, words) ← negated state fuel token words
    if Token.read (words.drop 1) = .both then
      let (second, words) ← allOf state fuel (Token.read (words.drop 2)) (words.drop 2)
      pure (first && second, words)
    else pure (first, words)

def negated (state : State) : Nat → Token → List Octets → Except Fault (Bool × List Octets)
  | 0, _, _ => .error .nesting
  | fuel + 1, .negation, words => do
    let token := Token.read (words.drop 1)
    let (value, words) ← negated state fuel token (if token = .ending then words else words.drop 1)
    pure (!value, words)
  | fuel + 1, token, words => primary state fuel token words

def primary (state : State) : Nat → Token → List Octets → Except Fault (Bool × List Octets)
  | 0, _, _ => .error .nesting
  | _ + 1, .ending, words => .ok (false, words)
  | fuel + 1, .opening, words => do
    let token := Token.read (words.drop 1)
    if token = .closing then pure (false, words.drop 1)
    else
      let (value, words) ← anyOf state fuel token (words.drop 1)
      if Token.read (words.drop 1) = .closing then pure (value, words.drop 1) else .error .openParenthesis
  | _ + 1, .unary, words =>
    match words.drop 1 with
    | [] => .error (.argumentExpected (words.headD []))
    | argument :: rest => (unary state (words.headD []) argument).map (·, argument :: rest)
  | _ + 1, _, words =>
    match words with
    | left :: operator :: rest =>
      if Token.read (operator :: rest) = .binary then
        match rest with
        | [] => .error (.argumentExpected operator)
        | right :: _ => (binary state left operator right).map (·, rest)
      else .ok (!left.isEmpty, words)
    | words => .ok (words.any fun word => !word.isEmpty, words)

end

/-- What words say when they are joined. -/
def joined (state : State) (token : Token) (words : List Octets) : Except Fault Bool := do
  let (value, rest) ← anyOf state (4 * (words.length + 2)) token words
  match rest with
  | last :: _ :: _ => .error (.unexpected last)
  | _ => pure value

/-- What a test says, unless it makes no sense. The number of words tells how a few are to be read. -/
def holds (state : State) : List Octets → Except Fault Bool
  | [] => .ok false
  | ['!'] :: second :: third :: rest =>
    if rest.isEmpty && isBinary second then joined state .operand [['!'], second, third]
    else if rest.length ≤ 1 then (holds state (second :: third :: rest)).map not
    else joined state .negation (['!'] :: second :: third :: rest)
  | words =>
    let inner := (words.drop 1).dropLast
    if words.length = 3 && words[1]?.any isBinary then joined state .operand words
    else if (words.length = 3 || words.length = 4) && words.head? = some ['('] && words.getLast? = some [')'] then
      joined state (Token.read inner) inner
    else joined state (Token.read words) words

end ComponentViews.Shell.Test
