import ComponentViews.Shell.Utility.Options
import ComponentViews.Shell.Utility.Test

/-! The programs that test values and files. How many words there are tells how a few of them are read;
more are read as alternatives of tests that are joined. -/

namespace ComponentViews.Shell.Utility

namespace Verdict

/-- Why a test makes no sense. -/
inductive Fault where
  | invalidInteger (word : Octets)
  | missingArgument
  | unaryExpected (word : Octets)
  | binaryExpected (word : Octets)
  | parenthesisExpected (found : Option Octets)
  | surplus (word : Octets)
  | nesting

/-- What is said about words that make no sense, of which the last one is given. -/
def Fault.message (last : Octets) : Fault → Octets
  | .invalidInteger word => .ofText "invalid integer " ++ quoted word
  | .missingArgument => .ofText "missing argument after " ++ quoted last
  | .unaryExpected word => quoted word ++ .ofText ": unary operator expected"
  | .binaryExpected word => quoted word ++ .ofText ": binary operator expected"
  | .parenthesisExpected none => .ofText "')' expected"
  | .parenthesisExpected (some found) => .ofText "')' expected, found " ++ quoted found
  | .surplus word => .ofText "extra argument " ++ quoted word
  | .nesting => .ofText "nested too deeply"

/-- Reads words: what they say, and those behind. -/
abbrev Reading := List Octets → Except Fault (Bool × List Octets)

def binaryOperators : List String := ["=", "==", "!=", "-nt", "-ot", "-ef"] ++ Test.relations.map Prod.fst

def isBinary (word : Octets) : Bool := binaryOperators.contains (String.ofList word)

def isOption : Octets → Bool
  | ['-', _] => true
  | _ => false

def number (word : Octets) : Except Fault Int :=
  match Test.integer? word with
  | some number => .ok number
  | none => .error (.invalidInteger word)

/-- One word, which says whether it is empty. -/
def one : Reading
  | [] => .error .missingArgument
  | word :: rest => .ok (!word.isEmpty, rest)

/-- An operator and its argument. -/
def unary (state : State) : Reading
  | ['-', letter] :: rest => do
    let some (argument, rest) := rest.head?.map (·, rest.drop 1) | .error .missingArgument
    match letter with
    | 'n' => pure (!argument.isEmpty, rest)
    | 'z' => pure (argument.isEmpty, rest)
    | 't' => (number argument).map fun _ => (false, rest)
    | 'N' => pure (false, rest)
    | letter =>
      if "bcdefghkLpOrsSuwxG".toList.contains letter then pure (Test.fileIs state letter argument, rest)
      else .error (.unaryExpected ['-', letter])
  | words => .error (.unaryExpected (words.headD []))

/-- The number that a word is, or the length of one that a mark stands in front of. -/
def measure (words : List Octets) : Except Fault (Int × List Octets) :=
  match words with
  | ['-', 'l'] :: word :: rest => .ok (word.length, rest)
  | word :: rest => (number word).map (·, rest)
  | [] => .error .missingArgument

/-- Two words and the operator between them; in front of the first one a mark may ask for its length. -/
def binary (state : State) (measuresLeft : Bool) (words : List Octets) : Except Fault (Bool × List Octets) :=
  let start := if measuresLeft then words.take 2 else words.take 1
  let left := start.getLastD []
  match words.drop start.length with
  | operator :: rest =>
    let measuresRight := decide (rest.length ≥ 2) && rest.head? = some ['-', 'l']
    match Test.relations.lookup (String.ofList operator), rest with
    | some holds, rest => do
      let (first, _) ← measure start
      let (second, behind) ← if measuresRight then measure rest else do
        let some word := rest.head? | .error .missingArgument
        pure (← number word, rest.drop 1)
      pure (holds first second, behind)
    | none, right :: behind =>
      let value := match String.ofList operator with
        | "!=" => left ≠ right
        | "-nt" => Test.isNewer state true left right
        | "-ot" => Test.isNewer state true right left
        | "-ef" => Test.areSame state left right
        | _ => left = right
      .ok (value, behind)
    | none, [] => .error .missingArgument
  | [] => .error .missingArgument

def two (state : State) : Reading
  | ['!'] :: rest => (one rest).map fun (value, rest) => (!value, rest)
  | words => if words.head?.any isOption then unary state words else .error .missingArgument

mutual

/-- Some words, of which the number tells how they are read. -/
def counted (state : State) : Nat → Nat → List Octets → Except Fault (Bool × List Octets)
  | 0, _, _ => .error .nesting
  | fuel + 1, count, words =>
    match count, words with
    | 1, words => one words
    | 2, words => two state words
    | 3, words => three state fuel words
    | 4, ['!'] :: rest => do
      if rest.isEmpty then .error .missingArgument
      let (value, rest) ← three state fuel rest
      pure (!value, rest)
    | 4, ['('] :: rest =>
      if rest[2]? = some [')'] then (two state rest).map fun (value, rest) => (value, rest.drop 1)
      else anyOf state fuel words
    | _, words => anyOf state fuel words

def three (state : State) : Nat → List Octets → Except Fault (Bool × List Octets)
  | 0, _ => .error .nesting
  | fuel + 1, words =>
    let second := (words[1]?).getD []
    if isBinary second then binary state false words
    else match words with
      | ['!'] :: rest => (two state rest).map fun (value, rest) => (!value, rest)
      | words =>
        if words.head? = some ['('] && words[2]? = some [')'] then
          (one (words.drop 1)).map fun (value, rest) => (value, rest.drop 1)
        else if second = ['-', 'a'] || second = ['-', 'o'] then anyOf state fuel words
        else .error (.binaryExpected second)

/-- Alternatives. -/
def anyOf (state : State) : Nat → List Octets → Except Fault (Bool × List Octets)
  | 0, _ => .error .nesting
  | fuel + 1, words => do
    let (first, rest) ← allOf state fuel words
    match rest with
    | ['-', 'o'] :: rest => do
      let (second, rest) ← anyOf state fuel rest
      pure (first || second, rest)
    | rest => pure (first, rest)

def allOf (state : State) : Nat → List Octets → Except Fault (Bool × List Octets)
  | 0, _ => .error .nesting
  | fuel + 1, words => do
    let (first, rest) ← term state fuel words
    match rest with
    | ['-', 'a'] :: rest => do
      let (second, rest) ← allOf state fuel rest
      pure (first && second, rest)
    | rest => pure (first, rest)

/-- A single test, perhaps negated or between parentheses. -/
def term (state : State) : Nat → List Octets → Except Fault (Bool × List Octets)
  | 0, _ => .error .nesting
  | _ + 1, [] => .error .missingArgument
  | fuel + 1, ['!'] :: rest => (term state fuel rest).map fun (value, rest) => (!value, rest)
  | fuel + 1, ['('] :: rest => do
    if rest.isEmpty then .error .missingArgument
    let behind := (rest.drop 1).takeWhile (· ≠ [')'])
    let count := if behind.length ≥ 4 || (behind.length ≥ 3 && (rest.drop 4).head? ≠ some [')'])
      then rest.length else behind.length + 1
    let (value, rest) ← counted state fuel count rest
    match rest with
    | [')'] :: rest => pure (value, rest)
    | rest => .error (.parenthesisExpected rest.head?)
  | _ + 1, words =>
    if words.length ≥ 4 && words.head? = some ['-', 'l'] && (words[2]?).any isBinary then binary state true words
    else if words.length ≥ 3 && (words[1]?).any isBinary then binary state false words
    else if words.head?.any isOption then unary state words
    else one words

end

/-- What all words say. -/
def holds (state : State) (words : List Octets) : Except Fault Bool :=
  if words.isEmpty then .ok false
  else do
    let (value, rest) ← counted state (8 * (words.length + 2)) words.length words
    match rest with
    | word :: _ => .error (.surplus word)
    | [] => pure value

end Verdict

/-- Tests values and files. -/
def judge (command : String) (arguments : List Octets) (state : State) : State :=
  match Verdict.holds state arguments with
  | .ok value => state.answer value
  | .error fault => (complain command (fault.message (arguments.getLastD [])) state).withStatus 2

/-- A test whose last argument closes the bracket that its name opens. -/
def judgeBracketed (arguments : List Octets) (state : State) : State :=
  if arguments.getLast? = some [']'] then judge "[" arguments.dropLast state
  else (complain "[" (.ofText "missing ']'") state).withStatus 2

end ComponentViews.Shell.Utility
