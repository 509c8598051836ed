import ComponentViews.Shell.Regex
import ComponentViews.Shell.Utility.Naming

/-! Expressions of words: numbers and texts, joined by operators that are words of their own. -/

namespace ComponentViews.Shell.Utility

/-- Why words have no value. -/
inductive ExprFault where
  | noInteger
  | byZero
  | noOperand
  | missingBehind (word : Octets)
  | unexpected (word : Octets)

def ExprFault.message : ExprFault → Octets
  | .noInteger => .ofText "non-integer argument"
  | .byZero => .ofText "division by zero"
  | .noOperand => .ofText "missing operand"
  | .missingBehind word => .ofText "syntax error: missing argument after " ++ quoted word
  | .unexpected word => .ofText "syntax error: unexpected argument " ++ quoted word

/-- Operators of words and how tightly they bind. -/
def exprBinding : List (String × Nat) :=
  [("|", 1), ("&", 2), ("=", 3), ("==", 3), ("!=", 3), ("<", 3), ("<=", 3), (">", 3), (">=", 3), ("+", 4), ("-", 4),
    ("*", 5), ("/", 5), ("%", 5), (":", 6)]

/-- Whether a value counts as nothing. -/
def isNaught (value : Octets) : Bool := value.isEmpty || Format.integer? value = some 0

/-- What a pattern makes of a text: the text of its group, or how long the match is. -/
def matchedBy (text pattern : Octets) : Octets :=
  match Regex.parse .basic pattern with
  | .error _ => ['0']
  | .ok (regex, groups) =>
    let characters := text.toArray
    match regex.matchAt? characters 0 with
    | some found => if groups > 0 then found.group characters 1 else .ofNat found.last
    | none => if groups > 0 then [] else ['0']

def exprCombine (operator : String) (left right : Octets) : Except ExprFault Octets :=
  let flag (holds : Bool) : Except ExprFault Octets := .ok (if holds then ['1'] else ['0'])
  let compared (numbers : Int → Int → Bool) (texts : Ordering → Bool) : Except ExprFault Octets :=
    match Format.integer? left, Format.integer? right with
    | some left, some right => flag (numbers left right)
    | _, _ => flag (texts (if left = right then .eq else if Octets.atMost left right then .lt else .gt))
  let computed (operation : Int → Int → Except ExprFault Int) : Except ExprFault Octets :=
    match Format.integer? left, Format.integer? right with
    | some left, some right => (operation left right).map Expression.digits
    | _, _ => .error .noInteger
  match operator with
  | "|" => .ok (if !isNaught left then left else if !isNaught right then right else ['0'])
  | "&" => .ok (if isNaught left || isNaught right then ['0'] else left)
  | "=" => compared (fun a b => a = b) (· == .eq)
  | "==" => compared (fun a b => a = b) (· == .eq)
  | "!=" => compared (fun a b => a ≠ b) (· != .eq)
  | "<" => compared (fun a b => a < b) (· == .lt)
  | "<=" => compared (fun a b => a ≤ b) (· != .gt)
  | ">" => compared (fun a b => a > b) (· == .gt)
  | ">=" => compared (fun a b => a ≥ b) (· != .lt)
  | "+" => computed fun a b => .ok (a + b)
  | "-" => computed fun a b => .ok (a - b)
  | "*" => computed fun a b => .ok (a * b)
  | "/" => computed fun a b => if b = 0 then .error .byZero else .ok (a.tdiv b)
  | "%" => computed fun a b => if b = 0 then .error .byZero else .ok (a.tmod b)
  | _ => .ok (matchedBy left right)

mutual

/-- A word, a function of some, or an expression in parentheses. -/
def exprOperand : Nat → Octets → List Octets → Except ExprFault (Octets × List Octets)
  | 0, before, _ => .error (.missingBehind before)
  | _ + 1, before, [] => .error (.missingBehind before)
  | fuel + 1, _, word :: rest =>
    match String.ofList word with
    | "(" => do
      let (value, rest) ← exprJoined fuel 0 word rest
      match rest with
      | [')'] :: rest => pure (value, rest)
      | _ => .error (.missingBehind value)
    | "length" => do
      let (text, rest) ← exprOperand fuel word rest
      pure (.ofNat text.length, rest)
    | "index" => do
      let (text, rest) ← exprOperand fuel word rest
      let (among, rest) ← exprOperand fuel text rest
      let before := text.takeWhile fun c => !among.contains c
      pure (.ofNat (if before.length = text.length then 0 else before.length + 1), rest)
    | "substr" => do
      let (text, rest) ← exprOperand fuel word rest
      let (first, rest) ← exprOperand fuel text rest
      let (length, rest) ← exprOperand fuel first rest
      match Format.natural? first, Format.natural? length with
      | some (first + 1), some length => pure ((text.drop first).take length, rest)
      | _, _ => pure ([], rest)
    | "match" => do
      let (text, rest) ← exprOperand fuel word rest
      let (pattern, rest) ← exprOperand fuel text rest
      pure (matchedBy text pattern, rest)
    | "+" => match rest with
      | literal :: rest => .ok (literal, rest)
      | [] => .error (.missingBehind word)
    | _ => .ok (word, rest)

/-- Operands joined by operators that bind more tightly than a bound. -/
def exprJoined : Nat → Nat → Octets → List Octets → Except ExprFault (Octets × List Octets)
  | 0, _, before, _ => .error (.missingBehind before)
  | fuel + 1, bound, before, words => do
    let (first, rest) ← exprOperand fuel before words
    exprContinued fuel bound first rest

def exprContinued : Nat → Nat → Octets → List Octets → Except ExprFault (Octets × List Octets)
  | 0, _, left, _ => .error (.missingBehind left)
  | _ + 1, _, left, [] => .ok (left, [])
  | fuel + 1, bound, left, operator :: rest =>
    match exprBinding.lookup (String.ofList operator) with
    | none => .ok (left, operator :: rest)
    | some strength =>
      if strength ≤ bound then .ok (left, operator :: rest)
      else do
        let (right, rest) ← exprJoined fuel strength operator rest
        let value ← exprCombine (String.ofList operator) left right
        exprContinued fuel bound value rest

end

def exprValue (words : List Octets) : Except ExprFault Octets :=
  match words with
  | [] => .error .noOperand
  | words =>
    match exprJoined (4 * (words.length + 2)) 0 [] words with
    | .ok (value, []) => .ok value
    | .ok (_, word :: _) => .error (.unexpected word)
    | .error fault => .error fault

/-- Prints the value of its arguments, which is also told by the status. -/
def expr (arguments : List Octets) (state : State) : State :=
  let words := match arguments with
    | ['-', '-'] :: rest => rest
    | words => words
  match exprValue words with
  | .ok value => (state.print (value ++ ['\n'])).answer (!isNaught value)
  | .error .noOperand => (missingOperand "expr" state).withStatus 2
  | .error problem => (complain "expr" problem.message state).withStatus 2

end ComponentViews.Shell.Utility
