import ComponentViews.Shell.Name

/-! Expressions in scripts: integers of 64 bits, variables by their names, and operators
by how tightly they bind. An expression is read as a whole before it is computed. -/

namespace ComponentViews.Shell

inductive Expression where
  | number (value : Int)
  | variable (name : Octets)
  | sign (symbol : String) (operand : Expression)
  | operation (symbol : String) (left right : Expression)
  | conditional (condition yes no : Expression)
  /-- Assigns a value, or what an operation makes of the old one and it. -/
  | assignment (name : Octets) (symbol : Option String) (value : Expression)
  deriving DecidableEq, Repr

namespace Expression

inductive Fault where
  | noPrimary
  | moreBehind
  | openParenthesis
  | noColon
  | divisionByZero
  /-- A variable holds no number. -/
  | noNumber (value : Octets)
  /-- A variable must not change. -/
  | fixed (name : Octets)
  deriving DecidableEq, Repr

inductive Sign where
  | number (value : Int)
  | name (value : Octets)
  | operator (symbol : String)
  deriving DecidableEq, Repr

/-- Operators of two operands and how tightly they bind. -/
def binding : List (String × Nat) :=
  [("||", 1), ("&&", 2), ("|", 3), ("^", 4), ("&", 5), ("==", 6), ("!=", 6), ("<=", 7), (">=", 7), ("<", 7), (">", 7),
    ("<<", 8), (">>", 8), ("+", 9), ("-", 9), ("*", 10), ("/", 10), ("%", 10)]

/-- Signs of one to three characters, each in front of those that start it. -/
def symbols : List String :=
  ["<<=", ">>=", "||", "&&", "==", "!=", "<=", ">=", "<<", ">>", "*=", "/=", "%=", "+=", "-=", "&=", "^=", "|=",
    "|", "^", "&", "<", ">", "+", "-", "*", "/", "%", "=", "!", "~", "(", ")", "?", ":"]

/-- The operation that an assignment starts with, if it is one. -/
def assignment? (symbol : String) : Option (Option String) :=
  if symbol = "=" then some none
  else if ["<<=", ">>=", "*=", "/=", "%=", "+=", "-=", "&=", "^=", "|="].contains symbol then
    some (some (symbol.dropEnd 1).copy)
  else none

def wordSize : Int := 18446744073709551616

def greatest : Int := 9223372036854775807

/-- The 64 bits of a result, read as a signed number. -/
def wrap (value : Int) : Int := value.bmod wordSize.toNat

def ofFlag (flag : Bool) : Int := if flag then 1 else 0

def bits (value : Int) : Nat := (value.emod wordSize).toNat

def onBits (operation : Nat → Nat → Nat) (left right : Int) : Int := wrap (operation (bits left) (bits right) : Nat)

/-- The value of an operation on two values. -/
def combine (symbol : String) (left right : Int) : Except Fault Int :=
  match symbol with
  | "|" => .ok (onBits Nat.lor left right)
  | "^" => .ok (onBits Nat.xor left right)
  | "&" => .ok (onBits Nat.land left right)
  | "==" => .ok (ofFlag (left = right))
  | "!=" => .ok (ofFlag (left ≠ right))
  | "<=" => .ok (ofFlag (left ≤ right))
  | ">=" => .ok (ofFlag (left ≥ right))
  | "<" => .ok (ofFlag (left < right))
  | ">" => .ok (ofFlag (left > right))
  | "<<" => .ok (wrap (left * (Nat.pow 2 (bits right % 64) : Nat)))
  | ">>" => .ok (left.fdiv (Nat.pow 2 (bits right % 64) : Nat))
  | "+" => .ok (wrap (left + right))
  | "-" => .ok (wrap (left - right))
  | "*" => .ok (wrap (left * right))
  | "/" => if right = 0 then .error .divisionByZero else .ok (wrap (left.tdiv right))
  | "%" => if right = 0 then .error .divisionByZero else .ok (wrap (left.tmod right))
  | _ => .error .noPrimary

def applySign (symbol : String) (value : Int) : Int :=
  match symbol with
  | "-" => wrap (-value)
  | "!" => ofFlag (value = 0)
  | "~" => -value - 1
  | _ => value

def digit? (base : Nat) (c : Char) : Option Nat :=
  let value := if Name.isDigit c then c.toNat - '0'.toNat
    else if 'a' ≤ c ∧ c ≤ 'z' then c.toNat - 'a'.toNat + 10
    else if 'A' ≤ c ∧ c ≤ 'Z' then c.toNat - 'A'.toNat + 10
    else base
  if value < base then some value else none

/-- The number that digits of a base make up at the start of a text, and the rest. -/
def readDigits (base : Nat) (value : Nat) : Octets → Nat × Octets
  | [] => (value, [])
  | c :: rest =>
    match digit? base c with
    | some digit => readDigits base (value * base + digit) rest
    | none => (value, c :: rest)

/-- The number at the start of a text: decimal, octal after a zero, hexadecimal after a
zero and an `x`. -/
def readNumber (text : Octets) : Nat × Octets :=
  match text with
  | '0' :: x :: c :: rest =>
    if (x = 'x' ∨ x = 'X') ∧ (digit? 16 c).isSome then readDigits 16 0 (c :: rest) else readDigits 8 0 text
  | '0' :: _ => readDigits 8 0 text
  | text => readDigits 10 0 text

/-- The number that a text is, in a variable. Blanks may stand around it. -/
def number? (text : Octets) : Option Int :=
  let isBlank (c : Char) : Bool := c ∈ [' ', '\t', '\n']
  let text := text.dropWhile isBlank
  let (negative, digits) := match text with
    | '-' :: rest => (true, rest)
    | '+' :: rest => (false, rest)
    | rest => (false, rest)
  let (value, rest) := readNumber digits
  let value : Int := if negative then -value else value
  if text = [] then some 0
  else if !digits.head?.any Name.isDigit || !rest.all isBlank then none
  else some (max (-greatest - 1) (min greatest value))

def isBlank (c : Char) : Bool := c = ' ' ∨ c = '\t' ∨ c = '\n'

/-- The signs of a text. -/
def scan : Nat → Octets → Except Fault (List Sign)
  | 0, _ => .error .noPrimary
  | _ + 1, [] => .ok []
  | fuel + 1, c :: rest =>
    let text := c :: rest
    if isBlank c then scan fuel rest
    else if Name.isDigit c then
      let (value, rest) := readNumber text
      (scan fuel rest).map (.number (min greatest value) :: ·)
    else if Name.isStart c then
      let name := Name.chosenAt text
      (scan fuel (text.drop name.length)).map (.name name :: ·)
    else
      match symbols.find? fun symbol => symbol.toList.isPrefixOf text with
      | some symbol => (scan fuel (text.drop symbol.length)).map (.operator symbol :: ·)
      | none => .ok [.operator (String.ofList [c])]

mutual

/-- A number, a variable, a sign in front of an operand, or an expression in parentheses. -/
def operand : Nat → List Sign → Except Fault (Expression × List Sign)
  | 0, _ => .error .noPrimary
  | _ + 1, .number value :: rest => .ok (.number value, rest)
  | _ + 1, .name name :: rest => .ok (.variable name, rest)
  | fuel + 1, .operator symbol :: rest =>
    if ["-", "+", "!", "~"].contains symbol then
      (operand fuel rest).map fun (inner, rest) => (.sign symbol inner, rest)
    else if symbol = "(" then
      match whole fuel rest with
      | .ok (inner, .operator ")" :: rest) => .ok (inner, rest)
      | .ok _ => .error .openParenthesis
      | .error fault => .error fault
    else .error .noPrimary
  | _ + 1, [] => .error .noPrimary

/-- Operands joined by operators that bind more tightly than a bound. -/
def joined : Nat → Nat → List Sign → Except Fault (Expression × List Sign)
  | 0, _, _ => .error .noPrimary
  | fuel + 1, bound, signs => do
    let (first, rest) ← operand fuel signs
    continued fuel bound first rest

/-- The rest of such a chain behind its first operand. -/
def continued : Nat → Nat → Expression → List Sign → Except Fault (Expression × List Sign)
  | 0, _, _, _ => .error .noPrimary
  | fuel + 1, bound, left, .operator symbol :: rest =>
    match binding.lookup symbol with
    | none => .ok (left, .operator symbol :: rest)
    | some strength =>
      if strength ≤ bound then .ok (left, .operator symbol :: rest)
      else do
        let (right, rest) ← joined fuel strength rest
        continued fuel bound (.operation symbol left right) rest
  | _ + 1, _, left, rest => .ok (left, rest)

/-- An assignment, or a chain that may choose between two further expressions. -/
def whole : Nat → List Sign → Except Fault (Expression × List Sign)
  | 0, _ => .error .noPrimary
  | fuel + 1, signs => do
    let assigned := match signs with
      | .name name :: .operator symbol :: rest => (assignment? symbol).map fun symbol => (name, symbol, rest)
      | _ => none
    match assigned with
    | some (name, symbol, rest) =>
      let (value, rest) ← whole fuel rest
      pure (.assignment name symbol value, rest)
    | none =>
      let (condition, rest) ← joined fuel 0 signs
      match rest with
      | .operator "?" :: rest =>
        let (yes, rest) ← whole fuel rest
        match rest with
        | .operator ":" :: rest =>
          let (no, rest) ← whole fuel rest
          pure (.conditional condition yes no, rest)
        | _ => .error .noColon
      | rest => pure (condition, rest)

end

/-- The expression that a text spells out. -/
def parse (text : Octets) : Except Fault Expression := do
  let signs ← scan (text.length + 1) text
  match ← whole (8 * (signs.length + 1)) signs with
  | (expression, []) => pure expression
  | _ => .error .moreBehind

/-- Where variables are read and written. -/
structure Memory (σ : Type) where
  value : Octets → σ → Octets
  assign : Octets → Octets → σ → Option σ

def digits (value : Int) : Octets :=
  if value < 0 then '-' :: Nat.toDigits 10 value.natAbs else Nat.toDigits 10 value.natAbs

/-- The number that a variable holds, zero where it holds none. -/
def lookUp {σ : Type} (memory : Memory σ) (name : Octets) (state : σ) : Except Fault Int :=
  let value := memory.value name state
  match number? value with
  | some found => .ok found
  | none => .error (.noNumber value)

/-- The value of an expression, and what its assignments leave behind. What does not count
for the value is not computed. -/
def compute {σ : Type} (memory : Memory σ) : Expression → σ → Except Fault (Int × σ)
  | .number value, state => .ok (value, state)
  | .variable name, state => (lookUp memory name state).map (·, state)
  | .sign symbol operand, state => do
    let (value, state) ← compute memory operand state
    pure (applySign symbol value, state)
  | .operation symbol left right, state => do
    let (first, state) ← compute memory left state
    if symbol = "&&" ∧ first = 0 then pure (0, state)
    else if symbol = "||" ∧ first ≠ 0 then pure (1, state)
    else
      let (second, state) ← compute memory right state
      if symbol = "&&" ∨ symbol = "||" then pure (ofFlag (second ≠ 0), state)
      else
        let value ← combine symbol first second
        pure (value, state)
  | .conditional condition yes no, state => do
    let (value, state) ← compute memory condition state
    if value ≠ 0 then compute memory yes state else compute memory no state
  | .assignment name symbol value, state => do
    let (new, state) ← compute memory value state
    let new ← match symbol with
      | none => pure new
      | some symbol => do
        let old ← lookUp memory name state
        combine symbol old new
    match memory.assign name (digits new) state with
    | some state => pure (new, state)
    | none => .error (.fixed name)

/-- What the shell says about a fault in an expression. -/
def Fault.message (source : Octets) : Fault → Octets
  | .noPrimary => inExpression "expecting primary"
  | .moreBehind => inExpression "expecting EOF"
  | .openParenthesis => inExpression "expecting ')'"
  | .noColon => inExpression "expecting ':'"
  | .divisionByZero => inExpression "division by zero"
  | .noNumber value => .ofText "Illegal number: " ++ value
  | .fixed name => name ++ .ofText ": is read only"
where
  inExpression (cause : String) : Octets := .ofText ("arithmetic expression: " ++ cause ++ ": \"") ++ source ++ ['"']

end Expression
end ComponentViews.Shell
