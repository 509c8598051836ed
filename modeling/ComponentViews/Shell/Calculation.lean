import ComponentViews.Shell.Arithmetic
import ComponentViews.Shell.State

/-! Expressions of the extended dialect. They are computed while they are read, since the value
of a variable is an expression in its turn: besides the operators that all shells know there
are powers, steps up and down, members of arrays, and numbers in other bases. What is read
without counting for the value changes nothing. -/

namespace ComponentViews.Shell

namespace Calculation

/-- A variable or a member of an array, as an expression names it. -/
structure Target where
  name : Octets
  place : Option Octets
  deriving DecidableEq, Repr

inductive Sign where
  | finish
  | number (value : Int)
  | target (target : Target)
  | operator (symbol : String)
  /-- Assigns a value, or what an operation makes of the old one and it. -/
  | assignment (symbol : Option String)
  /-- Adds or takes one, in front of a variable or behind it. -/
  | step (up before : Bool)
  deriving DecidableEq, Repr

/-- How far an expression has been read. -/
structure Reading where
  /-- The whole expression, as complaints name it. -/
  whole : Octets
  /-- What stands behind the current sign. -/
  rest : Octets
  /-- The current sign and what stands behind it. -/
  current : Octets
  sign : Sign
  /-- How many reasons there are for what is read not to count. -/
  idle : Nat
  /-- How many values of variables are computed around this one. -/
  depth : Nat
  state : State

end Calculation

/-- A calculation that may end with a complaint. -/
abbrev Calculation := StateT Calculation.Reading (Except Octets)

namespace Calculation

def failAt {α : Type} (message : String) (token : Octets) : Calculation α := fun reading =>
  .error (reading.whole ++ .ofText (": " ++ message ++ " (error token is \"") ++ token ++ ['"', ')'])

def fail {α : Type} (message : String) : Calculation α := do failAt message (← get).current

def isBlank (c : Char) : Bool := c = ' ' ∨ c = '\t' ∨ c = '\n'

/-- How long a subscript is behind its opening bracket. -/
def subscriptLength? : Nat → Octets → Option Nat
  | _, [] => none
  | 0, ']' :: _ => some 0
  | depth + 1, ']' :: rest => (subscriptLength? depth rest).map (· + 1)
  | depth, '[' :: rest => (subscriptLength? (depth + 1) rest).map (· + 1)
  | depth, _ :: rest => (subscriptLength? depth rest).map (· + 1)

def isDigitLike (c : Char) : Bool := Name.isInner c ∨ c = '#' ∨ c = '@'

/-- The digit that a character stands for. Above 36 capital letters count more than small ones. -/
def digitOf (base : Nat) (c : Char) : Nat :=
  if Name.isDigit c then c.toNat - '0'.toNat
  else if 'a' ≤ c ∧ c ≤ 'z' then c.toNat - 'a'.toNat + 10
  else if 'A' ≤ c ∧ c ≤ 'Z' then c.toNat - 'A'.toNat + (if base ≤ 36 then 10 else 36)
  else if c = '@' then 62
  else 63

/-- The number that digits of a base make up. -/
def ofDigits (base : Nat) (digits : Octets) : Except String Int :=
  digits.foldlM (fun value c =>
    let digit := digitOf base c
    if c = '#' then .error "invalid number"
    else if digit ≥ base then .error "value too great for base"
    else .ok (Expression.wrap (value * base + digit))) 0

/-- The number that a word is. Two leading signs may tell its base, or a decimal number in front does. -/
def number (word : Octets) : Except String Int :=
  match word with
  | ['0'] => .ok 0
  | '0' :: 'x' :: digits => ofDigits 16 digits
  | '0' :: 'X' :: digits => ofDigits 16 digits
  | '0' :: digits => ofDigits 8 digits
  | word =>
    let start := word.takeWhile (· ≠ '#')
    match word.drop start.length with
    | [] => ofDigits 10 word
    | _ :: digits => do
      let base ← ofDigits 10 start
      if base < 2 ∨ base > 64 then .error "invalid arithmetic base" else ofDigits base.toNat digits

/-- Signs of one character. -/
def signs : List Char := ['=', '>', '<', '!', '+', '-', '*', '/', '%', '&', '^', '|', '~', '(', ')', '?', ':', ',']

/-- The operator at the start of a text and its length, behind a variable or not. -/
def operatorAt (behindTarget : Bool) (text : Octets) : Sign × Nat :=
  let stands (symbol : String) : Bool := symbol.toList.isPrefixOf text
  let isStep := stands "++" || stands "--"
  let up := text.head? = some '+'
  if isStep && behindTarget then (.step up false, 2)
  else if isStep && ((text.drop 2).dropWhile isBlank).head?.any Name.isStart then (.step up true, 2)
  else match ["<<=", ">>="].find? stands with
    | some symbol => (.assignment (some (symbol.dropEnd 1).copy), 3)
    | none =>
      match ["==", "!=", ">=", "<=", "<<", ">>", "&&", "||", "**"].find? stands with
      | some symbol => (.operator symbol, 2)
      | none =>
        match ["*=", "/=", "%=", "+=", "-=", "&=", "^=", "|="].find? stands with
        | some symbol => (.assignment (some (symbol.dropEnd 1).copy), 2)
        | none => if stands "=" then (.assignment none, 1) else (.operator (String.ofList (text.take 1)), 1)

def Sign.isTarget : Sign → Bool
  | .target _ => true
  | _ => false

/-- Whether an operand may follow. -/
def Sign.wantsOperand : Sign → Bool
  | .target _ => false
  | .number _ => false
  | _ => true

/-- Goes on to the next sign. -/
def advance : Calculation Unit := do
  let reading ← get
  let text := reading.rest.dropWhile isBlank
  let goOn (sign : Sign) (length : Nat) : Calculation Unit :=
    set { reading with current := text, rest := text.drop length, sign }
  match text with
  | [] => set { reading with rest := [], sign := .finish }
  | c :: _ =>
    if Name.isStart c then
      let name := Name.chosenAt text
      match text.drop name.length with
      | '[' :: inner =>
        match subscriptLength? 0 inner with
        | some length => goOn (.target { name, place := some (inner.take length) }) (name.length + length + 2)
        | none => failAt "bad array subscript" text
      | _ => goOn (.target { name, place := none }) name.length
    else if Name.isDigit c then
      let word := text.takeWhile isDigitLike
      match number word with
      | .ok value => goOn (.number value) word.length
      | .error message => failAt message word
    else if signs.contains c then
      let (sign, length) := operatorAt reading.sign.isTarget text
      goOn sign length
    else if reading.sign.wantsOperand then failAt "syntax error: operand expected" text
    else failAt "syntax error: invalid arithmetic operator" text

/-- Takes a step that counts for nothing if that is asked for. -/
def idling {α : Type} (idle : Bool) (step : Calculation α) : Calculation α := do
  if idle then modify fun reading => { reading with idle := reading.idle + 1 }
  let result ← step
  if idle then modify fun reading => { reading with idle := reading.idle - 1 }
  pure result

def powerOf : Nat → Int → Nat → Int
  | 0, _, _ => 1
  | fuel + 1, base, exponent =>
    if exponent = 0 then 1
    else
      let half := powerOf fuel (Expression.wrap (base * base)) (exponent / 2)
      if exponent % 2 = 1 then Expression.wrap (half * base) else half

/-- How deep values of variables may be computed within each other. -/
def greatestDepth : Nat := 1024

def unquoted (text : Octets) : Octets :=
  match text with
  | '"' :: rest => if rest.getLast? = some '"' then rest.dropLast else text
  | '\'' :: rest => if rest.getLast? = some '\'' then rest.dropLast else text
  | text => text

def readonlyMessage (name : Octets) : Octets := name ++ .ofText ": readonly variable"

/-- Stores a value. -/
def store (target : Target) (key : Option Octets) (value : Int) : Calculation Unit := do
  let reading ← get
  if reading.idle = 0 then
    let state := reading.state
    let name := state.referent State.mostReferences target.name
    if state.isFixed name then throw (readonlyMessage name)
    let digits := Expression.digits value
    let changed := match key with
      | some key => state.putMember name key digits
      | none => if (state.members? name).isSome then state.putMember name ['0'] digits else state.assign name digits
    set { reading with state := changed }

/-- The binding of the operators that a level joins. -/
def tightest : Nat := 10

mutual

/-- The value of a text as an expression of its own. -/
def nested : Nat → Octets → Calculation Int
  | 0, _ => fail "expression recursion level exceeded"
  | fuel + 1, text => do
    let outer ← get
    let whole := text.dropWhile isBlank
    if whole = [] then pure 0
    else if outer.depth ≥ greatestDepth then
      set { outer with whole, current := whole }
      fail "expression recursion level exceeded"
    else do
      set { outer with whole, rest := whole, current := whole, sign := .finish, idle := 0, depth := outer.depth + 1 }
      advance
      let value ← sequence fuel
      if (← get).sign ≠ .finish then fail "syntax error in expression"
      modify fun inner => { outer with state := inner.state }
      pure value

/-- What a member is found by. -/
def keyOf : Nat → Target → Calculation (Option Octets)
  | 0, _ => pure none
  | fuel + 1, target => do
    match target.place with
    | none => pure none
    | some place => do
      let reading ← get
      let members := (reading.state.members? target.name).getD (.empty false)
      if members.keyed then pure (some (unquoted place))
      else if reading.idle > 0 then pure (some ['0'])
      else do
        let number ← nested fuel place
        let number := if number < 0 then number + members.nextNumber else number
        if number < 0 then throw (target.name ++ .ofText ": bad array subscript")
        else pure (some (Nat.toDigits 10 number.toNat))

/-- The value of a variable. -/
def lookUp : Nat → Target → Calculation Int
  | 0, _ => pure 0
  | fuel + 1, target => do
    if (← get).idle > 0 then pure 0
    else do
      let key ← keyOf fuel target
      let reading ← get
      let state := reading.state
      let found := match key with
        | none => state.parameter? target.name
        | some key =>
          match state.members? target.name with
          | some members => members.find? key
          | none => if key = ['0'] then state.parameter? target.name else none
      if target.name = .ofText "RANDOM" then
        set { reading with state := state.adjust fun process => { process with seed := (State.chance process.seed).2 } }
      match found with
      | none =>
        if state.hasOption 'u' then throw (target.name ++ .ofText ": unbound variable") else pure 0
      | some text => nested fuel text

def sequence : Nat → Calculation Int
  | 0 => fail "expression recursion level exceeded"
  | fuel + 1 => do
    let value ← assigned fuel
    if (← get).sign = .operator "," then do
      advance
      sequence fuel
    else pure value

def assigned : Nat → Calculation Int
  | 0 => fail "expression recursion level exceeded"
  | fuel + 1 => do
    let (value, target) ← chosen fuel
    match (← get).sign, target with
    | .assignment _, none => fail "attempted assignment to non-variable"
    | .assignment symbol, some target => do
      advance
      let new ← assigned fuel
      let combined ← match symbol with
        | none => pure new
        | some symbol =>
          match Expression.combine symbol value new with
          | .ok combined => pure combined
          | .error _ => if (← get).idle > 0 then pure 0 else fail "division by 0"
      if (← get).idle = 0 then store target (← keyOf fuel target) combined
      pure combined
    | _, _ => pure value

/-- A value, or one of two that a condition chooses between; with the variable that it is, if it is one. -/
def chosen : Nat → Calculation (Int × Option Target)
  | 0 => fail "expression recursion level exceeded"
  | fuel + 1 => do
    let (condition, target) ← joined fuel 1
    if (← get).sign = .operator "?" then do
      advance
      if (← get).sign = .finish || (← get).sign = .operator ":" then fail "expression expected"
      let yes ← idling (condition = 0) (sequence fuel)
      if (← get).sign ≠ .operator ":" then fail "\x60:' expected for conditional expression"
      advance
      if (← get).sign = .finish then fail "expression expected"
      let (no, _) ← idling (condition ≠ 0) (chosen fuel)
      pure (if condition ≠ 0 then yes else no, none)
    else pure (condition, target)

/-- Operands joined by operators that bind at least as tightly as a level tells. -/
def joined : Nat → Nat → Calculation (Int × Option Target)
  | 0, _ => fail "expression recursion level exceeded"
  | fuel + 1, level => do
    let first ← if level > tightest then raised fuel else joined fuel (level + 1)
    continued fuel level first

def continued : Nat → Nat → Int × Option Target → Calculation (Int × Option Target)
  | 0, _, _ => fail "expression recursion level exceeded"
  | fuel + 1, level, first => do
    let reading ← get
    match reading.sign with
    | .operator symbol =>
      if Expression.binding.lookup symbol ≠ some level then pure first
      else do
        let behind := reading.rest.dropWhile isBlank
        advance
        let settled := symbol = "||" && first.1 ≠ 0 || symbol = "&&" && first.1 = 0
        let (second, _) ← idling settled (if level ≥ tightest then raised fuel else joined fuel (level + 1))
        let value ← if symbol = "||" then pure (Expression.ofFlag (first.1 ≠ 0 || second ≠ 0))
          else if symbol = "&&" then pure (Expression.ofFlag (first.1 ≠ 0 && second ≠ 0))
          else match Expression.combine symbol first.1 second with
            | .ok value => pure value
            | .error _ => if (← get).idle > 0 then pure 0 else failAt "division by 0" behind
        continued fuel level (value, none)
    | _ => pure first

/-- A power, whose exponent may be one in its turn. -/
def raised : Nat → Calculation (Int × Option Target)
  | 0 => fail "expression recursion level exceeded"
  | fuel + 1 => do
    let (base, target) ← signed fuel
    if (← get).sign = .operator "**" then do
      advance
      let (exponent, _) ← raised fuel
      if exponent < 0 then fail "exponent less than 0"
      else pure (powerOf 64 base exponent.toNat, none)
    else pure (base, target)

def signed : Nat → Calculation (Int × Option Target)
  | 0 => fail "expression recursion level exceeded"
  | fuel + 1 => do
    match (← get).sign with
    | .operator symbol =>
      if ["-", "+", "!", "~"].contains symbol then do
        advance
        let (value, _) ← signed fuel
        pure (Expression.applySign symbol value, none)
      else primary fuel
    | _ => primary fuel

/-- A number, a variable, or an expression in parentheses. -/
def primary : Nat → Calculation (Int × Option Target)
  | 0 => fail "expression recursion level exceeded"
  | fuel + 1 => do
    match (← get).sign with
    | .number value => do
      advance
      pure (value, none)
    | .step up true => do
      advance
      match (← get).sign with
      | .target target => do
        let value := Expression.wrap ((← lookUp fuel target) + (if up then 1 else -1))
        if (← get).idle = 0 then store target (← keyOf fuel target) value
        modify fun reading => { reading with sign := .number value }
        advance
        pure (value, none)
      | _ => fail "identifier expected after pre-increment or pre-decrement"
    | .target target => do
      advance
      match (← get).sign with
      | .assignment none => pure (0, some target)
      | .step up false => do
        let value ← lookUp fuel target
        if (← get).idle = 0 then store target (← keyOf fuel target) (Expression.wrap (value + (if up then 1 else -1)))
        modify fun reading => { reading with sign := .number value }
        advance
        pure (value, none)
      | _ => do
        let value ← lookUp fuel target
        pure (value, some target)
    | .operator "(" => do
      advance
      let value ← sequence fuel
      if (← get).sign ≠ .operator ")" then fail "missing \x60)'"
      advance
      pure (value, none)
    | _ => fail "syntax error: operand expected"

end

/-- How much an expression may ask for. -/
def patience : Nat := 1000000

/-- The value of a text as an expression, and what it leaves behind. -/
def run (text : Octets) (state : State) : Except Octets (Int × State) :=
  let reading : Reading := { whole := text, rest := [], current := [], sign := .finish, idle := 0, depth := 0, state }
  (nested patience text reading).map fun (value, reading) => (value, reading.state)

/-- The key of a member: of an array with keys the place itself, of others the number that it computes to. -/
def placeOf (name place : Octets) (state : State) : Except Octets (Octets × State) :=
  let reading : Reading := { whole := place, rest := [], current := [], sign := .finish, idle := 0, depth := 0, state }
  (keyOf patience { name, place := some place } reading).map fun (key, reading) => (key.getD [], reading.state)

end Calculation
end ComponentViews.Shell
