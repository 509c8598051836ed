import ComponentViews.Shell.Awk.Script
import ComponentViews.Shell.Regex

/-! Reading scripts for records: from the characters to signs, and from those to rules and
functions. Whether a slash divides or opens a pattern shows in the sign in front of it. -/

namespace ComponentViews.Shell.Awk

inductive Sign where
  | number (value : Real)
  | quoted (value : Octets)
  | regex (source : Octets)
  | name (value : Octets)
  /-- A name with a parenthesis right behind it. -/
  | called (value : Octets)
  | keyword (value : String)
  | builtin (value : String)
  | mark (value : String)
  | newline
  deriving DecidableEq, Repr

inductive Fault where
  | unexpected (line : Nat) (near : Octets)
  /-- A character that starts no sign. -/
  | strange (line : Nat) (value : Char)
  | missingBrace (line : Nat)
  | extraBrace (line : Nat)
  | missingParenthesis (line : Nat)
  | openText (line : Nat) (start : Octets)
  | openRegex (line : Nat) (start : Octets)
  | undefined (line : Nat) (name : Octets)
  /-- A function that every script has is called with too few or too many arguments. -/
  | arguments (line : Nat) (name : String)
  /-- Numbers that are too large or too small, each with its line and how it is spelled. -/
  | range (numbers : List (Nat × Octets))
  deriving DecidableEq, Repr

def Fault.message : Fault → Octets
  | .unexpected line near =>
    atLine line ++ .ofText "syntax error at or near " ++ (if near = [] then .ofText "end of line" else near)
  | .strange line c => .ofNat line ++ .ofText ": unexpected character '" ++ [c, '\'']
  | .extraBrace line => atLine line ++ .ofText "extra '\x7d'"
  | .missingParenthesis line => atLine line ++ .ofText "missing ) near end of line"
  | .missingBrace line => atLine line ++ .ofText "missing \x7d near end of file"
  | .openText line start => atLine line ++ .ofText "runaway string constant \"" ++ start ++ .ofText " ..."
  | .openRegex line start => atLine line ++ .ofText "runaway regular expression /" ++ start ++ .ofText " ..."
  | .arguments line name => atLine line ++ .ofText ("wrong number of arguments in call to " ++ name)
  | .range numbers =>
    let complaint (number : Nat × Octets) : Octets :=
      let nought := ((Numeral.readDecimal? number.2).any fun read => (Real.ofNumeral read.1).isZero)
      atLine number.1 ++ number.2 ++ .ofText (if nought then " : decimal underflow" else " : decimal overflow")
    (Octets.ofText "\nawk: ").intercalate (numbers.map complaint)
  | .undefined line name => atLine line ++ .ofText "function " ++ name ++ .ofText " never defined"
where
  atLine (line : Nat) : Octets := .ofText ("line " ++ toString line ++ ": ")

namespace Sign

def keywords : List String :=
  ["BEGIN", "END", "function", "if", "else", "while", "for", "do", "break", "continue", "next", "nextfile", "exit",
    "return", "delete", "in", "getline", "print", "printf"]

/-- The functions that every script has, with the least and the greatest number of arguments. -/
def builtins : List (String × Nat × Nat) :=
  [("length", 0, 1), ("substr", 2, 3), ("index", 2, 2), ("split", 2, 3), ("sub", 2, 3), ("gsub", 2, 3), ("match", 2, 2),
    ("sprintf", 1, 256), ("int", 1, 1), ("sqrt", 1, 1), ("tolower", 1, 1), ("toupper", 1, 1), ("system", 1, 1),
    ("close", 1, 1), ("fflush", 0, 1), ("sin", 1, 1), ("cos", 1, 1), ("atan2", 2, 2), ("exp", 1, 1), ("log", 1, 1),
    ("rand", 0, 0), ("srand", 0, 1), ("systime", 0, 0), ("strftime", 0, 3), ("mktime", 1, 1)]

/-- Functions whose arguments are read as part of the grammar. -/
def grammatical : List String := ["length", "split", "sub", "gsub", "match"]

def symbols : List String :=
  ["&&", "||", "==", "!=", "<=", ">=", ">>", "++", "--", "+=", "-=", "*=", "/=", "%=", "^=", "!~", "\x7b", "\x7d",
    "(", ")", "[", "]", ";", ",", "+", "-", "*", "/", "%", "^", "!", ">", "<", "|", "?", ":", "~", "$", "="]

/-- Whether a slash behind a sign divides. -/
def endsOperand : Option Sign → Bool
  | some (.number _) => true
  | some (.quoted _) => true
  | some (.regex _) => true
  | some (.name _) => true
  | some (.builtin _) => true
  | some (.mark symbol) => [")", "]", "++", "--", "$"].contains symbol
  | _ => false

/-- What a text stands for: octets with escapes resolved, up to a double quote if it is
quoted, and the rest. -/
def readText (quoted : Bool) : Nat → Octets → Option (Octets × Octets)
  | 0, _ => none
  | _ + 1, [] => if quoted then none else some ([], [])
  | fuel + 1, '\\' :: '\n' :: rest => readText quoted fuel rest
  | fuel + 1, '\\' :: '"' :: rest => (readText quoted fuel rest).map fun (text, rest) => ('"' :: text, rest)
  | fuel + 1, '\\' :: rest =>
    let (found, rest) := escape rest
    (readText quoted fuel rest).map fun (text, rest) => (found ++ text, rest)
  | fuel + 1, c :: rest =>
    if quoted ∧ c = '"' then some ([], rest)
    else if quoted ∧ c = '\n' then none
    else (readText quoted fuel rest).map fun (text, rest) => (c :: text, rest)
where
  escape (rest : Octets) : Octets × Octets :=
    match rest with
    | 'x' :: digits =>
      let digits := (digits.take 2).takeWhile fun c => (Shell.Expression.digit? 16 c).isSome
      if digits = [] then Format.readEscape rest
      else ([Format.octet (Shell.Expression.readDigits 16 0 digits).1], rest.drop (1 + digits.length))
    | rest => Format.readEscape rest

/-- A text with its escapes resolved. -/
def resolved (text : Octets) : Octets := ((readText false (text.length + 1) text).map Prod.fst).getD text

/-- The source of a pattern between slashes, and the rest. A slash between brackets does not end it. -/
def readRegex : Nat → Octets → Option (Octets × Octets)
  | 0, _ => none
  | _ + 1, [] => none
  | _ + 1, '/' :: rest => some ([], rest)
  | _ + 1, '\n' :: _ => none
  | fuel + 1, '\\' :: '/' :: rest => (readRegex fuel rest).map fun (source, rest) => ('/' :: source, rest)
  | fuel + 1, '\\' :: c :: rest => (readRegex fuel rest).map fun (source, rest) => ('\\' :: c :: source, rest)
  | fuel + 1, '[' :: rest =>
    match Regex.readSet true (rest.takeWhile (· ≠ '\n')) with
    | none => none
    | some (inner, _) =>
      (readRegex fuel (rest.drop (inner.length + 1))).map fun (source, rest) => ('[' :: inner ++ ']' :: source, rest)
  | fuel + 1, c :: rest => (readRegex fuel rest).map fun (source, rest) => (c :: source, rest)

/-- The sign of a name, with a text behind it. -/
def ofName (name rest : Octets) : Sign :=
  let text := String.ofList name
  if keywords.contains text then .keyword text
  else if (builtins.lookup text).isSome then .builtin text
  else if rest.head? = some '(' then .called name
  else .name name

/-- The signs of a source, each with its line and how it is spelled. -/
def scan : Nat → Nat → Option Sign → Octets → Except Fault (List (Sign × Nat × Octets))
  | 0, _, _, _ => .ok []
  | _ + 1, _, _, [] => .ok []
  | fuel + 1, line, _, '\n' :: rest => (scan fuel (line + 1) (some .newline) rest).map ((.newline, line, []) :: ·)
  | fuel + 1, line, before, '\\' :: '\n' :: rest => scan fuel (line + 1) before rest
  | fuel + 1, line, before, '#' :: rest => scan fuel line before (rest.dropWhile (· ≠ '\n'))
  | fuel + 1, line, _, '"' :: rest =>
    match readText true (rest.length + 1) rest with
    | none => .error (.openText line rest)
    | some (text, behind) => goOn fuel line (.quoted text) ('"' :: rest) behind
  | fuel + 1, line, before, c :: rest =>
    if Name.isBlank c ∨ c = '\r' then scan fuel line before rest
    else if c = '/' ∧ !endsOperand before then
      match readRegex (rest.length + 1) rest with
      | none => .error (.openRegex line rest)
      | some (source, behind) => goOn fuel line (.regex source) (c :: rest) behind
    else if Name.isStart c then
      let name := Name.chosenAt (c :: rest)
      let behind := (c :: rest).drop name.length
      goOn fuel line (ofName name behind) (c :: rest) behind
    else if Name.isDigit c ∨ (c = '.' ∧ rest.head?.any Name.isDigit) then
      match Real.read? (c :: rest) with
      | some (value, behind) => goOn fuel line (.number value) (c :: rest) behind
      | none => .error (.unexpected line [c])
    else
      match symbols.find? fun symbol => symbol.toList.isPrefixOf (c :: rest) with
      | some symbol => goOn fuel line (.mark symbol) (c :: rest) ((c :: rest).drop symbol.length)
      | none => .error (.strange line c)
where
  goOn (fuel line : Nat) (sign : Sign) (start behind : Octets) :
      Except Fault (List (Sign × Nat × Octets)) :=
    (scan fuel line (some sign) behind).map ((sign, line, start.take (start.length - behind.length)) :: ·)

end Sign

/-- What is left of the signs, and the line of the last one taken. -/
structure Reading where
  rest : List (Sign × Nat × Octets)
  line : Nat

abbrev Reader := StateT Reading (Except Fault)

namespace Reader

def peek? : Reader (Option Sign) := do return (← get).rest.head?.map Prod.fst

def second? : Reader (Option Sign) := do return (← get).rest[1]?.map Prod.fst

def drop : Reader Unit := modify fun reading =>
  match reading.rest with
  | (_, line, _) :: rest => { rest, line }
  | [] => reading

/-- The line of the next sign. -/
def currentLine : Reader Nat := fun reading =>
  .ok ((reading.rest.head?.map fun sign => sign.2.1).getD reading.line, reading)

/-- Fails at the next sign. -/
def refuse {α : Type} : Reader α := fun reading =>
  match reading.rest with
  | (_, line, near) :: _ => .error (.unexpected line near)
  | [] => .error (.missingBrace (reading.line + 1))

def isMark (symbol : String) : Reader Bool := do return (← peek?) = some (.mark symbol)

def isKeyword (word : String) : Reader Bool := do return (← peek?) = some (.keyword word)

/-- Takes a mark if it comes next. -/
def takes (symbol : String) : Reader Bool := do
  if ← isMark symbol then
    drop
    pure true
  else pure false

/-- Fails where a parenthesis is not closed on its line. -/
def refuseOpen : Reader Unit := fun reading =>
  .error (.missingParenthesis ((reading.rest.head?.map fun sign => sign.2.1).getD reading.line))

def expect (symbol : String) : Reader Unit := do
  if !(← takes symbol) then
    let next ← peek?
    if symbol = ")" ∧ (next = none ∨ next = some .newline) then refuseOpen else refuse

def expectKeyword (word : String) : Reader Unit := do
  if ← isKeyword word then drop else refuse

def expectName : Reader Octets := do
  match ← peek? with
  | some (.name name) => do
    drop
    pure name
  | _ => refuse

/-- Passes over ends of lines. -/
def skipLines : Nat → Reader Unit
  | 0 => pure ()
  | count + 1 => do
    if (← peek?) = some .newline then
      drop
      skipLines count

def skipAllLines : Reader Unit := do skipLines ((← get).rest.length + 1)

/-- Passes over what separates statements. -/
def skipSeparators : Nat → Reader Unit
  | 0 => pure ()
  | count + 1 => do
    match ← peek? with
    | some .newline => do
      drop
      skipSeparators count
    | some (.mark ";") => do
      drop
      skipSeparators count
    | _ => pure ()

def skipAllSeparators : Reader Unit := do skipSeparators ((← get).rest.length + 1)

def assignment? : Sign → Option (Option Operation)
  | .mark "=" => some none
  | .mark "+=" => some (some .add)
  | .mark "-=" => some (some .sub)
  | .mark "*=" => some (some .mul)
  | .mark "/=" => some (some .div)
  | .mark "%=" => some (some .mod)
  | .mark "^=" => some (some .power)
  | _ => none

/-- The comparison of a mark; in output a greater sign opens a file instead. -/
def comparison? (inOutput : Bool) : Sign → Option Comparison
  | .mark "<" => some .less
  | .mark "<=" => some .atMost
  | .mark "==" => some .equal
  | .mark "!=" => some .unequal
  | .mark ">=" => some .atLeast
  | .mark ">" => if inOutput then none else some .greater
  | _ => none

/-- Whether an operand that another one is joined to can start with a sign. -/
def startsOperand : Sign → Bool
  | .number _ => true
  | .quoted _ => true
  | .regex _ => true
  | .name _ => true
  | .called _ => true
  | .builtin _ => true
  | .mark symbol => ["$", "!", "(", "++", "--"].contains symbol
  | _ => false

mutual

/-- An expression: a condition that may choose between two others. -/
def readExpression : Nat → Bool → Reader Expression
  | 0, _ => refuse
  | fuel + 1, inOutput => do
    let condition ← readEither fuel inOutput
    if ← takes "?" then
      skipAllLines
      let yes ← readExpression fuel inOutput
      skipAllLines
      expect ":"
      skipAllLines
      let no ← readExpression fuel inOutput
      pure (.conditional condition yes no)
    else pure condition

def readEither : Nat → Bool → Reader Expression
  | 0, _ => refuse
  | fuel + 1, inOutput => do
    let left ← readBoth fuel inOutput
    continueEither fuel inOutput left

def continueEither : Nat → Bool → Expression → Reader Expression
  | 0, _, _ => refuse
  | fuel + 1, inOutput, left => do
    if ← takes "||" then
      skipAllLines
      let right ← readBoth fuel inOutput
      continueEither fuel inOutput (.either left right)
    else pure left

def readBoth : Nat → Bool → Reader Expression
  | 0, _ => refuse
  | fuel + 1, inOutput => do
    let left ← readMembership fuel inOutput
    continueBoth fuel inOutput left

def continueBoth : Nat → Bool → Expression → Reader Expression
  | 0, _, _ => refuse
  | fuel + 1, inOutput, left => do
    if ← takes "&&" then
      skipAllLines
      let right ← readMembership fuel inOutput
      continueBoth fuel inOutput (.both left right)
    else pure left

/-- Membership in an array, of what may fit a pattern. -/
def readMembership : Nat → Bool → Reader Expression
  | 0, _ => refuse
  | fuel + 1, inOutput => do
    let left ← readFitting fuel inOutput
    continueMembership fuel left

def continueMembership : Nat → Expression → Reader Expression
  | 0, _ => refuse
  | fuel + 1, left => do
    if ← isKeyword "in" then
      drop
      let array ← expectName
      continueMembership fuel (.membership [left] array)
    else pure left

def readFitting : Nat → Bool → Reader Expression
  | 0, _ => refuse
  | fuel + 1, inOutput => do
    let left ← readComparison fuel inOutput
    continueFitting fuel inOutput left

def continueFitting : Nat → Bool → Expression → Reader Expression
  | 0, _, _ => refuse
  | fuel + 1, inOutput, left => do
    let negated ← isMark "!~"
    if negated || (← isMark "~") then
      drop
      let pattern ← readComparison fuel inOutput
      continueFitting fuel inOutput (.fitting negated left pattern)
    else pure left

def readComparison : Nat → Bool → Reader Expression
  | 0, _ => refuse
  | fuel + 1, inOutput => do
    let left ← readJoined fuel inOutput
    match (← peek?).bind (comparison? inOutput) with
    | some kind => do
      drop
      let right ← readJoined fuel inOutput
      pure (.comparison kind left right)
    | none => pure left

/-- Operands that are joined, and records read from the command that they make. -/
def readJoined : Nat → Bool → Reader Expression
  | 0, _ => refuse
  | fuel + 1, inOutput => do
    let left ← readSum fuel
    continueJoined fuel inOutput left

def continueJoined : Nat → Bool → Expression → Reader Expression
  | 0, _, _ => refuse
  | fuel + 1, inOutput, left => do
    match ← peek?, ← second? with
    | some (.mark "|"), some (.keyword "getline") => do
      drop
      drop
      let place ← readPlace? fuel
      continueJoined fuel inOutput (.readRecord .command (some left) place)
    | some sign, _ =>
      if startsOperand sign then do
        let right ← readSum fuel
        continueJoined fuel inOutput (.concatenation left right)
      else pure left
    | none, _ => pure left

def readSum : Nat → Reader Expression
  | 0 => refuse
  | fuel + 1 => do
    let left ← readProduct fuel
    continueSum fuel left

def continueSum : Nat → Expression → Reader Expression
  | 0, _ => refuse
  | fuel + 1, left => do
    let adds ← isMark "+"
    if adds || (← isMark "-") then
      drop
      let right ← readProduct fuel
      continueSum fuel (.arithmetic (if adds then .add else .sub) left right)
    else pure left

def readProduct : Nat → Reader Expression
  | 0 => refuse
  | fuel + 1 => do
    let left ← readSigned fuel
    continueProduct fuel left

def continueProduct : Nat → Expression → Reader Expression
  | 0, _ => refuse
  | fuel + 1, left => do
    let operation := match ← peek? with
      | some (.mark "*") => some Operation.mul
      | some (.mark "/") => some .div
      | some (.mark "%") => some .mod
      | _ => none
    match operation with
    | some operation => do
      drop
      let right ← readSigned fuel
      continueProduct fuel (.arithmetic operation left right)
    | none => pure left

/-- Signs in front of a power. -/
def readSigned : Nat → Reader Expression
  | 0 => refuse
  | fuel + 1 => do
    if ← takes "!" then return .negation (← readSigned fuel)
    else if ← takes "-" then return .minus (← readSigned fuel)
    else if ← takes "+" then return .plus (← readSigned fuel)
    else
      let left ← readOperand fuel
      if ← takes "^" then return .arithmetic .power left (← readSigned fuel)
      else pure left

/-- A variable, an element of an array or a field, if one comes next. -/
def readPlace? : Nat → Reader (Option Place)
  | 0 => refuse
  | fuel + 1 => do
    match ← peek? with
    | some (.name name) => do
      drop
      if ← takes "[" then
        let indices ← readList fuel
        expect "]"
        pure (some (.element name indices))
      else pure (some (.named name))
    | some (.mark "$") => do
      drop
      let amount ← readAmount?
      match amount, ← readPlace? fuel with
      | some amount, some place => pure (some (.field (.increment place amount true)))
      | none, some place => pure (some (.field (.place place)))
      | some _, none => refuse
      | none, none => do
        if ← takes "-" then return some (.field (.minus (← readOperand fuel)))
        else return some (.field (← readOperand fuel))
    | _ => pure none

/-- What a pair of signs adds. -/
def readAmount? : Reader (Option Int) := do
  if ← takes "++" then pure (some 1)
  else if ← takes "--" then pure (some (-1))
  else pure none

/-- What operators work on; a place may be assigned to here. -/
def readOperand : Nat → Reader Expression
  | 0 => refuse
  | fuel + 1 => do
    match ← peek? with
    | some (.number value) => do
      drop
      pure (.number value)
    | some (.quoted value) => do
      drop
      pure (.text value)
    | some (.regex source) => do
      drop
      pure (.regex source)
    | some (.mark "(") => do
      drop
      let inner ← readList fuel
      expect ")"
      match inner with
      | [inner] => pure inner
      | indices => do
        expectKeyword "in"
        return .membership indices (← expectName)
    | some (.called name) => do
      drop
      expect "("
      skipAllLines
      let arguments ← if ← isMark ")" then pure [] else readList fuel
      expect ")"
      pure (.call name arguments)
    | some (.builtin name) => do
      drop
      if ← takes "(" then
        let arguments ← if ← isMark ")" then pure [] else readList fuel
        let (least, most) := (Sign.builtins.lookup name).getD (0, 0)
        let fits := least ≤ arguments.length && arguments.length ≤ most
        if !fits ∧ Sign.grammatical.contains name then refuse
        else
          let line ← currentLine
          expect ")"
          if fits then pure (.builtin name arguments) else fun _ => .error (.arguments line name)
      else if name = "length" then pure (.builtin name [])
      else refuse
    | some (.keyword "getline") => do
      drop
      let place ← readPlace? fuel
      if ← takes "<" then
        let path ← readOperand fuel
        pure (.readRecord .file (some path) place)
      else pure (.readRecord .input none place)
    | _ => do
      match ← readAmount? with
      | some amount =>
        match ← readPlace? fuel with
        | some place => pure (.increment place amount false)
        | none => refuse
      | none =>
        match ← readPlace? fuel with
        | none => refuse
        | some place =>
          match (← peek?).bind assignment? with
          | some operation => do
            drop
            skipAllLines
            let value ← readExpression fuel false
            pure (.assignment place operation value)
          | none =>
            match ← readAmount? with
            | some amount => pure (.increment place amount true)
            | none => pure (.place place)

/-- Expressions between commas. -/
def readList : Nat → Reader (List Expression)
  | 0 => refuse
  | fuel + 1 => do
    let first ← readExpression fuel false
    skipAllLines
    if ← takes "," then
      skipAllLines
      return first :: (← readList fuel)
    else pure [first]

end

/-- Expressions to be printed, between commas. -/
def readPrinted (fuel : Nat) : Nat → Reader (List Expression)
  | 0 => refuse
  | count + 1 => do
    let first ← readExpression fuel true
    if ← takes "," then
      skipAllLines
      return first :: (← readPrinted fuel count)
    else pure [first]

def endsStatement : Option Sign → Bool
  | none => true
  | some .newline => true
  | some (.mark symbol) => [";", "\x7d"].contains symbol
  | _ => false

def endsPrinted : Option Sign → Bool
  | some (.mark symbol) => [";", "\x7d", ">", ">>", "|"].contains symbol
  | sign => endsStatement sign

/-- What is to be printed; a list in parentheses may be all of it. -/
def readPrintedArguments (fuel : Nat) : Reader (List Expression) := do
  if endsPrinted (← peek?) then pure []
  else
    let start ← get
    let grouped : Reader (List Expression) := do
      expect "("
      let arguments ← readList fuel
      expect ")"
      if endsPrinted (← peek?) then pure arguments else refuse
    match grouped.run start with
    | .ok (arguments, behind) => do
      set behind
      pure arguments
    | .error _ => readPrinted fuel (start.rest.length + 1)

def outlet? : Option Sign → Option Outlet
  | some (.mark ">") => some .file
  | some (.mark ">>") => some .append
  | some (.mark "|") => some .command
  | _ => none

/-- A statement without statements in it. -/
def readPlain (fuel : Nat) : Reader Statement := do
  match ← peek? with
  | some (.keyword "print") => do
    drop
    readOutput false
  | some (.keyword "printf") => do
    drop
    readOutput true
  | some (.keyword "next") => do
    drop
    pure .next
  | some (.keyword "nextfile") => do
    drop
    pure .nextFile
  | some (.keyword "exit") => do
    drop
    return .exit (← readOptional)
  | some (.keyword "return") => do
    drop
    return .giveBack (← readOptional)
  | some (.keyword "break") => do
    drop
    pure .stop
  | some (.keyword "continue") => do
    drop
    pure .goOn
  | some (.keyword "delete") => do
    drop
    let array ← expectName
    if ← takes "[" then
      let indices ← readList fuel
      expect "]"
      pure (.delete array (some indices))
    else pure (.delete array none)
  | _ => return .evaluate (← readExpression fuel false)
where
  readOptional : Reader (Option Expression) := do
    if endsStatement (← peek?) then pure none else return some (← readExpression fuel false)
  readOutput (formatted : Bool) : Reader Statement := do
    let arguments ← readPrintedArguments fuel
    match outlet? (← peek?) with
    | some outlet => do
      drop
      let target ← readExpression fuel true
      pure (.print formatted arguments (some (outlet, target)))
    | none => pure (.print formatted arguments none)

/-- Passes over what ends a statement, unless a brace does. -/
def endStatement : Reader Unit := do
  match ← peek? with
  | some (.mark "\x7d") => pure ()
  | some (.mark ";") => do
    drop
    skipAllLines
  | some .newline => skipAllLines
  | _ => refuse

mutual

def readStatement : Nat → Reader Statement
  | 0 => refuse
  | fuel + 1 => do
    match ← peek? with
    | some (.mark "\x7b") => readBlock fuel
    | some (.mark ";") => do
      drop
      skipAllLines
      pure .nothing
    | some (.keyword "if") => do
      drop
      expect "("
      let condition ← readExpression fuel false
      expect ")"
      skipAllLines
      let yes ← readStatement fuel
      let start ← get
      skipAllSeparators
      if ← isKeyword "else" then
        drop
        skipAllLines
        return .conditional condition yes (← readStatement fuel)
      else
        set start
        pure (.conditional condition yes .nothing)
    | some (.keyword "while") => do
      drop
      expect "("
      let condition ← readExpression fuel false
      expect ")"
      skipAllLines
      return .loop false condition .nothing (← readStatement fuel)
    | some (.keyword "do") => do
      drop
      skipAllLines
      let body ← readStatement fuel
      skipAllSeparators
      expectKeyword "while"
      expect "("
      let condition ← readExpression fuel false
      expect ")"
      endStatement
      pure (.loop true condition .nothing body)
    | some (.keyword "for") => do
      drop
      expect "("
      readFor fuel
    | _ => do
      let statement ← readPlain fuel
      endStatement
      pure statement

/-- The rest of a counting loop, or of one over an array, behind the parenthesis. -/
def readFor : Nat → Reader Statement
  | 0 => refuse
  | fuel + 1 => do
    match (← get).rest.map Prod.fst with
    | .name name :: .keyword "in" :: .name array :: .mark ")" :: _ => do
      modify fun reading => { reading with rest := reading.rest.drop 4 }
      skipAllLines
      return .each name array (← readStatement fuel)
    | _ => do
      let start ← if ← isMark ";" then pure .nothing else readPlain fuel
      expect ";"
      skipAllLines
      let condition ← if ← isMark ";" then pure (.number Real.one) else readExpression fuel false
      expect ";"
      skipAllLines
      let step ← if ← isMark ")" then pure .nothing else readPlain fuel
      expect ")"
      skipAllLines
      let body ← readStatement fuel
      pure (.sequence start (.loop false condition step body))

/-- Statements between braces. -/
def readBlock : Nat → Reader Statement
  | 0 => refuse
  | fuel + 1 => do
    expect "\x7b"
    readStatements fuel

/-- Statements up to the brace that closes them. -/
def readStatements : Nat → Reader Statement
  | 0 => refuse
  | fuel + 1 => do
    skipAllSeparators
    if ← takes "\x7d" then pure .nothing
    else
      let first ← readStatement fuel
      return .sequence first (← readStatements fuel)

end

/-- Names between commas, up to the parenthesis. -/
def readParameters : Nat → Reader (List Octets)
  | 0 => refuse
  | count + 1 => do
    skipAllLines
    if ← takes ")" then pure []
    else
      let name ← expectName
      skipAllLines
      let _ ← takes ","
      return name :: (← readParameters count)

/-- What a rule does, by default that it prints the record. -/
def readAction (fuel : Nat) : Reader Statement := do
  if ← isMark "\x7b" then readBlock fuel else pure (.print false [] none)

/-- Rules and functions up to the end. -/
def readScript (fuel : Nat) : Nat → Reader Script
  | 0 => refuse
  | count + 1 => do
    skipAllSeparators
    let rule (pattern : Pattern) (action : Statement) : Reader Script := do
      let later ← readScript fuel count
      pure { later with rules := { pattern, action } :: later.rules }
    match ← peek? with
    | none => pure { rules := [], functions := [] }
    | some (.mark "\x7d") => fun reading => .error (.extraBrace ((reading.rest.head?.map fun sign => sign.2.1).getD 1))
    | some (.keyword "BEGIN") => do
      drop
      rule .atStart (← readBlock fuel)
    | some (.keyword "END") => do
      drop
      rule .atEnd (← readBlock fuel)
    | some (.mark "\x7b") => do rule .always (← readBlock fuel)
    | some (.keyword "function") => do
      drop
      let name ← match ← peek? with
        | some (.called name) => do
          drop
          pure name
        | _ => expectName
      expect "("
      let parameters ← readParameters ((← get).rest.length + 1)
      skipAllLines
      let body ← readBlock fuel
      let later ← readScript fuel count
      pure { later with functions := (name, { parameters, body }) :: later.functions }
    | _ => do
      let first ← readExpression fuel false
      if ← takes "," then
        skipAllLines
        let last ← readExpression fuel false
        rule (.between first last) (← readAction fuel)
      else rule (.when first) (← readAction fuel)

end Reader

/-- A function that signs call and a script does not define. -/
def undefined? (script : Script) (signs : List (Sign × Nat × Octets)) : Option Octets :=
  signs.findSome? fun
    | (.called name, _, _) => if (script.functions.lookup name).isSome then none else some name
    | _ => none

/-- How deep reading may descend for each sign. -/
def depthPerSign : Nat := 16

/-- The script that a source spells out. -/
def Script.parse (source : Octets) : Except Fault Script := do
  let signs ← Sign.scan (source.length + 1) 1 none source
  let last := source.count '\n' + 1
  let outside := signs.filterMap fun (sign, line, spelled) =>
    match sign, Numeral.readDecimal? spelled with
    | .number _, some (number, _) => if Numeral.Precision.usual.isOutside number then some (line, spelled) else none
    | _, _ => none
  if outside ≠ [] then .error (.range outside)
  let depth := depthPerSign * (signs.length + 2)
  let (script, _) ← (Reader.readScript depth (signs.length + 2)).run { rest := signs, line := last }
  match undefined? script signs with
  | some name => .error (.undefined (last + 1) name)
  | none => pure script

end ComponentViews.Shell.Awk
