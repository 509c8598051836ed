import ComponentViews.Shell.Name
import ComponentViews.Shell.Quoting
import ComponentViews.Shell.Script

/-! Reading scripts: from a source to the scripts that it spells out, one for each of its
lines with commands, so that those in front of a fault can still be run. What only the
extended dialect knows is read as nothing special in the other one. -/

namespace ComponentViews.Shell

namespace Reader

/-- What a source can get wrong. -/
inductive Cause where
  | unexpected (found : String) (expected : Option String)
  | openQuote (quote : Char)
  | openBackquote
  | openBrace
  | openExpression
  /-- A parenthesis that no command follows as one of its own is not closed. -/
  | openParenthesis
  | loopName
  | functionName
  | nesting
  deriving DecidableEq, Repr

def Cause.message : Cause → String
  | .unexpected found none => found ++ " unexpected"
  | .unexpected found (some expected) => found ++ " unexpected (expecting " ++ expected ++ ")"
  | .openQuote _ => "Unterminated quoted string"
  | .openBackquote => "EOF in backquote substitution"
  | .openBrace => "Missing '\x7d'"
  | .openExpression => "Missing '))'"
  | .openParenthesis => "Missing ')'"
  | .loopName => "Bad for loop variable"
  | .functionName => "Bad function name"
  | .nesting => "nested too deeply"

structure Fault where
  line : Nat
  cause : Cause
  /-- What has not been read. -/
  rest : Octets
  deriving DecidableEq, Repr

/-- What is left of a source, and the line it starts on. Texts that stand in the script
are taken out behind the line that introduces them, and their lines are counted once
that line is over. -/
structure Source where
  rest : Octets
  line : Nat
  hidden : Nat
  dialect : Dialect
  /-- Names of commands that stand for texts. -/
  aliases : List (Octets × Octets) := []
  /-- Those whose texts are being read, each with what is left behind its text. -/
  unfolding : List (Octets × Nat) := []
  /-- What is left behind a text that lets the next word be such a name too. -/
  following : Option Nat := none

end Reader

abbrev Reader := StateT Reader.Source (Except Reader.Fault)

namespace Reader

def fail {α : Type} (cause : Cause) : Reader α := fun source =>
  .error { line := source.line, cause, rest := source.rest }

/-- Reads in one way or else, from the same place, in another. -/
def either {α : Type} (first second : Reader α) : Reader α := fun source =>
  match first source with
  | .ok result => .ok result
  | .error _ => second source

/-- Whether something is not closed. -/
def Cause.isOpen : Cause → Bool
  | .openQuote _ | .openBackquote | .openBrace | .openExpression | .openParenthesis => true
  | _ => false

/-- Reads one thing, or another where the first one makes no sense, unless something in it is not closed. -/
def preferring {α : Type} (first second : Reader α) : Reader α := fun source =>
  match first source with
  | .ok result => .ok result
  | .error fault => if fault.cause.isOpen then .error fault else second source

def isExtended : Reader Bool := return (← get).dialect = .extended

/-- Passes over some characters and counts the lines among them. -/
def Source.dropping (source : Source) : Nat → Source
  | 0 => source
  | count + 1 =>
    match source.rest with
    | [] => source
    | c :: rest =>
      let source := if c = '\n' then { source with rest, line := source.line + 1 + source.hidden, hidden := 0 }
        else { source with rest }
      source.dropping count

def drop (count : Nat) : Reader Unit := modify (·.dropping count)

/-- Characters that end a word. -/
def endsWord (c : Char) : Bool := Name.isBlank c ∨ c ∈ ['\n', ';', '&', '|', '(', ')', '<', '>']

/-- How many characters are blanks, line joints or part of a comment. -/
def blankLength : Octets → Nat
  | '\\' :: '\n' :: rest => blankLength rest + 2
  | '#' :: rest => (rest.takeWhile (· ≠ '\n')).length + 1
  | c :: rest => if Name.isBlank c then blankLength rest + 1 else 0
  | [] => 0

def skipBlanks : Reader Unit := do drop (blankLength (← get).rest)

/-- Passes over blanks, comments and ends of lines. -/
def skipLines : Nat → Reader Unit
  | 0 => pure ()
  | count + 1 => do
    skipBlanks
    match (← get).rest with
    | '\n' :: _ =>
      drop 1
      skipLines count
    | _ => pure ()

/-- Words with a meaning of their own where a command could start. -/
def keywords : List String :=
  ["!", "\x7b", "\x7d", "case", "do", "done", "elif", "else", "esac", "fi", "for", "if", "in", "then", "until", "while"]

/-- Words with a meaning of their own in the extended dialect alone. -/
def extendedKeywords : List String := ["[[", "]]", "function", "select", "time"]

/-- Words that end a list of commands. -/
def closers : List String := ["then", "do", "done", "fi", "else", "elif", "esac", "\x7d"]

/-- The keyword at the start of a text. -/
def keyword? (text : Octets) : Option String :=
  keywords.find? fun keyword => keyword.toList = text.takeWhile fun c => !endsWord c

/-- Whether a word stands at the start of a text. -/
def startsWith (word : String) (text : Octets) : Bool := word.toList = text.takeWhile fun c => !endsWord c

/-- The mark behind a branch of a choice, and how the choice goes on there. -/
def sequel? (dialect : Dialect) (text : Octets) : Option (Sequel × Nat) :=
  match dialect, text with
  | .extended, ';' :: ';' :: '&' :: _ => some (.nextFitting, 3)
  | .extended, ';' :: '&' :: _ => some (.next, 2)
  | _, ';' :: ';' :: _ => some (.over, 2)
  | _, _ => none

def endsList (dialect : Dialect) (text : Octets) : Bool :=
  match text with
  | [] => true
  | ')' :: _ => true
  | text => (sequel? dialect text).isSome || (keyword? text).any closers.contains

def inQuotes (text : String) : String := "\"" ++ text ++ "\""

def operators : List String := [";;", ";", "&&", "&", "||", "|", "(", ")"]

/-- What stands at the start of a text, as a fault names it. -/
def describe (text : Octets) : String :=
  match text with
  | [] => "end of file"
  | '\n' :: _ => "newline"
  | '<' :: _ => "redirection"
  | '>' :: _ => "redirection"
  | text =>
    match operators.find? fun operator => operator.toList.isPrefixOf text with
    | some operator => inQuotes operator
    | none => ((keyword? text).map inQuotes).getD "word"

def unexpected {α : Type} (expected : Option String) : Reader α := do
  fail (.unexpected (describe (← get).rest) expected)

/-- Signs that stand for themselves, each in front of those that start it. -/
def tokens : List String :=
  ["&>>", "<<<", "<<-", ";;&", "&&", "||", ";;", ";&", "|&", "&>", ">&", "<&", "<>", ">|", "<<", ">>", "(", ")", ";",
    "&", "|", "<", ">"]

/-- The word or sign at the start of a text. -/
def tokenAt (text : Octets) : Octets :=
  if text.head? = some '\n' then "newline".toList
  else match tokens.find? fun token => token.toList.isPrefixOf text with
    | some token => token.toList
    | none => text.takeWhile fun c => !endsWord c

/-- The text that a word at the start of what is left stands for, unless it is being read already. -/
def Source.meant? (source : Source) : Option (Octets × Octets) :=
  if source.aliases.isEmpty then none
  else
    let word := source.rest.takeWhile fun c => !endsWord c
    let isUnfolding := source.unfolding.any fun (name, left) => name = word && left < source.rest.length
    if isUnfolding then none else (source.aliases.lookup word).map (word, ·)

/-- Puts texts in the place of words that stand for them. Words with a meaning of their own are
kept if that is asked for. -/
def unfold (keeping : Bool) : Nat → Reader Unit
  | 0 => pure ()
  | count + 1 => do
    let source ← get
    if keeping && (keyword? source.rest).isSome then pure ()
    else match source.meant? with
      | none => pure ()
      | some (word, text) => do
        let behind := source.rest.drop word.length
        set { source with
          rest := text ++ behind
          unfolding := if text = [] then source.unfolding else (word, behind.length) :: source.unfolding
          following := if text.getLast?.any Name.isBlank then some behind.length else source.following }
        if keeping then skipLines (text.length + 1) else skipBlanks
        unfold keeping count

/-- Puts texts in the place of the word where a command starts. -/
def unfoldCommand : Reader Unit := do
  let source ← get
  unfold true (source.aliases.length + source.rest.length + 1)

/-- Puts texts in the place of a word within a command, which may stand for one at its start and
behind a text that ends in a blank. -/
def unfoldWord (atStart : Bool) : Reader Unit := do
  let source ← get
  if !source.aliases.isEmpty then
    let isNext := source.following.any fun left => source.rest.length ≤ left
    if isNext then set { source with following := none }
    if atStart || isNext then unfold false (source.aliases.length + source.rest.length + 1)

def expectKeyword (keyword : String) : Reader Unit := do
  if keyword? (← get).rest = some keyword then drop keyword.length else unexpected (some (inQuotes keyword))

def expectClosing : Reader Unit := do
  skipBlanks
  match (← get).rest with
  | ')' :: _ => drop 1
  | _ => unexpected (some (inQuotes ")"))

/-- The parenthesis behind a script within a word. -/
def closeScript : Reader Unit := do
  if (← get).rest = [] && (← isExtended) then fail .openParenthesis else expectClosing

/-- Where parts of a word stand, which decides what ends them and what quotes mean there. -/
inductive Setting where
  | bare
  | doubleQuotes
  /-- Behind a parameter between braces. -/
  | braced (quoted : Bool)
  | document
  /-- In an expression, within some parentheses of its own. -/
  | expression (depth : Nat)
  /-- In one of the expressions of a counted loop, which semicolons part. -/
  | clause (depth : Nat)
  /-- Between brackets, within some of its own. -/
  | subscript (depth : Nat)
  /-- In a pattern between braces, up to a slash. -/
  | pattern
  /-- In an expression between braces, up to a colon, within some parentheses of its own. -/
  | extent (depth : Nat)
  /-- In a pattern between parentheses. -/
  | alternatives
  /-- In a pattern with operators of its own, up to a blank, within some parentheses. -/
  | matching (depth : Nat)
  deriving DecidableEq

namespace Setting

def isQuoted : Setting → Bool
  | .doubleQuotes => true
  | .braced quoted => quoted
  | .document => true
  | .expression _ => true
  | .clause _ => true
  | _ => false

/-- Whether single quotes mean something. -/
def takesQuotes : Setting → Bool
  | .doubleQuotes => false
  | .braced quoted => !quoted
  | .document => false
  | .expression _ => false
  | .clause _ => false
  | _ => true

/-- Whether a text in place of a path may start with an angle and a parenthesis. -/
def startsPassage (setting : Setting) (text : Octets) : Bool :=
  match setting, text with
  | .bare, '<' :: '(' :: _ => true
  | .bare, '>' :: '(' :: _ => true
  | _, _ => false

/-- Whether a pattern between parentheses starts. -/
def startsGroup (setting : Setting) (text : Octets) : Bool :=
  let mayStand : Bool := match setting with
    | .bare => true
    | .braced quoted => !quoted
    | .pattern => true
    | .alternatives => true
    | _ => false
  match text with
  | sign :: '(' :: _ => mayStand && sign ∈ ['?', '*', '+', '@', '!']
  | _ => false

/-- Whether a text stands behind the end of what is read. -/
def isOver (dialect : Dialect) (setting : Setting) (text : Octets) : Bool :=
  match setting, text with
  | _, [] => true
  | .bare, c :: _ => endsWord c && !(dialect = .extended && startsPassage .bare text)
  | .doubleQuotes, c :: _ => c = '"'
  | .braced _, c :: _ => c = '\x7d'
  | .document, _ => false
  | .expression 0, ')' :: ')' :: _ => true
  | .expression _, _ => false
  | .clause 0, ')' :: ')' :: _ => true
  | .clause depth, c :: _ => depth = 0 && c = ';'
  | .subscript depth, c :: _ => depth = 0 && c = ']'
  | .pattern, c :: _ => c = '/' || c = '\x7d'
  | .extent depth, c :: _ => depth = 0 && (c = ':' || c = '\x7d')
  | .alternatives, c :: _ => c = ')'
  | .matching depth, c :: _ => depth = 0 && (Name.isBlank c || c = '\n')

/-- The setting behind a character. -/
def behind (setting : Setting) (c : Char) : Setting :=
  let among (opening closing : Char) (depth : Nat) : Nat :=
    if c = opening then depth + 1 else if c = closing then depth - 1 else depth
  match setting with
  | .expression depth => .expression (among '(' ')' depth)
  | .clause depth => .clause (among '(' ')' depth)
  | .subscript depth => .subscript (among '[' ']' depth)
  | .extent depth => .extent (if c = '(' || c = '?' then depth + 1 else if c = ')' || c = ':' then depth - 1 else depth)
  | .matching depth => .matching (among '(' ')' depth)
  | setting => setting

/-- Whether a backslash quotes a character. -/
def escapes (setting : Setting) (c : Char) : Bool :=
  match setting with
  | .doubleQuotes => c ∈ ['$', '`', '"', '\\']
  | .braced true => c ∈ ['$', '`', '"', '\\', '\x7d']
  | .document => c ∈ ['$', '`', '\\']
  | .expression _ => c ∈ ['$', '`', '"', '\\']
  | .clause _ => c ∈ ['$', '`', '"', '\\']
  | _ => true

end Setting

/-- The text of a script up to a backquote, and how many characters it takes. -/
def backquoted (inQuotes : Bool) : Octets → Option (Octets × Nat)
  | [] => none
  | '`' :: _ => some ([], 1)
  | '\\' :: c :: rest =>
    (backquoted inQuotes rest).map fun (inner, length) =>
      (if c ∈ ['`', '$', '\\'] || inQuotes && c = '"' then c :: inner else '\\' :: c :: inner, length + 2)
  | c :: rest => (backquoted inQuotes rest).map fun (inner, length) => (c :: inner, length + 1)

/-- The sign behind a parameter between braces: what it asks for, and its length. -/
def treatment? : Octets → Option (Treatment × Nat)
  | ':' :: '-' :: _ => some (.fallback true, 2)
  | '-' :: _ => some (.fallback false, 1)
  | ':' :: '=' :: _ => some (.assignment true, 2)
  | '=' :: _ => some (.assignment false, 1)
  | ':' :: '?' :: _ => some (.demand true, 2)
  | '?' :: _ => some (.demand false, 1)
  | ':' :: '+' :: _ => some (.replacement true, 2)
  | '+' :: _ => some (.replacement false, 1)
  | '#' :: '#' :: _ => some (.trimStart true, 2)
  | '#' :: _ => some (.trimStart false, 1)
  | '%' :: '%' :: _ => some (.trimEnd true, 2)
  | '%' :: _ => some (.trimEnd false, 1)
  | _ => none

/-- A redirection by its sign. -/
structure Redirecting where
  descriptor : Nat
  opening : Opening
  /-- How long the sign is. -/
  length : Nat
  /-- Whether tabs are dropped from a text in the script. -/
  dropsTabs : Bool := false
  /-- Whether errors go to the same place. -/
  both : Bool := false
  /-- The variable that takes the descriptor's number. -/
  holder : Option Octets := none

/-- The redirection that starts a text. -/
def redirection? (dialect : Dialect) (text : Octets) : Option Redirecting :=
  match dialect, text with
  | .extended, '<' :: '(' :: _ => none
  | .extended, '>' :: '(' :: _ => none
  | .extended, '<' :: '<' :: '<' :: _ => some { descriptor := 0, opening := .phrase, length := 3 }
  | _, '>' :: '>' :: _ => some { descriptor := 1, opening := .append, length := 2 }
  | _, '>' :: '&' :: _ => some { descriptor := 1, opening := .duplicate, length := 2 }
  | _, '>' :: '|' :: _ => some { descriptor := 1, opening := .overwriting, length := 2 }
  | _, '>' :: _ => some { descriptor := 1, opening := .output, length := 1 }
  | _, '<' :: '<' :: '-' :: _ => some { descriptor := 0, opening := .document, length := 3, dropsTabs := true }
  | _, '<' :: '<' :: _ => some { descriptor := 0, opening := .document, length := 2 }
  | _, '<' :: '&' :: _ => some { descriptor := 0, opening := .duplicate, length := 2 }
  | _, '<' :: '>' :: _ => some { descriptor := 0, opening := .update, length := 2 }
  | _, '<' :: _ => some { descriptor := 0, opening := .input, length := 1 }
  | _, _ => none

/-- A redirection with the descriptor's number in front, which may have several digits in the
extended dialect, or with a variable's name in braces; or one of output and errors at once. -/
def numbered? (dialect : Dialect) (text : Octets) : Option Redirecting :=
  let digits := match dialect with
    | .standard => (text.take 1).takeWhile Name.isDigit
    | .extended => text.takeWhile Name.isDigit
  let held := Name.chosenAt (text.drop 1)
  match dialect, text with
  | .extended, '&' :: '>' :: '>' :: _ => some { descriptor := 1, opening := .append, length := 3, both := true }
  | .extended, '&' :: '>' :: _ => some { descriptor := 1, opening := .output, length := 2, both := true }
  | .extended, '\x7b' :: behind =>
    if held ≠ [] && (behind.drop held.length).head? = some '\x7d' then
      (redirection? dialect (behind.drop (held.length + 1))).map fun redirecting =>
        { redirecting with length := redirecting.length + held.length + 2, holder := some held }
    else none
  | _, text =>
    if digits = [] then redirection? dialect text
    else (redirection? dialect (text.drop digits.length)).map fun redirecting =>
      { redirecting with
        descriptor := digits.foldl (fun value c => value * 10 + (c.toNat - '0'.toNat)) 0
        length := redirecting.length + digits.length }

/-- The text up to a line that is the delimiter, what stands behind that line, and how many
lines that makes. -/
def splitDocument (dropsTabs : Bool) (delimiter : Octets) : Nat → Octets → Octets × Octets × Nat
  | 0, text => ([], text, 0)
  | _ + 1, [] => ([], [], 0)
  | fuel + 1, text =>
    let line := text.takeWhile (· ≠ '\n')
    let line := if dropsTabs then line.dropWhile (· = '\t') else line
    match text.dropWhile (· ≠ '\n') with
    | [] => (if line = delimiter then [] else line, [], 0)
    | _ :: rest =>
      if line = delimiter then ([], rest, 1)
      else
        let (content, remaining, lines) := splitDocument dropsTabs delimiter fuel rest
        (line ++ '\n' :: content, remaining, lines + 1)

/-- Takes a text out of the source, behind the current line. -/
def takeDocument (dropsTabs : Bool) (delimiter : Octets) : Reader Octets := do
  let source ← get
  let current := source.rest.takeWhile (· ≠ '\n')
  match source.rest.dropWhile (· ≠ '\n') with
  | [] => pure []
  | _ :: following =>
    let (content, remaining, lines) := splitDocument dropsTabs delimiter (following.length + 1) following
    set { source with rest := current ++ '\n' :: remaining, hidden := source.hidden + lines }
    pure content

/-- Reads another source in between, which starts on a line. -/
def within {α : Type} (text : Octets) (line : Nat) (reader : Reader α) : Reader α := do
  let outer ← get
  set { outer with rest := text, line, hidden := 0, unfolding := [], following := none }
  let result ← reader
  set outer
  pure result

def closeBrace : Reader Unit := do
  match (← get).rest with
  | '\x7d' :: _ => drop 1
  | _ => fail .openBrace

/-- A body that starts on a line, with the redirections around it. -/
def redirected (line : Nat) (body : Script) (redirections : List (Redirection Word)) : Script :=
  if redirections.isEmpty then body else .redirected line body redirections

/-- Lets the errors of a script go where its output does. -/
def withErrors (line : Nat) (script : Script) : Script :=
  let added : Redirection Word := { descriptor := 2, opening := .duplicate, target := [.text ['1'] false] }
  match script with
  | .simple line assignments words redirections => .simple line assignments words (redirections ++ [added])
  | .redirected line body redirections => .redirected line body (redirections ++ [added])
  | script => .redirected line script [added]

/-- The change that a sign behind a parameter between braces asks for, and the sign's length. -/
def change? (text : Octets) : Option (Change × Nat) :=
  match treatment? text with
  | some (treatment, length) => some (.treated treatment, length)
  | none =>
    match text with
    | '/' :: '/' :: _ => some (.substitution .every, 2)
    | '/' :: '#' :: _ => some (.substitution .start, 2)
    | '/' :: '%' :: _ => some (.substitution .finish, 2)
    | '/' :: _ => some (.substitution .first, 1)
    | '^' :: '^' :: _ => some (.casing .upper true, 2)
    | '^' :: _ => some (.casing .upper false, 1)
    | ',' :: ',' :: _ => some (.casing .lower true, 2)
    | ',' :: _ => some (.casing .lower false, 1)
    | '~' :: '~' :: _ => some (.casing .toggled true, 2)
    | '~' :: _ => some (.casing .toggled false, 1)
    | ':' :: _ => some (.slice, 1)
    | '@' :: letter :: '\x7d' :: _ => some (.shown letter, 2)
    | _ => none

/-- Whether a part stands for any number of words even between quotes. -/
def isManifold : Part → Bool
  | .parameter ['@'] _ _ _ => true
  | .selection ['@'] _ _ _ _ _ => true
  | .selection _ _ _ _ ([.text ['@'] false] :: _) _ => true
  | _ => false

/-- Commands whose arguments may be assignments of arrays. -/
def declaring : List String := ["declare", "typeset", "local", "export", "readonly"]

/-- Operators of conditions with one operand and with two. -/
def unaryOperators : List String :=
  ["-a", "-b", "-c", "-d", "-e", "-f", "-g", "-h", "-k", "-p", "-r", "-s", "-t", "-u", "-w", "-x", "-G", "-L", "-N",
    "-O", "-S", "-z", "-n", "-o", "-v", "-R"]

def binaryOperators : List String :=
  ["=", "==", "!=", "=~", "-eq", "-ne", "-lt", "-le", "-gt", "-ge", "-nt", "-ot", "-ef"]

/-- The operator with two operands that a text starts with. -/
def binary? (text : Octets) : Option String :=
  match text with
  | '<' :: _ => some "<"
  | '>' :: _ => some ">"
  | text => binaryOperators.find? fun operator => startsWith operator text

/-- Whether no word stands here. -/
def standsAtEnd : Reader Bool := do
  let source ← get
  pure (Setting.isOver source.dialect .bare source.rest)

/-- Whether a command starts that only the extended dialect knows. -/
def startsExtended (text : Octets) : Bool :=
  ['(', '('] = text.take 2 || ["[[", "select", "function"].any fun word => startsWith word text

mutual

def readParts : Nat → Setting → Reader Word
  | 0, _ => fail .nesting
  | fuel + 1, setting => do
    let source ← get
    if setting.isOver source.dialect source.rest then pure []
    else do
      let first ← readPart fuel setting
      let later ← readParts fuel (setting.behind (source.rest.headD ' '))
      pure (first ++ later)

/-- The parts that the next character introduces. -/
def readPart : Nat → Setting → Reader Word
  | 0, _ => fail .nesting
  | fuel + 1, setting => do
    let source ← get
    if source.dialect = .extended && setting.startsPassage source.rest then
      drop 2
      let script ← readList fuel
      closeScript
      pure [.passage script (source.rest.head? = some '<')]
    else if source.dialect = .extended && setting.startsGroup source.rest then
      drop 2
      let inner ← readParts fuel .alternatives
      match (← get).rest with
      | ')' :: _ =>
        drop 1
        pure (.text (source.rest.take 1) false :: .text ['('] false :: inner ++ [.text [')'] false])
      | _ => fail .openParenthesis
    else readUsual fuel setting

/-- The parts that a character introduces in both dialects. -/
def readUsual : Nat → Setting → Reader Word
  | 0, _ => fail .nesting
  | fuel + 1, setting => do
    match (← get).rest with
    | [] => pure []
    | '\\' :: '\n' :: _ =>
      drop 2
      pure []
    | '\\' :: c :: _ =>
      if setting.escapes c then do
        drop 2
        pure [.text [c] true]
      else do
        drop 1
        pure [.text ['\\'] true]
    | '$' :: _ => readDollar fuel setting.isQuoted
    | '`' :: rest =>
      match backquoted setting.isQuoted rest with
      | none => fail .openBackquote
      | some (inner, length) => do
        let script ← within inner (← get).line (readWhole fuel)
        drop (length + 1)
        pure [.output script setting.isQuoted]
    | '\'' :: rest =>
      if setting.takesQuotes then
        let inner := rest.takeWhile (· ≠ '\'')
        if inner.length = rest.length then fail (.openQuote '\'')
        else do
          drop (inner.length + 2)
          pure [.text inner true]
      else do
        drop 1
        pure [.text ['\''] true]
    | '"' :: _ => do
      drop 1
      let extended ← isExtended
      match setting with
      | .document => pure [.text ['"'] true]
      | .expression _ => pure (if extended then [] else [.text ['"'] true])
      | .clause _ => pure []
      | .braced true => pure []
      | _ => readQuoted fuel
    | c :: _ => do
      drop 1
      pure [.text [c] setting.isQuoted]

/-- The parts between double quotes. Even around nothing they leave a mark, except where
they hold all arguments and nothing else. -/
def readQuoted : Nat → Reader Word
  | 0 => fail .nesting
  | fuel + 1 => do
    let line := (← get).line
    let parts ← readParts fuel .doubleQuotes
    match (← get).rest with
    | '"' :: _ =>
      drop 1
      match parts with
      | [.parameter ['@'] .plain _ _] => pure parts
      | [part] => pure (if (← isExtended) && isManifold part then parts else .text [] true :: parts)
      | _ => pure (.text [] true :: parts)
    | _ => do
      if ← isExtended then modify fun source => { source with line }
      fail (.openQuote '"')

/-- What a dollar sign introduces; one that introduces nothing stands for itself. -/
def readDollar : Nat → Bool → Reader Word
  | 0, _ => fail .nesting
  | fuel + 1, quoted => do
    let extended ← isExtended
    let expression : Reader Word := do
      drop 3
      let parts ← readParts fuel (.expression 0)
      match (← get).rest with
      | ')' :: ')' :: _ =>
        drop 2
        pure [.arithmetic parts quoted]
      | _ => fail .openExpression
    let output : Reader Word := do
      drop 2
      let script ← readList fuel
      closeScript
      pure [.output script quoted]
    match ((← get).rest).drop 1 with
    | '(' :: '(' :: _ => if extended then either expression output else expression
    | '(' :: _ => output
    | '\x7b' :: _ =>
      drop 2
      if extended then readSelection fuel quoted else readBraced fuel quoted
    | c :: rest =>
      if extended && !quoted && c = '\'' then
        match Quoting.unescaped? rest with
        | some (text, length) => do
          drop (length + 2)
          pure [.text text true]
        | none => fail (.openQuote '\'')
      else if extended && !quoted && c = '"' then do
        drop 2
        readQuoted fuel
      else if Name.isStart c then do
        drop (1 + (Name.chosenAt (c :: rest)).length)
        pure [.parameter (Name.chosenAt (c :: rest)) .plain [] quoted]
      else if Name.isSpecial c then do
        drop 2
        pure [.parameter [c] .plain [] quoted]
      else do
        drop 1
        pure [.text ['$'] quoted]
    | [] =>
      drop 1
      pure [.text ['$'] quoted]

/-- A parameter between braces, behind the opening one. -/
def readBraced : Nat → Bool → Reader Word
  | 0, _ => fail .nesting
  | fuel + 1, quoted => do
    let text := (← get).rest
    let sized := Name.parameterAt (text.drop 1)
    if text.head? = some '#' ∧ sized ≠ [] ∧ (text.drop (1 + sized.length)).head? = some '\x7d' then
      drop (2 + sized.length)
      pure [.parameter sized .size [] quoted]
    else
      let name := Name.parameterAt text
      drop name.length
      let behind := text.drop name.length
      match behind.head?, treatment? behind with
      | some '\x7d', _ =>
        drop 1
        pure [if name = [] then .senseless text else .parameter name .plain [] quoted]
      | _, some (treatment, length) =>
        drop length
        let operand ← readParts fuel (.braced (quoted && !treatment.trims))
        closeBrace
        pure [if name = [] then .senseless text else .parameter name treatment operand quoted]
      | _, none =>
        let _ ← readParts fuel (.braced quoted)
        closeBrace
        pure [.senseless text]

/-- A parameter between braces in the extended dialect, behind the opening one: perhaps members of
it, or what it names, with a change that its operands tell. -/
def readSelection : Nat → Bool → Reader Word
  | 0, _ => fail .nesting
  | fuel + 1, quoted => do
    let text := (← get).rest
    let sign := text.head?
    let named := Name.parameterAt (text.drop 1)
    let behindNamed := (text.drop (1 + named.length)).head?
    let sized := sign = some '#' && named ≠ [] && (behindNamed = some '\x7d' || behindNamed = some '[')
    let indirect := sign = some '!' && named.head?.any fun c => Name.isInner c || c = '#'
    if sized || indirect then drop 1
    let name := Name.parameterAt (← get).rest
    drop name.length
    let place : Option Word ← match (← get).rest with
      | '[' :: _ =>
        if Name.isChosen name then do
          drop 1
          let parts ← readParts fuel (.subscript 0)
          if (← get).rest.head? = some ']' then drop 1 else fail .openBrace
          pure (some parts)
        else pure none
      | _ => pure none
    let finish (change : Change) (operands : List Word) : Reader Word := do
      closeBrace
      pure <| match place, indirect, change with
        | none, false, .treated treatment => [.parameter name treatment (operands.headD []) quoted]
        | _, _, .keys => [.selection name true false .keys (place.getD [] :: operands) quoted]
        | _, _, _ => [.selection name place.isSome indirect change (place.getD [] :: operands) quoted]
    let giveUp : Reader Word := do
      let _ ← readParts fuel (.braced quoted)
      closeBrace
      pure [.senseless (text.take (text.length - (← get).rest.length))]
    let behind := (← get).rest
    let startsNames := indirect && place.isNone && (behind.drop 1).head? = some '\x7d'
    if name = [] then giveUp
    else match behind with
    | '\x7d' :: _ =>
      if sized then finish (.treated .size) []
      else if indirect && place.any Word.isAll then finish .keys []
      else finish (.treated .plain) []
    | sign :: _ =>
      if sized then giveUp
      else if startsNames && (sign = '*' || sign = '@') then do
        drop 1
        closeBrace
        pure [.selection name false false .names [[.text [sign] false]] quoted]
      else match change? behind with
      | none => giveUp
      | some (change, length) => do
        drop length
        match change with
        | .treated treatment => do
          let operand ← readParts fuel (.braced (quoted && !treatment.trims))
          finish change [operand]
        | .substitution scope => do
          let startsSlashed := scope = .every && (← get).rest.head? = some '/'
          if startsSlashed then drop 1
          let inner ← readParts fuel .pattern
          let pattern := if startsSlashed then .text ['/'] false :: inner else inner
          let replacement ← if (← get).rest.head? = some '/' then do
              drop 1
              readParts fuel (.braced false)
            else pure []
          finish change [pattern, replacement]
        | .slice => do
          let start ← readParts fuel (.extent 0)
          if (← get).rest.head? = some ':' then do
            drop 1
            let extent ← readParts fuel (.extent 0)
            finish change [start, extent]
          else finish change [start]
        | .casing _ _ => do
          let pattern ← readParts fuel (.braced false)
          finish change [pattern]
        | change => finish change []
    | [] => fail .openBrace

/-- A word, of which there is at least one character. -/
def readWord : Nat → Reader Word
  | 0 => fail .nesting
  | fuel + 1 => do
    skipBlanks
    if ← standsAtEnd then unexpected none else readParts fuel .bare

/-- The redirections whose sign stands at the start of the text: one, or two for output and errors. -/
def readRedirection : Nat → Redirecting → Reader (List (Redirection Word))
  | 0, _ => fail .nesting
  | fuel + 1, redirecting => do
    drop redirecting.length
    let word ← readWord fuel
    let plain : Redirection Word := {
      descriptor := redirecting.descriptor
      opening := redirecting.opening
      target := word
      holder := redirecting.holder }
    match redirecting.opening with
    | .document =>
      let line := (← get).line + 1 + (← get).hidden
      let content ← takeDocument redirecting.dropsTabs (word.flatMap Part.characters)
      let target ← if word.any Part.isQuoted then pure [.text content true]
        else within content line (readParts fuel .document)
      pure [{ plain with target }]
    | _ =>
      let errors : Redirection Word := { descriptor := 2, opening := .duplicate, target := [.text ['1'] false] }
      pure (if redirecting.both then [plain, errors] else [plain])

def readRedirections : Nat → Reader (List (Redirection Word))
  | 0 => fail .nesting
  | fuel + 1 => do
    skipBlanks
    match numbered? (← get).dialect (← get).rest with
    | none => pure []
    | some sign => do
      let first ← readRedirection fuel sign
      let later ← readRedirections fuel
      pure (first ++ later)

/-- Commands up to what ends a list of them. -/
def readList : Nat → Reader Script
  | 0 => fail .nesting
  | fuel + 1 => do
    skipLines ((← get).rest.length + 1)
    unfoldCommand
    if endsList (← get).dialect (← get).rest then pure .nothing
    else do
      let first ← readLogic fuel
      skipBlanks
      if (sequel? (← get).dialect (← get).rest).isSome then pure first
      else match (← get).rest with
      | ';' :: _ =>
        drop 1
        return .sequence first (← readList fuel)
      | '&' :: _ =>
        drop 1
        return .sequence (.background first) (← readList fuel)
      | '\n' :: _ => return .sequence first (← readList fuel)
      | _ => pure first

/-- Commands up to what ends a list of them, at least one. -/
def readBody : Nat → Reader Script
  | 0 => fail .nesting
  | fuel + 1 => do
    skipLines ((← get).rest.length + 1)
    unfoldCommand
    if endsList (← get).dialect (← get).rest then unexpected none else readList fuel

/-- All commands of a source. -/
def readWhole : Nat → Reader Script
  | 0 => fail .nesting
  | fuel + 1 => do
    let script ← readList fuel
    if (← get).rest = [] then pure script else unexpected none

/-- Commands up to the end of a line. -/
def readRow : Nat → Reader Script
  | 0 => fail .nesting
  | fuel + 1 => do
    let first ← readLogic fuel
    skipBlanks
    let (ended, first) ← match (← get).rest with
      | ';' :: ';' :: _ => unexpected none
      | ';' :: _ => do
        drop 1
        pure (false, first)
      | '&' :: _ => do
        drop 1
        pure (false, .background first)
      | _ => pure (true, first)
    skipBlanks
    match (← get).rest with
    | [] => pure first
    | '\n' :: _ =>
      drop 1
      pure first
    | _ => if ended then unexpected none else return .sequence first (← readRow fuel)

/-- Pipelines joined by their outcome, from left to right. -/
def readLogic : Nat → Reader Script
  | 0 => fail .nesting
  | fuel + 1 => do
    let first ← readPipeline fuel
    readLogicAfter fuel first

def readLogicAfter : Nat → Script → Reader Script
  | 0, _ => fail .nesting
  | fuel + 1, first => do
    skipBlanks
    match (← get).rest with
    | '&' :: '&' :: _ =>
      drop 2
      let second ← readPipeline fuel
      readLogicAfter fuel (.andThen first second)
    | '|' :: '|' :: _ =>
      drop 2
      let second ← readPipeline fuel
      readLogicAfter fuel (.orElse first second)
    | _ => pure first

def readPipeline : Nat → Reader Script
  | 0 => fail .nesting
  | fuel + 1 => do
    skipLines ((← get).rest.length + 1)
    unfoldCommand
    let text := (← get).rest
    if keyword? text = some "!" then do
      drop 1
      return .negation (← readPipeline fuel)
    else if (← isExtended) && startsWith "time" text then do
      drop 4
      skipBlanks
      let brief := startsWith "-p" (← get).rest
      if brief then drop 2
      return .timed brief (← readPipeline fuel)
    else do
      let first ← readCommand fuel
      readPipeAfter fuel first

def readPipeAfter : Nat → Script → Reader Script
  | 0, _ => fail .nesting
  | fuel + 1, first => do
    skipBlanks
    let source ← get
    match source.rest with
    | '|' :: '|' :: _ => pure first
    | '|' :: next :: _ =>
      let all := source.dialect = .extended && next = '&'
      let first := if all then withErrors source.line first else first
      drop (if all then 2 else 1)
      skipLines ((← get).rest.length + 1)
      let second ← readCommand fuel
      readPipeAfter fuel (.pipe first second)
    | '|' :: [] =>
      drop 1
      let second ← readCommand fuel
      readPipeAfter fuel (.pipe first second)
    | _ => pure first

def readCommand : Nat → Reader Script
  | 0 => fail .nesting
  | fuel + 1 => do
    skipBlanks
    unfoldCommand
    let source ← get
    if source.dialect = .extended && startsExtended source.rest then readExtended fuel
    else match source.rest, keyword? source.rest with
    | '(' :: _, _ =>
      drop 1
      let body ← readBody fuel
      expectClosing
      return redirected source.line (.subshell body) (← readRedirections fuel)
    | _, some "\x7b" =>
      drop 1
      let body ← readBody fuel
      expectKeyword "\x7d"
      return redirected source.line body (← readRedirections fuel)
    | _, some "if" =>
      drop 2
      let body ← readConditional fuel
      return redirected source.line body (← readRedirections fuel)
    | _, some "while" =>
      drop 5
      let body ← readLoop fuel false
      return redirected source.line body (← readRedirections fuel)
    | _, some "until" =>
      drop 5
      let body ← readLoop fuel true
      return redirected source.line body (← readRedirections fuel)
    | _, some "for" =>
      drop 3
      let body ← readEach fuel
      return redirected source.line body (← readRedirections fuel)
    | _, some "case" =>
      drop 4
      let subject ← readWord fuel
      skipLines ((← get).rest.length + 1)
      expectKeyword "in"
      let branches ← readBranches fuel
      return redirected source.line (.choice source.line subject branches) (← readRedirections fuel)
    | text, found =>
      if found.any fun keyword => keyword ≠ "in" then unexpected none
      else if (← standsAtEnd) && (numbered? source.dialect text).isNone then unexpected none
      else readSimple fuel source.line [] [] []

/-- A command that only the extended dialect knows. -/
def readExtended : Nat → Reader Script
  | 0 => fail .nesting
  | fuel + 1 => do
    let source ← get
    let calculation : Reader Script := do
      drop 2
      let parts ← readParts fuel (.expression 0)
      if [')', ')'] = (← get).rest.take 2 then drop 2 else fail .openExpression
      pure (.calculation source.line parts)
    let subshell : Reader Script := do
      drop 1
      let body ← readBody fuel
      expectClosing
      pure (.subshell body)
    let body ← if source.rest.head? = some '(' then either calculation subshell
      else if startsWith "[[" source.rest then do
        drop 2
        let condition ← readCondition fuel
        skipLines ((← get).rest.length + 1)
        if startsWith "]]" (← get).rest then drop 2 else unexpected none
        pure (.condition source.line condition)
      else if startsWith "select" source.rest then do
        drop 6
        match ← readEach fuel with
        | .each line name values body => pure (.menu line name values body)
        | script => pure script
      else do
        drop 8
        let word ← readWord fuel
        skipBlanks
        if (← get).rest.head? = some '(' then do
          drop 1
          expectClosing
        skipLines ((← get).rest.length + 1)
        pure (.define (word.flatMap Part.characters) (← readCommand fuel))
    return redirected source.line body (← readRedirections fuel)

/-- Conditions of which one has to hold. -/
def readCondition : Nat → Reader (Condition Word)
  | 0 => fail .nesting
  | fuel + 1 => do
    let first ← readAllOf fuel
    skipLines ((← get).rest.length + 1)
    match (← get).rest with
    | '|' :: '|' :: _ =>
      drop 2
      return .either first (← readCondition fuel)
    | _ => pure first

/-- Conditions that all have to hold. -/
def readAllOf : Nat → Reader (Condition Word)
  | 0 => fail .nesting
  | fuel + 1 => do
    let first ← readTerm fuel
    skipLines ((← get).rest.length + 1)
    match (← get).rest with
    | '&' :: '&' :: _ =>
      drop 2
      return .both first (← readAllOf fuel)
    | _ => pure first

/-- One condition: on a word, on two, or between parentheses. -/
def readTerm : Nat → Reader (Condition Word)
  | 0 => fail .nesting
  | fuel + 1 => do
    skipLines ((← get).rest.length + 1)
    let text := (← get).rest
    if text.head? = some '(' then do
      drop 1
      let inner ← readCondition fuel
      skipLines ((← get).rest.length + 1)
      expectClosing
      pure inner
    else if startsWith "!" text then do
      drop 1
      return .negation (← readTerm fuel)
    else if startsWith "]]" text then unexpected none
    else do
      let first ← readWord fuel
      skipBlanks
      let text := (← get).rest
      match first.plain?.map String.ofList, binary? text with
      | _, some operator => do
        drop operator.length
        skipBlanks
        let right ← if operator = "=~" then readParts fuel (.matching 0) else readWord fuel
        if right = [] then unexpected none
        pure (.binary operator first right)
      | some operator, none =>
        if unaryOperators.contains operator then
          if startsWith "]]" text then unexpected none
          else return .unary operator (← readWord fuel)
        else pure (.unary "-n" first)
      | none, none => pure (.unary "-n" first)

/-- The rest of a conditional behind its first keyword. -/
def readConditional : Nat → Reader Script
  | 0 => fail .nesting
  | fuel + 1 => do
    let condition ← readBody fuel
    expectKeyword "then"
    let yes ← readBody fuel
    match keyword? (← get).rest with
    | some "elif" =>
      drop 4
      return .conditional condition yes (← readConditional fuel)
    | some "else" =>
      drop 4
      let no ← readBody fuel
      expectKeyword "fi"
      pure (.conditional condition yes no)
    | _ =>
      expectKeyword "fi"
      pure (.conditional condition yes .nothing)

/-- The rest of a loop behind its first keyword. -/
def readLoop : Nat → Bool → Reader Script
  | 0, _ => fail .nesting
  | fuel + 1, negated => do
    let condition ← readBody fuel
    return .loop negated condition (← readRound fuel)

/-- What a loop does in a round. In the extended dialect braces may stand around it. -/
def readRound : Nat → Reader Script
  | 0 => fail .nesting
  | fuel + 1 => do
    let braced := (← isExtended) && keyword? (← get).rest = some "\x7b"
    expectKeyword (if braced then "\x7b" else "do")
    let body ← readBody fuel
    expectKeyword (if braced then "\x7d" else "done")
    pure body

/-- The rest of a counted loop in front of its expressions. -/
def readCounted : Nat → Nat → Reader Script
  | 0, _ => fail .nesting
  | fuel + 1, line => do
    drop 2
    let start ← readParts fuel (.clause 0)
    if (← get).rest.head? = some ';' then drop 1 else unexpected none
    let condition ← readParts fuel (.clause 0)
    if (← get).rest.head? = some ';' then drop 1 else unexpected none
    let next ← readParts fuel (.expression 0)
    if [')', ')'] = (← get).rest.take 2 then drop 2 else fail .openExpression
    skipBlanks
    if (← get).rest.head? = some ';' then drop 1
    skipLines ((← get).rest.length + 1)
    return .counted line start condition next (← readRound fuel)

/-- The rest of a loop over values behind its first keyword. -/
def readEach : Nat → Reader Script
  | 0 => fail .nesting
  | fuel + 1 => do
    skipBlanks
    let line := (← get).line
    if (← isExtended) && ['(', '('] = (← get).rest.take 2 then readCounted fuel line
    else if ← standsAtEnd then fail .loopName
    else do
      let word ← readParts fuel .bare
      match word.plain?.filter Name.isChosen with
      | none => fail .loopName
      | some name => do
        skipLines ((← get).rest.length + 1)
        if keyword? (← get).rest = some "in" then do
          drop 2
          let values ← readWords fuel
          match (← get).rest with
          | ';' :: ';' :: _ => unexpected none
          | ';' :: _ => drop 1
          | '\n' :: _ => drop 1
          | _ => unexpected none
          skipLines ((← get).rest.length + 1)
          return .each line name (some values) (← readRound fuel)
        else do
          if (← get).rest.head? = some ';' then drop 1
          skipLines ((← get).rest.length + 1)
          return .each line name none (← readRound fuel)

/-- Words up to the end of a line or command. -/
def readWords : Nat → Reader (List Word)
  | 0 => fail .nesting
  | fuel + 1 => do
    skipBlanks
    if ← standsAtEnd then pure []
    else do
      let first ← readParts fuel .bare
      let later ← readWords fuel
      pure (first :: later)

/-- The branches of a choice, up to and with its last keyword. -/
def readBranches : Nat → Reader (List (List Word × Script × Sequel))
  | 0 => fail .nesting
  | fuel + 1 => do
    skipLines ((← get).rest.length + 1)
    if keyword? (← get).rest = some "esac" then do
      drop 4
      pure []
    else do
      if (← get).rest.head? = some '(' then drop 1
      let patterns ← readPatterns fuel
      let body ← readList fuel
      match sequel? (← get).dialect (← get).rest with
      | some (sequel, length) =>
        drop length
        let later ← readBranches fuel
        pure ((patterns, body, sequel) :: later)
      | none =>
        if keyword? (← get).rest = some "esac" then do
          drop 4
          pure [(patterns, body, .over)]
        else unexpected (some (inQuotes ";;"))

/-- The patterns in front of a branch, separated by bars, up to the parenthesis that closes them. -/
def readPatterns : Nat → Reader (List Word)
  | 0 => fail .nesting
  | fuel + 1 => do
    skipBlanks
    if ← standsAtEnd then unexpected (some (inQuotes ")"))
    else do
      let first ← readParts fuel .bare
      skipBlanks
      match (← get).rest with
      | '|' :: _ =>
        drop 1
        return first :: (← readPatterns fuel)
      | _ =>
        expectClosing
        pure [first]

/-- The members of an array, up to and with the closing parenthesis. -/
def readMembers : Nat → Reader (List (Member Word))
  | 0 => fail .nesting
  | fuel + 1 => do
    skipLines ((← get).rest.length + 1)
    let text := (← get).rest
    let placed : Reader (Member Word) := do
      drop 1
      let place ← readParts fuel (.subscript 0)
      let sign := (← get).rest.take 3
      let appends := sign = [']', '+', '=']
      if !appends && sign.take 2 ≠ [']', '='] then unexpected none
      drop (if appends then 3 else 2)
      return { place := some place, appends, value := ← readParts fuel .bare }
    match text with
    | ')' :: _ =>
      drop 1
      pure []
    | [] => fail .openParenthesis
    | c :: _ =>
      let usual : Reader (Member Word) := return { place := none, appends := false, value := ← readWord fuel }
      let first ← if c = '[' then either placed usual else usual
      return first :: (← readMembers fuel)

/-- An assignment in the extended dialect, behind the name: of a member perhaps, and perhaps behind the
old value. -/
def readAssignment : Nat → Octets → Reader (Assignment Word)
  | 0, _ => fail .nesting
  | fuel + 1, name => do
    drop name.length
    let place : Option Word ← if (← get).rest.head? = some '[' then do
        drop 1
        let parts ← readParts fuel (.subscript 0)
        if (← get).rest.head? = some ']' then drop 1 else unexpected none
        pure (some parts)
      else pure none
    let appends := (← get).rest.head? = some '+'
    if appends then drop 1
    if (← get).rest.head? = some '=' then drop 1 else unexpected none
    if (← get).rest.head? = some '(' then do
      drop 1
      return { name, place, appends, given := .members (← readMembers fuel) }
    else return { name, place, appends, given := .word (← readParts fuel .bare) }

/-- A simple command: assignments, then words, with redirections anywhere; or a function's
definition, which shows behind the first word. -/
def readSimple : Nat → Nat → List (Assignment Word) → List Word → List (Redirection Word) → Reader Script
  | 0, _, _, _, _ => fail .nesting
  | fuel + 1, line, assignments, words, redirections => do
    skipBlanks
    unfoldWord (words.isEmpty && !(assignments.isEmpty && redirections.isEmpty))
    let source ← get
    let text := source.rest
    let name := Name.chosenAt text
    match numbered? source.dialect text with
    | some sign =>
      let redirection ← readRedirection fuel sign
      readSimple fuel line assignments words (redirections ++ redirection)
    | none =>
      let command := (words.head?.bind Word.plain?).getD []
      if text.head? = some '(' ∧ assignments.isEmpty ∧ words.length = 1 ∧ redirections.isEmpty then
        readFunction fuel command
      else if ← standsAtEnd then pure (.simple line assignments words redirections)
      else if source.dialect = .extended && words.length = 1 && assignments.isEmpty
          && declaring.contains (String.ofList command) then
        readDeclaration fuel line command [] redirections
      else do
        let next : Assignment Word ⊕ Word ← if !words.isEmpty || name = [] then .inr <$> readParts fuel .bare
          else if source.dialect = .extended then
            preferring (.inl <$> readAssignment fuel name) (.inr <$> readParts fuel .bare)
          else if (text.drop name.length).head? = some '=' then do
            drop (name.length + 1)
            let value ← readParts fuel .bare
            pure (.inl { name, place := none, appends := false, given := .word value })
          else .inr <$> readParts fuel .bare
        match next with
        | .inl assignment => readSimple fuel line (assignments ++ [assignment]) words redirections
        | .inr word => readSimple fuel line assignments (words ++ [word]) redirections

/-- The arguments of a command that declares variables. -/
def readDeclaration : Nat → Nat → Octets → List (Word ⊕ Assignment Word) → List (Redirection Word) → Reader Script
  | 0, _, _, _, _ => fail .nesting
  | fuel + 1, line, command, arguments, redirections => do
    skipBlanks
    let source ← get
    let name := Name.chosenAt source.rest
    match numbered? source.dialect source.rest with
    | some sign =>
      let redirection ← readRedirection fuel sign
      readDeclaration fuel line command arguments (redirections ++ redirection)
    | none =>
      if ← standsAtEnd then pure (.declaration line command arguments redirections)
      else do
        let word : Reader (Word ⊕ Assignment Word) := .inl <$> readParts fuel .bare
        let argument ← if name = [] then word else preferring (.inr <$> readAssignment fuel name) word
        readDeclaration fuel line command (arguments ++ [argument]) redirections

/-- The rest of a definition behind the name, which the standard dialect holds to what names are like. -/
def readFunction : Nat → Octets → Reader Script
  | 0, _ => fail .nesting
  | fuel + 1, name => do
    drop 1
    expectClosing
    let isStandard := Name.isChosen name && !Name.ofSpecialCommands.contains (String.ofList name)
    let extended ← isExtended
    if !isStandard && !(extended && name ≠ []) then fail .functionName
    else do
      skipLines ((← get).rest.length + 1)
      return .define name (← readCommand fuel)

end

/-- How deep reading may descend for each character. -/
def depthPerCharacter : Nat := 12

/-- What comes next in a source: a script and what is left behind it, if there is one. -/
inductive Row where
  | over
  | faulty (fault : Fault)
  | script (body : Script) (rest : Source)

/-- What stands on the next lines up to the end of a command. -/
def nextRow (source : Source) : Row :=
  let depth := depthPerCharacter * (source.rest.length + 2)
  match (skipLines (source.rest.length + 1)).run source with
  | .error fault => .faulty fault
  | .ok ((), source) =>
    if source.rest = [] then .over
    else match (readRow depth).run { source with unfolding := [], following := none } with
      | .error fault => .faulty fault
      | .ok (body, rest) => .script body rest

/-- Whether no command is left. -/
def Source.isOver (source : Source) : Bool :=
  match (skipLines (source.rest.length + 1)).run source with
  | .error _ => false
  | .ok ((), source) => source.rest.isEmpty

end Reader

end ComponentViews.Shell
