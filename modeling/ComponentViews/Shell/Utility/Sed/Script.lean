import ComponentViews.Shell.Regex

/-! Editing scripts: commands for lines, each with the lines that it is for, and how they
are written. -/

namespace ComponentViews.Shell.Sed

/-- Lines by number, from a number on in steps, the last one, or those that match; without
an expression of its own it is the one used last. -/
inductive Address where
  | line (number : Nat)
  | steps (first step : Nat)
  | last
  | fitting (regex : Option Regex)
  deriving DecidableEq, Repr

/-- Where a range ends: at an address, some lines later, or at a multiple. -/
inductive Ending where
  | address (value : Address)
  | later (count : Nat)
  | multiple (number : Nat)
  deriving DecidableEq, Repr

structure Selector where
  first : Option Address
  ending : Option Ending
  negated : Bool
  deriving DecidableEq, Repr

/-- How letters are written from some point of a replacement on. -/
inductive Casing where
  | upper
  | lower
  | upperOnce
  | lowerOnce
  | asIs
  deriving DecidableEq, Repr

inductive Piece where
  | text (value : Octets)
  /-- The text of a group, or of the whole match for zero. -/
  | group (number : Nat)
  | casing (value : Casing)
  deriving DecidableEq, Repr

structure Substitution where
  regex : Option Regex
  pieces : List Piece
  /-- Which match is replaced first. -/
  number : Nat
  /-- Whether all matches from there on are replaced. -/
  all : Bool
  prints : Bool
  file : Option Octets
  deriving DecidableEq, Repr

inductive Command where
  /-- What it is around: that many commands follow. -/
  | block (length : Nat)
  | nothing
  | label (name : Octets)
  | branch (label : Octets)
  /-- Branches if something was replaced since the last line or branch, or if nothing was. -/
  | branchIf (replaced : Bool) (label : Octets)
  | substitute (substitution : Substitution)
  | transliterate (pairs : List (Char × Char))
  | delete
  | deleteFirst
  | print
  | printFirst
  | printPlainly
  | printNumber
  | next
  | appendNext
  | hold
  | appendToHold
  | recall
  | appendHeld
  | exchange
  | insert (text : Octets)
  | append (text : Octets)
  | change (text : Octets)
  | readFile (path : Octets)
  | writeFile (path : Octets)
  | empty
  | quit (prints : Bool) (status : Nat)
  deriving DecidableEq, Repr

structure Instruction where
  selector : Selector
  command : Command
  deriving DecidableEq, Repr

/-! ### Reading -/

inductive Cause where
  | unknownCommand (letter : Char)
  | missingCommand
  | unterminatedAddress
  | unterminatedSubstitution
  | unterminatedTransliteration
  | unequalLengths
  | unknownOption
  | extraCharacters
  | unmatchedOpening
  | unexpectedClosing
  | unexpectedComma
  | noAddresses (letter : Char)
  | expectedText
  | invalidReference (number : Nat)
  | regex (fault : Regex.Fault)
  deriving DecidableEq, Repr

def Cause.message : Cause → String
  | .unknownCommand letter => "unknown command: \x60" ++ String.ofList [letter] ++ "'"
  | .missingCommand => "missing command"
  | .unterminatedAddress => "unterminated address regex"
  | .unterminatedSubstitution => "unterminated \x60s' command"
  | .unterminatedTransliteration => "unterminated \x60y' command"
  | .unequalLengths => "strings for \x60y' command are different lengths"
  | .unknownOption => "unknown option to \x60s'"
  | .extraCharacters => "extra characters after command"
  | .unmatchedOpening => "unmatched \x60\x7b'"
  | .unexpectedClosing => "unexpected \x60\x7d'"
  | .unexpectedComma => "unexpected \x60,'"
  | .noAddresses ':' => ": doesn't want any addresses"
  | .noAddresses letter => "\x60" ++ String.ofList [letter] ++ "' doesn't want any addresses"
  | .expectedText => "expected \\ after \x60a', \x60c' or \x60i'"
  | .invalidReference number => "invalid reference \\" ++ toString number ++ " on \x60s' command's RHS"
  | .regex fault => fault.message

/-- A cause, and how much of the script is left behind it. -/
structure Fault where
  left : Nat
  cause : Cause
  deriving DecidableEq, Repr

/-- Reads a part of a script and returns the rest. -/
abbrev Reader (α : Type) := Octets → Except Fault (α × Octets)

def faultAt {α : Type} (rest : Octets) (cause : Cause) : Except Fault α := .error { left := rest.length, cause }

def isBlank (c : Char) : Bool := c = ' ' ∨ c = '\t'

def isSpace (c : Char) : Bool := isBlank c ∨ c = '\n' ∨ c = ';'

def readNumber? (input : Octets) : Option (Nat × Octets) :=
  let digits := input.takeWhile Name.isDigit
  if digits = [] then none
  else some (digits.foldl (fun value c => value * 10 + (c.toNat - '0'.toNat)) 0, input.drop digits.length)

/-- How much of a text a bracket expression takes, from its opening bracket on. -/
def bracketLength (input : Octets) : Option Nat :=
  match CharSet.read? '^' ((input.drop 1).map (·, false)) with
  | some (_, rest) => some (input.length - rest.length)
  | none => none

/-- A part up to a delimiter, which a backslash makes an ordinary character, as brackets
do where an expression is read. -/
def readDelimited (delimiter : Char) (brackets : Bool) : Nat → Octets → Option (Octets × Octets)
  | 0, _ => none
  | _ + 1, [] => none
  | fuel + 1, '\\' :: c :: rest =>
    (readDelimited delimiter brackets fuel rest).map fun (inner, rest) =>
      if c = delimiter then (if c = '\n' ∨ !brackets then '\\' :: c :: inner else c :: inner, rest)
      else ('\\' :: c :: inner, rest)
  | fuel + 1, c :: rest =>
    if c = delimiter then some ([], rest)
    else match if brackets ∧ c = '[' then bracketLength (c :: rest) else none with
      | some length =>
        (readDelimited delimiter brackets fuel ((c :: rest).drop length)).map fun (inner, after) =>
          ((c :: rest).take length ++ inner, after)
      | none => (readDelimited delimiter brackets fuel rest).map fun (inner, rest) => (c :: inner, rest)

/-- The character that a letter behind a backslash stands for. -/
def control? : Char → Option Char
  | 'n' => some '\n'
  | 't' => some '\t'
  | 'a' => some '\x07'
  | 'f' => some '\x0c'
  | 'r' => some '\x0d'
  | 'v' => some '\x0b'
  | _ => none

/-- An expression in which controls stand for themselves. -/
def resolveControls : Octets → Octets
  | '\\' :: c :: rest =>
    match control? c with
    | some control => control :: resolveControls rest
    | none => '\\' :: c :: resolveControls rest
  | c :: rest => c :: resolveControls rest
  | [] => []

/-- An expression, unless it is empty and so stands for the one used last. -/
def parseRegex (extended ignoresCase : Bool) (source rest : Octets) : Except Fault (Option Regex × Nat) :=
  if source = [] then .ok (none, 0)
  else match Regex.parse (if extended then .extended else .basic) (resolveControls source) with
    | .ok (regex, groups) => .ok (some (if ignoresCase then regex.ignoringCase else regex), groups)
    | .error problem => faultAt rest (.regex problem)

/-- An address, if one stands at the start. -/
def readAddress (extended : Bool) (input : Octets) : Except Fault (Option Address × Octets) :=
  let fitting (delimiter : Char) (rest : Octets) : Except Fault (Option Address × Octets) :=
    match readDelimited delimiter true (rest.length + 1) rest with
    | none => faultAt [] .unterminatedAddress
    | some (source, rest) =>
      let flags := rest.takeWhile fun c => c = 'I' ∨ c = 'M'
      let rest := rest.drop flags.length
      (parseRegex extended (flags.contains 'I') source rest).map fun (regex, _) => (some (.fitting regex), rest)
  match input with
  | '$' :: rest => .ok (some .last, rest)
  | '/' :: rest => fitting '/' rest
  | '\\' :: delimiter :: rest => fitting delimiter rest
  | input =>
    match readNumber? input with
    | none => .ok (none, input)
    | some (first, '~' :: rest) =>
      let (step, rest) := (readNumber? rest).getD (0, rest)
      .ok (some (.steps first step), rest)
    | some (number, rest) => .ok (some (.line number), rest)

/-- The lines that a command is for. -/
def readSelector (extended : Bool) (input : Octets) : Except Fault (Selector × Octets) := do
  let (first, rest) ← readAddress extended input
  let behind := rest.dropWhile isBlank
  let (ending, rest) ← match behind with
    | ',' :: rest =>
      let rest := rest.dropWhile isBlank
      if first.isNone then faultAt rest .unexpectedComma
      else match rest with
        | '+' :: rest =>
          let (count, rest) := (readNumber? rest).getD (0, rest)
          pure (some (Ending.later count), rest)
        | '~' :: rest =>
          let (number, rest) := (readNumber? rest).getD (0, rest)
          pure (some (Ending.multiple number), rest)
        | rest => do
          let (address, after) ← readAddress extended rest
          match address with
          | some address => pure (some (Ending.address address), after)
          | none => faultAt (rest.drop 1) .unexpectedComma
    | rest => pure (none, rest)
  let rest := rest.dropWhile isBlank
  match rest with
  | '!' :: rest => pure ({ first, ending, negated := true }, rest.dropWhile fun c => c = '!' ∨ isBlank c)
  | rest => pure ({ first, ending, negated := false }, rest)

def casing? : Char → Option Casing
  | 'U' => some .upper
  | 'L' => some .lower
  | 'u' => some .upperOnce
  | 'l' => some .lowerOnce
  | 'E' => some .asIs
  | _ => none

/-- The pieces of a replacement. -/
def readPieces : Octets → List Piece
  | '\\' :: c :: rest =>
    let piece : Piece := match casing? c, control? c with
      | some casing, _ => .casing casing
      | none, some control => .text [control]
      | none, none => if Name.isDigit c then .group (c.toNat - '0'.toNat) else .text [c]
    piece :: readPieces rest
  | '&' :: rest => .group 0 :: readPieces rest
  | c :: rest => .text [c] :: readPieces rest
  | [] => []

/-- Whether a command can end in front of a text. -/
def atEnd (rest : Octets) : Bool :=
  match rest.dropWhile isBlank with
  | [] => true
  | c :: _ => c = '\n' ∨ c = ';' ∨ c = '\x7d' ∨ c = '#'

/-- The options of a substitution. -/
def readFlags (extended : Bool) (source : Octets) (pieces : List Piece) :
    Nat → Bool → Substitution → Reader Substitution
  | 0, _, _, rest => faultAt rest .unknownOption
  | fuel + 1, ignoresCase, found, input =>
    match input with
    | 'g' :: rest => readFlags extended source pieces fuel ignoresCase { found with all := true } rest
    | 'p' :: rest => readFlags extended source pieces fuel ignoresCase { found with prints := true } rest
    | 'i' :: rest => readFlags extended source pieces fuel true found rest
    | 'I' :: rest => readFlags extended source pieces fuel true found rest
    | 'm' :: rest => readFlags extended source pieces fuel ignoresCase found rest
    | 'M' :: rest => readFlags extended source pieces fuel ignoresCase found rest
    | 'w' :: rest =>
      let path := (rest.dropWhile isBlank).takeWhile (· ≠ '\n')
      finish ignoresCase { found with file := some path } (rest.dropWhile (· ≠ '\n'))
    | input =>
      match readNumber? input with
      | some (number, rest) => readFlags extended source pieces fuel ignoresCase { found with number } rest
      | none => if atEnd input then finish ignoresCase found input else faultAt (input.drop 1) .unknownOption
where
  finish (ignoresCase : Bool) (found : Substitution) (rest : Octets) : Except Fault (Substitution × Octets) := do
    let (regex, groups) ← parseRegex extended ignoresCase source rest
    let tooHigh := pieces.find? fun piece => match piece with
      | .group number => regex.isSome && number > groups
      | _ => false
    match tooHigh with
    | some (.group number) => faultAt rest (.invalidReference number)
    | _ => pure ({ found with regex, pieces }, rest)

def readSubstitution (extended : Bool) (input : Octets) : Except Fault (Substitution × Octets) :=
  match input with
  | [] => faultAt [] .unterminatedSubstitution
  | delimiter :: rest =>
    match readDelimited delimiter true (rest.length + 1) rest with
    | none => faultAt [] .unterminatedSubstitution
    | some (source, rest) =>
      match readDelimited delimiter false (rest.length + 1) rest with
      | none => faultAt [] .unterminatedSubstitution
      | some (replacement, rest) =>
        readFlags extended source (readPieces replacement) (rest.length + 1) false
          { regex := none, pieces := [], number := 1, all := false, prints := false, file := none } rest

/-- The characters of a list for transliteration. -/
def readCharacters (delimiter : Char) : Octets → List Char
  | '\\' :: c :: rest =>
    if c = '\\' ∨ c = delimiter then c :: readCharacters delimiter rest
    else match control? c with
      | some control => control :: readCharacters delimiter rest
      | none => '\\' :: c :: readCharacters delimiter rest
  | c :: rest => c :: readCharacters delimiter rest
  | [] => []

def readTransliteration (input : Octets) : Except Fault (List (Char × Char) × Octets) :=
  match input with
  | [] => faultAt [] .unterminatedTransliteration
  | delimiter :: rest =>
    match readDelimited delimiter false (rest.length + 1) rest with
    | none => faultAt [] .unterminatedTransliteration
    | some (source, rest) =>
      match readDelimited delimiter false (rest.length + 1) rest with
      | none => faultAt [] .unterminatedTransliteration
      | some (target, rest) =>
        let source := readCharacters delimiter source
        let target := readCharacters delimiter target
        if source.length ≠ target.length then faultAt rest .unequalLengths else .ok (source.zip target, rest)

/-- A text up to the end of a line that no backslash joins to the next. -/
def readTextLines : Octets → Octets × Octets
  | '\\' :: c :: rest =>
    let (text, rest) := readTextLines rest
    (c :: text, rest)
  | '\n' :: rest => ([], rest)
  | c :: rest =>
    let (text, rest) := readTextLines rest
    (c :: text, rest)
  | [] => ([], [])

/-- The text of a command that puts some in. -/
def readText (input : Octets) : Except Fault (Octets × Octets) :=
  match input.dropWhile isBlank with
  | [] => faultAt [] .expectedText
  | '\\' :: rest =>
    let behind := rest.dropWhile isBlank
    let body := match behind with
      | '\n' :: body => body
      | _ => rest
    let (text, rest) := readTextLines body
    .ok (if body = [] then [] else text ++ ['\n'], rest)
  | rest =>
    let (text, rest) := readTextLines rest
    .ok (text ++ ['\n'], rest)

/-- A word up to the end of the command. -/
def readLabel (input : Octets) : Octets × Octets :=
  let input := input.dropWhile isBlank
  let name := input.takeWhile fun c => !isSpace c ∧ c ≠ '\x7d'
  (name, input.drop name.length)

/-- A path up to the end of the line. -/
def readPath (input : Octets) : Octets × Octets :=
  let input := input.dropWhile isBlank
  (input.takeWhile (· ≠ '\n'), input.dropWhile (· ≠ '\n'))

/-- A command without arguments, by its letter. -/
def plain? : Char → Option Command
  | 'd' => some .delete
  | 'D' => some .deleteFirst
  | 'p' => some .print
  | 'P' => some .printFirst
  | 'l' => some .printPlainly
  | '=' => some .printNumber
  | 'n' => some .next
  | 'N' => some .appendNext
  | 'h' => some .hold
  | 'H' => some .appendToHold
  | 'g' => some .recall
  | 'G' => some .appendHeld
  | 'x' => some .exchange
  | 'z' => some .empty
  | _ => none

/-- A command other than a block, behind its letter. -/
def readCommand (extended : Bool) (letter : Char) (rest : Octets) : Except Fault (Command × Octets) :=
  match letter with
  | 's' => (readSubstitution extended rest).map fun (found, rest) => (.substitute found, rest)
  | 'y' => (readTransliteration rest).map fun (pairs, rest) => (.transliterate pairs, rest)
  | 'a' => (readText rest).map fun (text, rest) => (.append text, '\n' :: rest)
  | 'i' => (readText rest).map fun (text, rest) => (.insert text, '\n' :: rest)
  | 'c' => (readText rest).map fun (text, rest) => (.change text, '\n' :: rest)
  | ':' => let (name, rest) := readLabel rest
    .ok (.label name, rest)
  | 'b' => let (name, rest) := readLabel rest
    .ok (.branch name, rest)
  | 't' => let (name, rest) := readLabel rest
    .ok (.branchIf true name, rest)
  | 'T' => let (name, rest) := readLabel rest
    .ok (.branchIf false name, rest)
  | 'r' => let (path, rest) := readPath rest
    .ok (.readFile path, rest)
  | 'w' => let (path, rest) := readPath rest
    .ok (.writeFile path, rest)
  | 'q' => let (status, rest) := (readNumber? (rest.dropWhile isBlank)).getD (0, rest)
    .ok (.quit true status, rest)
  | 'Q' => let (status, rest) := (readNumber? (rest.dropWhile isBlank)).getD (0, rest)
    .ok (.quit false status, rest)
  | letter =>
    match plain? letter with
    | some command => .ok (command, rest)
    | none => faultAt rest (.unknownCommand letter)

/-- The instructions up to the end, or up to the brace that closes a block. -/
def readInstructions (extended : Bool) : Nat → Bool → Octets → Except Fault (List Instruction × Octets)
  | 0, _, rest => faultAt rest .unmatchedOpening
  | fuel + 1, inBlock, input =>
    match input.dropWhile isSpace with
    | [] => if inBlock then .error { left := input.length, cause := .unmatchedOpening } else .ok ([], [])
    | '#' :: rest => readInstructions extended fuel inBlock (rest.dropWhile (· ≠ '\n'))
    | '\x7d' :: rest => if inBlock then .ok ([], rest) else faultAt rest .unexpectedClosing
    | input => do
      let (selector, rest) ← readSelector extended input
      match rest with
      | [] => faultAt [] .missingCommand
      | '\x7d' :: rest => faultAt rest (if inBlock then .noAddresses '\x7d' else .unexpectedClosing)
      | '\x7b' :: rest =>
        let (body, rest) ← readInstructions extended fuel true rest
        let (later, rest) ← readInstructions extended fuel inBlock rest
        pure ({ selector, command := .block body.length } :: body ++ later, rest)
      | letter :: rest =>
        if letter = ':' ∧ selector.first.isSome then faultAt rest (.noAddresses letter)
        let (command, rest) ← readCommand extended letter rest
        if !atEnd rest then faultAt ((rest.dropWhile isBlank).drop 1) .extraCharacters
        else
          let (later, rest) ← readInstructions extended fuel inBlock (rest.dropWhile isBlank)
          pure ({ selector, command } :: later, rest)

/-- The instructions that a source spells out. -/
def parse (extended : Bool) (source : Octets) : Except Fault (List Instruction) :=
  (readInstructions extended (source.length + 2) false source).map Prod.fst

end ComponentViews.Shell.Sed
