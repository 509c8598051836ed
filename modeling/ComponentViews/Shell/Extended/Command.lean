import ComponentViews.Shell.Extended.Condition
import ComponentViews.Shell.Extended.Declaration
import ComponentViews.Shell.Extended.Directory
import ComponentViews.Shell.Extended.Input
import ComponentViews.Shell.Extended.Job
import ComponentViews.Shell.Extended.Setting
import ComponentViews.Shell.Lookup
import ComponentViews.Shell.Printing

/-! The commands of the extended dialect that run no others, by their names. -/

namespace ComponentViews.Shell.Builtin.Extended
open Step

/-! ### Where the script goes on -/

/-- Complains about too many arguments, which ends the commands on the line. -/
def surplus {α : Type} : Step α := Variables.forsake (.ofText "too many arguments")

/-- Ends the script with the status that an argument gives. -/
def exit (arguments : List Octets) : Step Unit := do
  let arguments := if arguments.head? = some ['-', '-'] then arguments.drop 1 else arguments
  match arguments with
  | [] => throw .exited
  | word :: rest =>
    match Format.integer? word with
    | none => do
      fail 2 (wantNumber word)
      throw .exited
    | some status => do
      if !rest.isEmpty then surplus
      setStatus (status.fmod 256).toNat
      throw .exited

/-- Leaves a function or a script with a status. -/
def leave (arguments : List Octets) : Step Unit := do
  let state ← get
  let arguments := if arguments.head? = some ['-', '-'] then arguments.drop 1 else arguments
  let isPart := state.process.depth > 0 || (state.process.origin.isSome && state.process.calls.isEmpty)
  match arguments with
  | word :: rest =>
    match Format.integer? word with
    | none => fail 2 (wantNumber word)
    | some status => do
      if !rest.isEmpty then surplus
      setStatus (status.fmod 256).toNat
  | [] => pure ()
  if isPart then throw .returned
  else fail 2 (.ofText "can only \x60return' from a function or sourced script")

/-- Ends rounds of the loops around the command, if there are any. -/
def skip (goesOn : Bool) (arguments : List Octets) : Step Unit := do
  let loops := (← get).process.loops
  if loops = 0 then
    fail 0 (.ofText "only meaningful in a \x60for', \x60while', or \x60until' loop")
  else match arguments with
    | [] => do
      setStatus 0
      throw (.skipped 1 goesOn)
    | word :: rest =>
      match Format.integer? word with
      | none => do
        fail 128 (wantNumber word)
        throw .exited
      | some count => do
        if !rest.isEmpty then surplus
        if count ≤ 0 then
          blame word "loop count out of range"
          throw (.skipped loops false)
        setStatus 0
        throw (.skipped (min count.toNat loops) goesOn)

def shift (arguments : List Octets) : Step Unit := do
  let state ← get
  match arguments with
  | [] => count state 1
  | word :: rest =>
    match Format.integer? word with
    | none => fail 1 (wantNumber word)
    | some number => do
      if !rest.isEmpty then surplus
      if number < 0 then blame word "shift count out of range" else count state number.toNat
where
  count (state : State) (number : Nat) : Step Unit :=
    if number > state.process.arguments.length then
      if state.hasSwitch "shift_verbose" then blame (.ofNat number) "shift count out of range" else setStatus 1
    else set (state.withArguments (state.process.arguments.drop number)).succeed

/-! ### Expressions -/

/-- Takes the values of expressions, the last of which tells the status. -/
def compute (arguments : List Octets) : Step Unit :=
  if arguments.isEmpty then fail 1 (.ofText "expression expected") else go arguments
where
  go : List Octets → Step Unit
    | [] => pure ()
    | text :: rest => do
      match Calculation.run text (← get) with
      | .ok (value, state) => do
        set (state.answer (value ≠ 0))
        go rest
      | .error message => fail 1 message

/-! ### Printing -/

open Printing in
/-- The escape behind a backslash; some stand for themselves where arguments hold them, and what is
wrong with it may be told or not. -/
def readEscape (inner tells : Bool) (text : Octets) : Escape :=
  let missing (letter : Char) (rest : Octets) (kind : String) : Escape :=
    { text := ['\\', letter], rest
      complaints := if tells then
          [{ message := .ofText ("missing " ++ kind ++ " digit for \\") ++ [letter], fails := false }] else [] }
  let numbered (letter : Char) (most : Nat) (kind : String) (image : Nat → Octets) (rest : Octets) : Escape :=
    match readHexadecimal? most rest with
    | some (value, behind) => { text := image value, rest := behind }
    | none => missing letter rest kind
  match text with
  | [] => { text := ['\\'], rest := [] }
  | 'x' :: rest => numbered 'x' 2 "hex" (fun value => [Format.octet value]) rest
  | 'u' :: rest => numbered 'u' 4 "unicode" Quoting.character rest
  | 'U' :: rest => numbered 'U' 8 "unicode" Quoting.character rest
  | 'E' :: rest => { text := ['\x1b'], rest }
  | c :: rest =>
    if inner && c = 'c' then { text := [], rest, goesOn := false }
    else if inner && c = '0' then readOctet rest 3
    else if !inner && c ∈ ['"', '\'', '?'] then { text := [c], rest }
    else match Format.letterEscape? c, Format.octalDigit? c with
      | some value, _ => { text := [value], rest }
      | none, some _ => if inner && !tells then { text := ['\\', c], rest } else readOctet text 3
      | none, none => { text := ['\\', c], rest }

open Printing in
/-- What is wrong with a number. -/
def judge {α : Type} (argument : Octets) (extracted : Extracted α) : List Complaint :=
  let kind := match argument with
    | '0' :: 'x' :: _ => ": invalid hex number"
    | '0' :: 'X' :: _ => ": invalid hex number"
    | '0' :: _ => ": invalid octal number"
    | _ => ": invalid number"
  if argument.isEmpty || ([['\''], ['"']] : List Octets).contains argument then []
  else if !extracted.isThere || !extracted.isWhole then [{ message := argument ++ .ofText kind }]
  else if extracted.isOutside then
    let warning := Octets.ofText "warning: " ++ argument ++ .ofText ": Numerical result out of range"
    [{ message := warning, fails := false }]
  else []

open Printing in
/-- The manner of the command that prints by a format. -/
def manner (state : State) : Manner where
  readEscape := readEscape false true
  readInner := readEscape true true
  integer signed := numberOf Int.ofNat (extractInteger signed) judge
  real := numberOf Numeral.ofNat extractReal judge
  own? letter layout argument := match letter with
    | 'q' => some { text := layout.ofText (Quoting.backslashed argument) }
    | 'Q' =>
      let text := match layout.precision with
        | some precision => argument.take precision
        | none => argument
      some { text := layout.pad (Quoting.backslashed text) }
    | 'n' => some { text := [] }
    | _ => none
  takes _ _ := true
  refusal directive letter := match letter with
    | some letter => '\x60' :: letter :: Octets.ofText "': invalid format character"
    | none => '\x60' :: directive ++ .ofText "': missing format character"
  moment? := some fun form argument =>
    let now := Moment.ofClock state.world.clock
    let (value, complaints) := match argument with
      | some argument => numberOf Int.ofNat (extractInteger true) judge argument
      | none => (-1, [])
    let zone := Zone.ofText ((state.value? (.ofText "TZ")).getD [])
    let moment : Moment := if value < 0 ∧ value ≥ -2 then now else { seconds := value, nanoseconds := 0 }
    { text := moment.print zone (if form.isEmpty then .ofText "%H:%M:%S" else form), complaints }

/-- How much of a text are lines that have ended. -/
def wholeLines (text : Octets) : Nat := text.length - (text.reverse.takeWhile (· ≠ '\n')).length

/-- Prints by a format, or gives a variable what would be printed. -/
def printFormatted (arguments : List Octets) : Step Unit := withGiven [] ['v'] arguments fun given => do
  match given.operands with
  | [] => tellUsage
  | format :: arguments =>
    let holder := given.value? 'v'
    let wanted := holder.map Wanted.ofText
    if wanted.any fun wanted => !Name.isChosen wanted.name || wanted.isAssigned then
      fail 2 (badIdentifier (holder.getD []))
    else
      let state ← get
      let printed := Printing.print (manner state) format arguments
      let done ← match holder with
        | some name => do
          for complaint in printed.complaints do modify (·.complain complaint.message)
          putNamed name printed.text
        | none => do
          modify (printed.deliver wholeLines fun message state => state.complain message)
          pure true
      if done then setStatus (if printed.fails then 1 else 0)

/-- Escapes in printed arguments: the text, and whether output goes on. -/
def unescaped : Nat → Octets → Octets × Bool
  | 0, text => (text, true)
  | _ + 1, [] => ([], true)
  | fuel + 1, '\\' :: rest =>
    let escape := readEscape true false rest
    if !escape.goesOn then ([], false)
    else
      let (later, goesOn) := unescaped fuel escape.rest
      (escape.text ++ later, goesOn)
  | fuel + 1, c :: rest =>
    let (later, goesOn) := unescaped fuel rest
    (c :: later, goesOn)

/-- Prints arguments. -/
def printPlainly (arguments : List Octets) : Step Unit := do
  let state ← get
  let isOption (argument : Octets) : Bool :=
    argument.head? = some '-' && argument.length > 1 && (argument.drop 1).all fun c => c ∈ ['n', 'e', 'E']
  let letters := (arguments.takeWhile isOption).flatten
  let text : Octets := [' '].intercalate (arguments.dropWhile isOption)
  let escapes := ((letters.reverse.find? fun c => c = 'e' || c = 'E').map (· == 'e')).getD (state.hasSwitch "xpg_echo")
  let (text, goesOn) := if escapes then unescaped (text.length + 1) text else (text, true)
  let text := text ++ (if goesOn ∧ !letters.contains 'n' then ['\n'] else [])
  set (state.succeed.print text)

/-! ### Options of a script -/

/-- Reads the next option among arguments into a variable. A part of an argument that has been read
already is remembered by its length. -/
def getOption (arguments : List Octets) : Step Unit := do
  match arguments with
  | known :: name :: given =>
    let state ← get
    let words := if given = [] then state.process.arguments else given
    let wanted := (((state.value? State.nextIndex).bind Format.natural?).getD 1) - 1
    let index := if wanted > words.length then 0 else wanted
    let passed := if index = state.process.passed.1 then state.process.passed.2.getD 0 else 0
    let silent := known.head? = some ':'
    let goOn (index passed : Nat) : Step Unit := modify fun state =>
      (state.assign State.nextIndex (.ofNat (index + 1))).adjust fun process => { process with passed := (index, some passed) }
    let put (sign : Char) (value : Option Octets) (status : Nat) : Step Unit := do
      modify fun state => match value with
        | some value => state.assign optionValue value
        | none => state.forget optionValue
      if Name.isChosen name then
        let _ ← unnamed (Variables.assign name [sign] false)
        setStatus status
      else fail 1 (badIdentifier name)
    let tell (message : String) (letter : Char) : Step Unit := do
      let state ← get
      if !silent && state.value? (.ofText "OPTERR") ≠ some ['0'] then
        set (state.report (state.process.name ++ .ofText (": " ++ message) ++ [letter, '\n']))
    match (words[index]?).getD [] with
    | '-' :: letter :: letters =>
      if letter :: letters = ['-'] then
        goOn (index + 1) 0
        put '?' none 1
      else
        let behind := (letter :: letters).drop passed
        let letter := behind.headD '?'
        let rest := behind.drop 1
        let follow := (known.dropWhile (· ≠ letter)).drop 1
        if letter = ':' ∨ !known.contains letter then
          tell "illegal option -- " letter
          if rest = [] then goOn (index + 1) 0 else goOn index (passed + 1)
          put '?' (if silent then some [letter] else none) 0
        else if follow.head? ≠ some ':' then
          if rest = [] then goOn (index + 1) 0 else goOn index (passed + 1)
          put letter none 0
        else if rest ≠ [] then
          goOn (index + 1) 0
          put letter (some rest) 0
        else match words[index + 1]? with
          | some value => do
            goOn (index + 2) 0
            put letter (some value) 0
          | none => do
            tell "option requires an argument -- " letter
            goOn (index + 1) 0
            if silent then put ':' (some [letter]) 0 else put '?' none 0
    | _ => do
      goOn index 0
      put '?' none 1
  | _ => tellUsage

/-! ### What names stand for -/

/-- What a name is, in a word. -/
def kindOf (state : State) (name : Octets) (evenFunctions : Bool) : Option String :=
  if (Reader.keywords ++ Reader.extendedKeywords).contains (String.ofList name) then some "keyword"
  else match state.meaning name evenFunctions with
    | .function _ => some "function"
    | .builtin _ => some "builtin"
    | .program path => if state.isExecutable path then some "file" else none
    | .nothing => none

/-- Where a program is that a name stands for, wherever it may be found. -/
def pathsOf (state : State) (name : Octets) : List Octets :=
  if name.contains '/' then (if state.isExecutable name then [name] else [])
  else (((state.value? State.searchPath).getD []).splitOn ':').filterMap fun directory =>
    let path := if directory = [] then name else directory ++ '/' :: name
    if state.isExecutable path then some path else none

/-- What a name is, in a sentence. -/
def describe? (state : State) (name : Octets) (evenFunctions : Bool) : Option Octets :=
  (kindOf state name evenFunctions).map fun kind =>
    match kind with
    | "keyword" => name ++ .ofText " is a shell keyword"
    | "function" => name ++ .ofText " is a function"
    | "builtin" => name ++ .ofText " is a shell builtin"
    | _ => name ++ .ofText " is " ++ ((pathsOf state name).headD name)

/-- The shortest way to name what names stand for. -/
def nameAll (names : List Octets) : Step Unit := do
  let outcomes ← names.mapM fun name => do
    let state ← get
    match kindOf state name true with
    | some "file" => do
      set (state.print ((pathsOf state name).headD name ++ ['\n']))
      pure true
    | some _ => do
      set (state.print (name ++ ['\n']))
      pure true
    | none => pure false
  setStatus (if outcomes.any id || names.isEmpty then 0 else 1)

/-- Tells what names stand for. -/
def describeAll (names : List Octets) : Step Unit := do
  let outcomes ← names.mapM fun name => do
    let state ← get
    match describe? state name true with
    | some text => do
      set (state.print (text ++ ['\n']))
      pure true
    | none => do
      blame name "not found"
      pure false
  setStatus (if outcomes.any id || names.isEmpty then 0 else 1)

/-- Tells what names stand for, in a form that options ask for. -/
def tellKinds (arguments : List Octets) : Step Unit :=
  withGiven ['a', 'f', 'p', 't', 'P'] [] arguments fun given => do
    let outcomes ← given.operands.mapM fun name => do
      let state ← get
      let kind := kindOf state name (!given.has 'f')
      let paths := pathsOf state name
      let lines : List Octets :=
        if given.has 'P' then if given.has 'a' then paths else paths.take 1
        else if given.has 'p' then if kind = some "file" then paths.take 1 else []
        else if given.has 't' then (kind.map Octets.ofText).toList ++
          (if given.has 'a' && kind ≠ some "file" then paths.map fun _ => .ofText "file" else [])
        else (describe? state name (!given.has 'f')).toList ++
          (if given.has 'a' then (if kind = some "file" then paths.drop 1 else paths).map fun path =>
            name ++ .ofText " is " ++ path else [])
      set (state.print (Octets.ofLines lines))
      if kind.isNone && !given.has 't' && !given.has 'p' && !given.has 'P' then blame name "not found"
      pure (kind.isSome && (!given.has 'P' || !paths.isEmpty))
    setStatus (if outcomes.all id then 0 else 1)

/-- Remembers where programs are, or tells that. -/
def remember (arguments : List Octets) : Step Unit :=
  withGiven ['l', 'r', 'd', 't'] ['p'] arguments fun given => do
    setStatus 0
    if given.operands.isEmpty && !given.has 'r' then modify (·.print (.ofText "hash: hash table empty\n"))
    for name in given.operands do
      let state ← get
      match pathsOf state name with
      | path :: _ => if given.has 't' then set (state.print (path ++ ['\n']))
      | [] => if !name.contains '/' && !isCommand (String.ofList name) then blame name "not found"

def aliasVariable : Octets := .ofText "BASH_ALIASES"

/-- Gives commands other names, or lists those. -/
def nameOtherwise (arguments : List Octets) : Step Unit := withGiven ['p'] [] arguments fun given => do
  setStatus 0
  let line (entry : Octets × Octets) : Octets :=
    .ofText "alias " ++ entry.1 ++ '=' :: Quoting.single entry.2 ++ ['\n']
  if given.operands.isEmpty || given.has 'p' then
    let members := ((← get).members? aliasVariable).getD (.empty true)
    modify (·.print ((members.entries.mergeSort fun a b => Octets.atMost a.1 b.1).flatMap line))
  for argument in given.operands do
    let (name, value) := splitAssignment argument
    let members := ((← get).members? aliasVariable).getD (.empty true)
    match value, members.find? name with
    | some value, _ => change aliasVariable fun held => { held with members := some (members.insert name value) }
    | none, some value => modify (·.print (line (name, value)))
    | none, none => blame name "not found"

def forgetNames (arguments : List Octets) : Step Unit := withGiven ['a'] [] arguments fun given => do
  setStatus 0
  if given.has 'a' then change aliasVariable fun held => { held with members := some (.empty true) }
  else if given.operands.isEmpty then tellUsage
  else for name in given.operands do
    let members := ((← get).members? aliasVariable).getD (.empty true)
    if (members.find? name).isSome then
      change aliasVariable fun held => { held with members := some (members.erase name) }
    else blame name "not found"

/-! ### Limits -/

/-- Sets or tells what permissions nothing gets. -/
def limitPermissions (arguments : List Octets) : Step Unit := withGiven ['p', 'S'] [] arguments fun given => do
  let state ← get
  let mask := state.process.mask
  match given.operands with
  | [] =>
    let text := if given.has 'S' then Mode.clauses (Mode.without 0o777 mask) else Mode.digits 4 mask
    let front : Octets := if !given.has 'p' then [] else if given.has 'S' then .ofText "umask -S " else .ofText "umask "
    set (state.succeed.print (front ++ text ++ ['\n']))
  | word :: _ =>
    if word.head?.any Name.isDigit then
      match if word.all fun c => '0' ≤ c ∧ c ≤ '7' then Mode.changed? 0 false word 0 else none with
      | some mask => put state mask
      | none => blame word "octal number out of range"
    else match (Mode.changed? 0 false word (Mode.without 0o777 mask)).map (Mode.without 0o777) with
      | some mask => put state mask
      | none =>
        let sign := (word.dropWhile fun c => c ∈ ['u', 'g', 'o', 'a']).headD ' '
        fail 1 (.ofText "\x60" ++ sign :: Octets.ofText "': invalid symbolic mode operator")
where
  put (state : State) (mask : Nat) : Step Unit := set (state.adjust fun process => { process with mask }).succeed

/-- Sets or tells limits, of which none counts. -/
def limitResources (arguments : List Octets) : Step Unit :=
  withGiven "SHabcdefiklmnpqrstuvxPRT".toList [] arguments fun given => do
    match given.operands with
    | [] => modify fun state => state.succeed.print (.ofText (if given.has 'c' then "0\n"
        else if given.has 'n' then "1024\n" else "unlimited\n"))
    | word :: _ =>
      if (Format.natural? word).isSome || ["unlimited", "soft", "hard"].contains (String.ofList word) then setStatus 0
      else blame word "invalid number"

/-! ### The table -/

def unsupported (message : String) (_ : List Octets) : Step Unit := fail 1 (.ofText message)

/-- The commands that run no others. -/
def commands : List (String × (List Octets → Step Unit)) :=
  [(":", fun _ => setStatus 0), ("true", fun _ => setStatus 0), ("false", fun _ => setStatus 1), ("[", bracket),
    ("alias", nameOtherwise), ("bg", unsupported "no job control"), ("bind", fun _ => setStatus 0),
    ("break", skip false), ("caller", caller), ("cd", changeDirectory), ("compgen", fun _ => setStatus 1),
    ("complete", fun _ => setStatus 0), ("compopt", fun _ => setStatus 1), ("continue", skip true),
    ("declare", declaring "declare"), ("dirs", listDirectories), ("disown", disown), ("echo", printPlainly),
    ("enable", fun _ => setStatus 0), ("exit", exit), ("export", declaring "export"), ("fc", fun _ => setStatus 0),
    ("fg", unsupported "no job control"), ("getopts", getOption), ("hash", remember), ("help", help),
    ("history", fun _ => setStatus 0), ("jobs", listJobs), ("kill", kill), ("let", compute),
    ("local", declaring "local"), ("logout", unsupported "not login shell: use \x60exit'"), ("mapfile", readLines),
    ("popd", popDirectory), ("printf", printFormatted), ("pushd", pushDirectory), ("pwd", tellDirectory),
    ("read", readLine), ("readarray", readLines), ("readonly", declaring "readonly"), ("return", leave),
    ("set", setOrList), ("shift", shift), ("shopt", setFurther),
    ("suspend", unsupported "cannot suspend: no job control"), ("test", test), ("times", times), ("trap", setTraps),
    ("type", tellKinds), ("typeset", declaring "typeset"), ("ulimit", limitResources), ("umask", limitPermissions),
    ("unalias", forgetNames), ("unset", unset), ("wait", waitFor)]
where
  declaring (name : String) (arguments : List Octets) : Step Unit := declare name (arguments.map Wanted.ofText)
  setOrList (arguments : List Octets) : Step Unit := if arguments.isEmpty then listAssigned else setOptions arguments
  times (_ : List Octets) : Step Unit := modify fun state =>
    let line : Octets := .ofText "0m0.001s 0m0.000s"
    state.succeed.print (Octets.ofLines [line, line])
  caller (_ : List Octets) : Step Unit := modify fun state =>
    if state.process.calls.isEmpty then state.withStatus 1
    else state.succeed.print (.ofNat state.process.line ++ .ofText " NULL\n")
  help (topics : List Octets) : Step Unit :=
    match topics with
    | [] => setStatus 0
    | topic :: _ =>
      if isCommand (String.ofList topic) then setStatus 0
      else fail 1 (.ofText "no help topics match \x60" ++ topic ++ .ofText "'.  Try \x60help help' or \x60man -k " ++ topic ++
        .ofText "' or \x60info " ++ topic ++ .ofText "'.")

/-! ### Commands that run others -/

/-- How a program takes the place of the script: without variables, under a name, with what words; or
an option that makes no sense. -/
def replacement : List Octets → Except Char (Bool × Option Octets × Bool × List Octets)
  | [] => .ok (false, none, false, [])
  | ['-', '-'] :: words => .ok (false, none, false, words)
  | ['-', 'a'] :: name :: words => (replacement words).map fun (bare, own, login, words) =>
    (bare, own.or (some name), login, words)
  | ['-', 'c'] :: words => (replacement words).map fun (_, own, login, words) => (true, own, login, words)
  | ['-', 'l'] :: words => (replacement words).map fun (bare, own, _, words) => (bare, own, true, words)
  | ['-', 'c', 'l'] :: words => (replacement words).map fun (_, own, _, words) => (true, own, true, words)
  | ('-' :: letter :: letters) :: words =>
    if letter ∈ ['a', 'c', 'l'] then .ok (false, none, false, ('-' :: letter :: letters) :: words) else .error letter
  | words => .ok (false, none, false, words)

/-- The path of a script that is to be run as a part of this one. -/
def partPath (state : State) (name : Octets) : Octets :=
  if name.contains '/' then name
  else
    let paths := (((state.value? State.searchPath).getD []).splitOn ':').map fun directory =>
      if directory = [] then name else directory ++ '/' :: name
    (paths.find? state.isFile).getD name

end ComponentViews.Shell.Builtin.Extended
