import ComponentViews.Shell.Format
import ComponentViews.Shell.Place

/-! How utilities read their arguments, also those that have to be one of several words, and
how they tell what is wrong. -/

namespace ComponentViews.Shell.Utility

/-- Letters that a utility knows: those that stand alone, those that a value follows, and
words that stand for letters. What only a word asks for has a letter that no octet is. -/
structure Usage where
  alone : List Char
  valued : List Char
  words : List (String × Char)
  /-- Whether options may stand behind other arguments. -/
  anywhere : Bool
  /-- Letters of words that may come with a value. -/
  optional : List Char := []

structure Options where
  /-- Options in order, each with its value. -/
  found : List (Char × Octets)
  operands : List Octets

namespace Options

def has (options : Options) (letter : Char) : Bool := options.found.any (·.1 = letter)

/-- The value of an option where it stands for the last time. -/
def value? (options : Options) (letter : Char) : Option Octets := options.found.reverse.lookup letter

def values (options : Options) (letter : Char) : List Octets :=
  (options.found.filter (·.1 = letter)).map Prod.snd

/-- The number that an option gives. -/
def number? (options : Options) (letter : Char) : Option Nat := (options.value? letter).bind Format.natural?

end Options

/-- What keeps a utility from reading its arguments. -/
inductive Misuse where
  | unknownLetter (value : Char)
  | unknownWord (value : Octets)
  /-- The start of several words. -/
  | ambiguous (value : Octets) (words : List String)
  | noValue (letter : Char)
  | noWordValue (word : String)
  | surplusValue (word : String)

namespace Usage

/-- The options in a group of letters, and whether the last one still lacks its value. -/
def readLetters (usage : Usage) : Octets → Except Misuse (List (Char × Octets) × Option Char)
  | [] => .ok ([], none)
  | letter :: rest =>
    if usage.alone.contains letter then
      (usage.readLetters rest).map fun (found, missing) => ((letter, []) :: found, missing)
    else if usage.valued.contains letter then
      .ok (if rest = [] then ([], some letter) else ([(letter, rest)], none))
    else .error (.unknownLetter letter)

/-- The letter of a word such as `--name` or `--name=value`, or of a start that only one
word has, and the value. -/
def readWord (usage : Usage) (word : Octets) : Except Misuse (String × Char × Option Octets) :=
  let name := word.takeWhile (· ≠ '=')
  let value := if name = word then none else some (word.drop (name.length + 1))
  let exact := usage.words.filter fun entry => entry.1 = String.ofList name
  let longer := usage.words.filter fun entry => name.isPrefixOf entry.1.toList
  match if exact.isEmpty then longer else exact with
  | [] => .error (.unknownWord (['-', '-'] ++ name))
  | (first, letter) :: others =>
    if others.any fun entry => entry.2 ≠ letter then
      .error (.ambiguous (['-', '-'] ++ name) ((first, letter) :: others |>.map Prod.fst))
    else .ok (first, letter, value)

def read (usage : Usage) : List Octets → Except Misuse Options
  | [] => .ok { found := [], operands := [] }
  | ['-', '-'] :: rest => .ok { found := [], operands := rest }
  | ('-' :: '-' :: word) :: rest => do
    let (name, letter, value) ← usage.readWord word
    if usage.valued.contains letter ∧ value.isNone then
      match rest with
      | value :: rest =>
        let later ← usage.read rest
        pure { later with found := (letter, value) :: later.found }
      | [] => .error (.noWordValue name)
    else if value.isSome ∧ usage.alone.contains letter ∧ !usage.optional.contains letter then
      .error (.surplusValue name)
    else
      let later ← usage.read rest
      pure { later with found := (letter, value.getD []) :: later.found }
  | ('-' :: letter :: letters) :: rest => do
    let (found, missing) ← usage.readLetters (letter :: letters)
    match missing, rest with
    | none, rest =>
      let later ← usage.read rest
      pure { later with found := found ++ later.found }
    | some letter, value :: rest =>
      let later ← usage.read rest
      pure { later with found := found ++ (letter, value) :: later.found }
    | some letter, [] => .error (.noValue letter)
  | operand :: rest =>
    if usage.anywhere then do
      let later ← usage.read rest
      pure { later with operands := operand :: later.operands }
    else .ok { found := [], operands := operand :: rest }

end Usage

/-- Programs that leave out the path they were called by when they name themselves. -/
def modest : List String := ["awk", "rev", "getopt"]

/-- How a program names itself: by the path that it was called by, if there was one. -/
def ownName (command : String) (state : State) : Octets :=
  let called := state.process.called
  let isPath := ('/' :: command.toList).reverse.isPrefixOf called.reverse
  if isPath && !modest.contains command then called else .ofText command

/-- A complaint of a utility. -/
def complain (command : String) (message : Octets) (state : State) : State :=
  state.report (ownName command state ++ ':' :: ' ' :: message ++ ['\n'])

/-- A complaint that makes a utility fail. -/
def fault (command : String) (message : Octets) (state : State) : State := (complain command message state).withStatus 1

/-- The letters behind a backslash that stand for controls. -/
def controlLetters : List (Char × Char) :=
  [('\x07', 'a'), ('\x08', 'b'), ('\t', 't'), ('\n', 'n'), ('\x0b', 'v'), ('\x0c', 'f'), ('\r', 'r')]

/-- What a backslash stands in front of for an octet that does not show, if it does not. -/
def hiddenLetters? (c : Char) : Option Octets :=
  match controlLetters.lookup c with
  | some letter => some [letter]
  | none =>
    let digits := Nat.toDigits 8 c.toNat
    if ' ' ≤ c ∧ c ≤ '~' then none else some (List.replicate (3 - digits.length) '0' ++ digits)

/-- A text between quotes. What does not show is written with backslashes. -/
def quoted (text : Octets) : Octets :=
  '\'' :: text.flatMap (fun c =>
    if c = '\'' ∨ c = '\\' then ['\\', c] else ((hiddenLetters? c).map ('\\' :: ·)).getD [c]) ++ ['\'']

/-- Whether a shell would take a name for something else than it is, or not show all of it. -/
def needsQuotes (colon : Bool) (name : Octets) : Bool :=
  let isSpecial (c : Char) : Bool :=
    c ∈ [' ', '!', '"', '$', '&', '\'', '(', ')', '*', ';', '<', '=', '>', '?', '[', '\\', '^', '\x60', '|'] ||
      (colon && c = ':') || (hiddenLetters? c).isSome
  name = [] || name.any isSpecial || name.head?.any (fun c => c = '#' || c = '~') || name = ['\x7b'] || name = ['\x7d']

/-- A name between quotes as a shell reads them. -/
def named (name : Octets) : Octets :=
  let isPlain (c : Char) : Bool :=
    c = '\'' || (!needsQuotes false [c] && c ∉ ['#', '\x7b', '\x7d', '~']) || c = ' '
  if name.contains '\'' ∧ name.all isPlain then '"' :: name ++ ['"']
  else '\'' :: inside name false ++ ['\'']
where
  /-- What stands between the quotes; behind a dollar sign backslashes count. -/
  inside : Octets → Bool → Octets
    | [], _ => []
    | c :: rest, escaping =>
      match hiddenLetters? c with
      | some letters => (if escaping then [] else ['\'', '$', '\'']) ++ '\\' :: letters ++ inside rest true
      | none =>
        if c = '\'' then ['\'', '\\', '\'', '\''] ++ inside rest false
        else (if escaping then ['\'', '\''] else []) ++ c :: inside rest false

/-- A name, between quotes where they are needed. -/
def nameText (name : Octets) : Octets := if needsQuotes true name then named name else name

/-- A complaint about an argument. -/
def faultOf (command : String) (argument : Octets) (message : String) (state : State) : State :=
  fault command (nameText argument ++ .ofText (": " ++ message)) state

/-- A complaint about an argument that is shown as it is. -/
def plainFaultOf (command : String) (argument : Octets) (message : String) (state : State) : State :=
  fault command (argument ++ .ofText (": " ++ message)) state

/-- A hint at where to read more. -/
def hint (command : String) (state : State) : Octets :=
  .ofText "Try '" ++ ownName command state ++ .ofText " --help' for more information.\n"

/-- What programs say when there is no input to read. -/
def starvations : List (List String × String) :=
  [(["head"], "error reading 'standard input': "), (["tail"], "cannot fstat 'standard input': "),
    (["wc", "od"], "'standard input': "), (["tac"], "'standard input': read error: "),
    (["base32", "base64", "shuf", "join", "tr", "tee"], "read error: "), (["tsort"], "-: read error: "),
    (["uniq"], "error reading '-': "), (["sort"], "stat failed: -: "), (["grep"], "(standard input): "),
    (["sed"], "read error on stdin: "), (["factor", "numfmt"], "error reading input: ")]

/-- What programs say in the end when there was no input to close. -/
def closingStarvations : List (List String × String) :=
  [(["cat", "fmt"], "closing standard input: "),
    (["head", "tail", "wc", "cut", "nl", "fold", "expand", "unexpand", "tac"], "-: "),
    (["od", "sum", "cksum", "tee", "md5sum", "sha1sum", "sha224sum", "sha256sum", "sha384sum", "sha512sum", "b2sum"],
      "standard input: ")]

/-- A complaint about an operand that cannot be read. Of an input that leads nowhere more is said in the end. -/
def unreadable (command : String) (operand : Octets) (trouble : Trouble) (state : State) : State :=
  if operand = ['-'] && trouble = Trouble.closed then
    let starved := state.adjust fun process => { process with starved := true }
    match command with
    | "paste" => fault command (.ofText "standard input is closed") starved
    | "fmt" => fault command (.ofText "read error") starved
    | command =>
      let start := ((starvations.find? fun entry => entry.1.contains command).map Prod.snd).getD "-: "
      fault command (.ofText (start ++ trouble.message)) starved
  else faultOf command operand trouble.message state

/-- What a program says at its end when it had no input. -/
def tellStarved (command : String) (state : State) : State :=
  let fed := state.adjust fun process => { process with starved := false }
  if !state.process.starved then state
  else match closingStarvations.find? fun entry => entry.1.contains command with
    | some (_, start) => fault command (.ofText (start ++ Trouble.closed.message)) fed
    | none => fed

/-- A complaint with a hint at where to read more, both of which name the program. -/
def helped (command : String) (message : Octets) (state : State) : State :=
  let hint := Octets.ofText "Try '" ++ ownName command state ++ .ofText " --help' for more information."
  (complain command hint (complain command message state)).withStatus 2

/-- A complaint with a hint at where to read more. -/
def hinted (command : String) (message : Octets) (state : State) : State :=
  (fault command message state).report (hint command state)

def missingOperand (command : String) (state : State) : State := hinted command (.ofText "missing operand") state


/-- What is wrong with arguments that a utility cannot read. -/
def Misuse.cause : Misuse → Octets
  | .unknownLetter value => .ofText "invalid option -- " ++ quoted [value]
  | .unknownWord value => .ofText "unrecognized option " ++ quoted value
  | .ambiguous value words =>
    .ofText "option " ++ quoted value ++ .ofText " is ambiguous; possibilities:" ++
      words.flatMap fun word => ' ' :: quoted (.ofText ("--" ++ word))
  | .noValue letter => .ofText "option requires an argument -- " ++ quoted [letter]
  | .noWordValue word => .ofText "option " ++ quoted (.ofText ("--" ++ word)) ++ .ofText " requires an argument"
  | .surplusValue word => .ofText "option " ++ quoted (.ofText ("--" ++ word)) ++ .ofText " doesn't allow an argument"

/-- Tells that a utility cannot read its arguments. -/
def Misuse.tell (command : String) (misuse : Misuse) (state : State) : State := hinted command misuse.cause state

/-- Reads the arguments of a utility and runs it, or tells why they cannot be read. -/
def withOptions (command : String) (usage : Usage) (misuseStatus : Nat) (arguments : List Octets) (state : State)
    (body : Options → State → State) : State :=
  match usage.read arguments with
  | .ok options => body options state.succeed
  | .error misuse => (misuse.tell command state).withStatus misuseStatus

/-- The octets that an operand names, or the rest of the input. -/
def contentOf (operand : Octets) (state : State) : Except Trouble (Octets × State) :=
  if operand = ['-'] then
    (state.pending? 0).map fun stream => (stream.content, state.leave 0 [])
  else state.read operand

/-- Hands what each operand names to a function, or the input if there is none. A missing
operand makes the utility fail, which goes on with the next one. -/
def forEachContent (command : String) (operands : List Octets) (state : State)
    (body : Octets → Octets → State → State) : State :=
  (if operands = [] then [['-']] else operands).foldl (fun state operand =>
    match contentOf operand state with
    | .ok (content, state) => body operand content state
    | .error trouble => unreadable command operand trouble state) state

/-- What all operands name, one after the other. -/
def gather (command : String) (operands : List Octets) (state : State) : Octets × State :=
  (if operands = [] then [['-']] else operands).foldl (fun (gathered, state) operand =>
    match contentOf operand state with
    | .ok (content, state) => (gathered ++ content, state)
    | .error trouble => (gathered, unreadable command operand trouble state)) ([], state)

/-- The row of each choice, words that mean the same in one row. -/
def choiceRows (choices : List (List String)) : Octets :=
  let rows : List Octets := choices.map fun names =>
    Octets.ofText "  - " ++ [',', ' '].intercalate (names.map fun name => quoted (.ofText name))
  Octets.ofLines (Octets.ofText "Valid arguments are:" :: rows)

/-- A complaint about an argument that is none of the words that it may be, or the start of
several of them. -/
def unfitArgument (kind command name : String) (value : Octets) (choices : List (List String)) (state : State) : State :=
  (fault command (.ofText (kind ++ " argument ") ++ quoted value ++ .ofText (" for '" ++ name ++ "'")) state).report
    (choiceRows choices ++ hint command state)

/-- A complaint about an argument that is none of the words that it may be. -/
def invalidArgument : (command name : String) → Octets → List (List String) → State → State := unfitArgument "invalid"

/-- The word that an argument is, or of which it is the start. -/
def choose (command name : String) (choices : List String) (value : Octets) : Except (State → State) String :=
  let fitting := choices.filter fun choice => value.isPrefixOf choice.toList
  let rows := choices.map fun choice => [choice]
  match choices.find? (fun choice => choice.toList = value), fitting with
  | some choice, _ => .ok choice
  | none, [choice] => .ok choice
  | none, [] => .error (invalidArgument command name value rows)
  | none, _ => .error (unfitArgument "ambiguous" command name value rows)

end ComponentViews.Shell.Utility
