import ComponentViews.Shell.Glob
import ComponentViews.Shell.Regex
import ComponentViews.Shell.Utility.Listing

/-! Queries about what is found in directories: tests of it, what is done with it, and how
these are joined. -/

namespace ComponentViews.Shell.Search

/-- A number with the numbers that count as fitting: the same, greater ones, or less ones. -/
structure Amount where
  ordering : Ordering
  value : Nat
  deriving DecidableEq, Repr

def Amount.admits (amount : Amount) (value : Nat) : Bool := compare value amount.value == amount.ordering

/-- Which of some permissions have to be there: just these, all of these, or one of them. -/
inductive Extent where
  | exact
  | all
  | any
  deriving DecidableEq, Repr

/-- How a command is run: for each path, or for many of them at once. -/
structure Call where
  words : List Octets
  /-- A number of its own, if it is run for many paths at once. -/
  together : Option Nat
  /-- Whether it runs in the directory that a path is in. -/
  inside : Bool
  asks : Bool
  deriving DecidableEq, Repr

inductive Query where
  | constant (value : Bool)
  | name (pattern : List Glyph) (folded : Bool)
  | path (pattern : List Glyph) (folded : Bool)
  | target (pattern : List Glyph) (folded : Bool)
  | regex (regex : Regex)
  | kind (letters : List Char) (follows : Bool)
  | vacant
  | runnable
  | size (amount : Amount) (unit : Nat)
  /-- So many units of time have passed since a change. -/
  | age (amount : Amount) (unit : Nat)
  | newer (time : Int)
  | mode (mode : Nat) (extent : Extent)
  | names (amount : Amount)
  | number (amount : Amount)
  | same (location : Location)
  | prune
  | quit
  | delete
  | print (format : Octets) (file : Option Octets)
  | details (file : Option Octets)
  | call (call : Call)
  | negation (query : Query)
  | both (first second : Query)
  | either (first second : Query)
  /-- The second one counts. -/
  | also (first second : Query)
  deriving DecidableEq, Repr

/-- Whether a query does something that makes printing unnecessary. -/
def Query.acts : Query → Bool
  | .delete => true
  | .print _ _ => true
  | .details _ => true
  | .call _ => true
  | .negation query => query.acts
  | .both first second => first.acts || second.acts
  | .either first second => first.acts || second.acts
  | .also first second => first.acts || second.acts
  | _ => false

/-- Whether a query takes away what it finds. -/
def Query.deletes : Query → Bool
  | .delete => true
  | .negation query => query.deletes
  | .both first second => first.deletes || second.deletes
  | .either first second => first.deletes || second.deletes
  | .also first second => first.deletes || second.deletes
  | _ => false

/-! ### Reading -/

/-- What is wrong with the words of a query. -/
inductive Fault where
  | unknown (word : Octets)
  | noArgument (word : String)
  | badArgument (word : String) (value : Octets)
  | misplacedPath (word : Octets) (pattern : Option String)
  | openParenthesis
  | closedParenthesis
  | emptyParentheses
  | nothingBefore (word : String)
  | nothingBehind (word : String)
  | number (word : String) (value : Octets)
  | kind (value : Octets)
  | noKind
  | lastKind
  | joinedKinds
  | size (value : Octets)
  | mode (value : Octets)
  | missing (path : Octets)
  | dialect (value : Octets)
  | user (value : Octets) (group : Bool)
  | severalMarks

def Fault.message : Fault → Octets
  | .unknown word => .ofText "unknown predicate \x60" ++ word ++ ['\'']
  | .noArgument word => .ofText ("missing argument to \x60" ++ word ++ "'")
  | .badArgument word value => .ofText "invalid argument \x60" ++ value ++ .ofText ("' to \x60" ++ word ++ "'")
  | .misplacedPath word pattern =>
    .ofText "paths must precede expression: \x60" ++ word ++ ['\''] ++ (match pattern with
      | some pattern => .ofText ("\nfind: possible unquoted pattern after predicate \x60" ++ pattern ++ "'?")
      | none => [])
  | .openParenthesis => .ofText "invalid expression; I was expecting to find a ')' somewhere but did not see one."
  | .closedParenthesis => .ofText "you have too many ')'"
  | .emptyParentheses => .ofText "invalid expression; empty parentheses are not allowed."
  | .nothingBefore word =>
    .ofText ("invalid expression; you have used a binary operator '" ++ word ++ "' with nothing before it.")
  | .nothingBehind word => .ofText ("expected an expression after '" ++ word ++ "'")
  | .number word value =>
    .ofText ("Expected a positive decimal integer argument to " ++ word ++ ", but got ") ++ Utility.quoted value
  | .kind value => .ofText "Unknown argument to -type: " ++ value
  | .noKind => .ofText "Arguments to -type should contain at least one letter"
  | .lastKind => .ofText "Last file type in list argument to -type is missing, i.e., list is ending on: ','"
  | .joinedKinds => .ofText "Must separate multiple arguments to -type using: ','"
  | .size value => .ofText "invalid -size type \x60" ++ value ++ ['\'']
  | .mode value => .ofText "invalid mode " ++ Utility.quoted value
  | .missing path => Utility.quoted path ++ .ofText (": " ++ Trouble.missing.message)
  | .dialect value =>
    .ofText "Unknown regular expression type " ++ Utility.quoted value ++ .ofText ("; valid types are " ++
      "'findutils-default', 'ed', 'emacs', 'gnu-awk', 'grep', 'posix-awk', 'awk', 'posix-basic', 'posix-egrep', " ++
      "'egrep', 'posix-extended', 'posix-minimal-basic', 'sed'.")
  | .user value group =>
    Utility.quoted value ++ .ofText (if group then " is not the name of an existing group"
      else " is not the name of a known user")
  | .severalMarks => .ofText "Only one instance of \x7b\x7d is supported with -exec ... +"

/-- What has been read so far besides the query. -/
structure Reading where
  state : State
  rest : List Octets
  least : Nat
  most : Option Nat
  depthFirst : Bool
  follows : Bool
  /-- The kind of regular expressions. -/
  dialect : String
  calls : Nat
  /-- The last test whose argument was a pattern. -/
  pattern : Option String

def patternOf (text : Octets) (folded : Bool) : List Glyph :=
  Glyph.parse ((if folded then text.map Char.toLower else text).map (·, false))

/-- A number such as `5`, `+5` or `-5`. -/
def amount? (text : Octets) : Option Amount :=
  match text with
  | '+' :: digits => (Format.natural? digits).map fun value => { ordering := .gt, value }
  | '-' :: digits => (Format.natural? digits).map fun value => { ordering := .lt, value }
  | digits => (Format.natural? digits).map fun value => { ordering := .eq, value }

/-- Units of sizes in octets. -/
def sizeUnits : List (Char × Nat) :=
  [('b', 512), ('c', 1), ('w', 2), ('k', 1024), ('M', 1048576), ('G', 1073741824)]

def size? (text : Octets) : Except Fault Query :=
  let last := text.getLast?.getD ' '
  let (digits, unit) := if Name.isDigit last then (text, some 512) else (text.dropLast, sizeUnits.lookup last)
  match amount? digits, unit with
  | some amount, some unit => .ok (.size amount unit)
  | _, none => .error (.size [last])
  | none, _ => .error (.badArgument "-size" text)

/-- Kinds of regular expressions by their names: whether operators stand for themselves. -/
def dialects : List (String × String) :=
  [("findutils-default", "emacs"), ("emacs", "emacs"), ("ed", "basic"), ("grep", "basic"), ("sed", "basic"),
    ("posix-basic", "basic"), ("posix-minimal-basic", "basic"), ("gnu-awk", "extended"), ("posix-awk", "extended"),
    ("awk", "extended"), ("posix-egrep", "extended"), ("egrep", "extended"), ("posix-extended", "extended")]

def regexOf (dialect : String) (folded : Bool) (source : Octets) : Except Regex.Fault Regex := do
  let source := if dialect = "emacs" then Regex.freed (source.length + 1) source else source
  let (regex, _) ← Regex.parse (if dialect = "extended" then .extended else .basic) source
  let whole : Regex := .sequence .start (.sequence regex .stop)
  pure (if folded then whole.ignoringCase else whole)

/-- The kinds that letters between commas name. -/
def kinds (text : Octets) : Except Fault (List Char) :=
  if text = [] then .error .noKind
  else if text.getLast? = some ',' then .error .lastKind
  else (text.splitOn ',').mapM fun part =>
    match part with
    | [letter] => if letter ∈ ['b', 'c', 'd', 'p', 'f', 'l', 's', 'D'] then .ok letter else .error (.kind [letter])
    | _ => .error .joinedKinds

/-- The words of a command up to its end, and the words behind it. -/
def readCall (word : String) (reading : Reading) : Except Fault (Query × Reading) := do
  let inside := word = "-execdir" || word = "-okdir"
  let asks := word = "-ok" || word = "-okdir"
  let mark : Octets := ['\x7b', '\x7d']
  let words := endOf asks mark (reading.rest.length + 1) [] reading.rest
  match words with
  | none => .error (.noArgument word)
  | some (words, true, rest) =>
    if (words.filter fun word => mark.isPrefixOf word || word.length > 2 && hasMark mark word).length > 1 then
      .error .severalMarks
    else
      pure (.call { words := words.dropLast, together := some reading.calls, inside, asks },
        { reading with rest, calls := reading.calls + 1 })
  | some (words, false, rest) =>
    if words = [] then .error (.badArgument word [';'])
    else pure (.call { words, together := none, inside, asks }, { reading with rest })
where
  hasMark (mark word : Octets) : Bool := (List.range word.length).any fun index => mark.isPrefixOf (word.drop index)
  /-- Words up to the one that ends a command, whether the command is run for many paths at once,
  and the words behind. -/
  endOf (asks : Bool) (mark : Octets) : Nat → List Octets → List Octets → Option (List Octets × Bool × List Octets)
    | 0, _, _ => none
    | _ + 1, _, [] => none
    | fuel + 1, words, word :: rest =>
      if word = [';'] then some (words, false, rest)
      else if word = ['+'] ∧ !asks ∧ words.getLast? = some mark then some (words, true, rest)
      else endOf asks mark fuel (words ++ [word]) rest

/-- When a path was changed, or that it is not there. -/
def timeOf (state : State) (path : Octets) : Except Fault Int :=
  match state.reached path with
  | .ok (location, _) => .ok (state.changedAt location)
  | .error _ => .error (.missing path)

/-- A test or an action that takes the argument behind it. -/
def readWithArgument (word : String) (argument : Octets) (reading : Reading) : Except Fault (Query × Reading) := do
  let nothing : Query := .constant true
  let age (unit : Nat) : Except Fault (Query × Reading) :=
    match amount? argument with
    | some amount => .ok (.age amount unit, reading)
    | none => .error (.badArgument word argument)
  let counted (query : Amount → Query) : Except Fault (Query × Reading) :=
    match amount? argument with
    | some amount => .ok (query amount, reading)
    | none => .error (.badArgument word argument)
  let owner (group : Bool) : Except Fault (Query × Reading) :=
    if argument = .ofText "root" ∨ argument = ['0'] then .ok (.constant true, reading)
    else if (Format.natural? argument).isSome then .ok (.constant false, reading)
    else .error (.user argument group)
  let fitting (query : Query) : Except Fault (Query × Reading) := .ok (query, { reading with pattern := some word })
  match word with
  | "-name" => fitting (.name (patternOf argument false) false)
  | "-iname" => fitting (.name (patternOf argument true) true)
  | "-path" => fitting (.path (patternOf argument false) false)
  | "-wholename" => fitting (.path (patternOf argument false) false)
  | "-ipath" => fitting (.path (patternOf argument true) true)
  | "-iwholename" => fitting (.path (patternOf argument true) true)
  | "-lname" => fitting (.target (patternOf argument false) false)
  | "-ilname" => fitting (.target (patternOf argument true) true)
  | "-regex" => ofRegex false
  | "-iregex" => ofRegex true
  | "-regextype" =>
    match dialects.lookup (String.ofList argument) with
    | some dialect => pure (nothing, { reading with dialect })
    | none => .error (.dialect argument)
  | "-type" => (kinds argument).map fun letters => (.kind letters false, reading)
  | "-xtype" => (kinds argument).map fun letters => (.kind letters true, reading)
  | "-size" => (size? argument).map (·, reading)
  | "-mtime" => age 86400
  | "-atime" => age 86400
  | "-ctime" => age 86400
  | "-mmin" => age 60
  | "-amin" => age 60
  | "-cmin" => age 60
  | "-used" => counted fun _ => .constant false
  | "-newer" => (timeOf reading.state argument).map fun time => (.newer time, reading)
  | "-anewer" => (timeOf reading.state argument).map fun time => (.newer time, reading)
  | "-cnewer" => (timeOf reading.state argument).map fun time => (.newer time, reading)
  | "-newermt" =>
    match DateText.read? (Moment.ofClock reading.state.world.clock) .universal argument with
    | some moment => pure (.newer moment.clock, reading)
    | none => .error (.badArgument word argument)
  | "-perm" =>
    let (extent, text) : Extent × Octets := match argument with
      | '-' :: text => (.all, text)
      | '/' :: text => (.any, text)
      | text => (.exact, text)
    match Mode.changed? 0 false text 0 with
    | some mode => pure (.mode mode extent, reading)
    | none => .error (.mode argument)
  | "-user" => owner false
  | "-group" => owner true
  | "-uid" => counted fun amount => .constant (amount.admits 0)
  | "-gid" => counted fun amount => .constant (amount.admits 0)
  | "-links" => counted .names
  | "-inum" => counted .number
  | "-fstype" => pure (.constant false, reading)
  | "-samefile" =>
    match reading.state.reached argument with
    | .ok (location, _) => pure (.same location, reading)
    | .error _ => .error (.missing argument)
  | "-printf" => pure (.print argument none, reading)
  | "-fprint" => pure (.print (.ofText "%p\\n") (some argument), reading)
  | "-fprint0" => pure (.print (.ofText "%p\\0") (some argument), reading)
  | "-fls" => pure (.details (some argument), reading)
  | "-maxdepth" =>
    match Format.natural? argument with
    | some depth => pure (nothing, { reading with most := some depth })
    | none => .error (.number word argument)
  | "-mindepth" =>
    match Format.natural? argument with
    | some depth => pure (nothing, { reading with least := depth })
    | none => .error (.number word argument)
  | _ => .error (.unknown (.ofText word))
where
  ofRegex (folded : Bool) : Except Fault (Query × Reading) :=
    match regexOf reading.dialect folded argument with
    | .ok regex => .ok (.regex regex, { reading with pattern := some word })
    | .error _ => .error (.badArgument word argument)

/-- Words that an argument follows. -/
def withArgument : List String :=
  ["-name", "-iname", "-path", "-wholename", "-ipath", "-iwholename", "-lname", "-ilname", "-regex", "-iregex",
    "-regextype", "-type", "-xtype", "-size", "-mtime", "-atime", "-ctime", "-mmin", "-amin", "-cmin", "-used",
    "-newer", "-anewer", "-cnewer", "-newermt", "-perm", "-user", "-group", "-uid", "-gid", "-links", "-inum",
    "-fstype", "-samefile", "-printf", "-fprint", "-fprint0", "-fls", "-maxdepth", "-mindepth"]

/-- A test or an action at the start of some words. -/
def readPrimary (reading : Reading) (word : Octets) : Except Fault (Query × Reading) :=
  let name := String.ofList word
  let plain (query : Query) : Except Fault (Query × Reading) := .ok (query, reading)
  if withArgument.contains name then
    match reading.rest with
    | argument :: rest => readWithArgument name argument { reading with rest }
    | [] => .error (.noArgument name)
  else match name with
    | "-empty" => plain .vacant
    | "-executable" => plain .runnable
    | "-readable" => plain (.constant true)
    | "-writable" => plain (.constant true)
    | "-true" => plain (.constant true)
    | "-false" => plain (.constant false)
    | "-nouser" => plain (.constant false)
    | "-nogroup" => plain (.constant false)
    | "-depth" => .ok (.constant true, { reading with depthFirst := true })
    | "-d" => .ok (.constant true, { reading with depthFirst := true })
    | "-follow" => .ok (.constant true, { reading with follows := true })
    | "-xdev" => plain (.constant true)
    | "-mount" => plain (.constant true)
    | "-noleaf" => plain (.constant true)
    | "-daystart" => plain (.constant true)
    | "-warn" => plain (.constant true)
    | "-nowarn" => plain (.constant true)
    | "-ignore_readdir_race" => plain (.constant true)
    | "-noignore_readdir_race" => plain (.constant true)
    | "-print" => plain (.print (.ofText "%p\\n") none)
    | "-print0" => plain (.print (.ofText "%p\\0") none)
    | "-ls" => plain (.details none)
    | "-prune" => plain .prune
    | "-quit" => plain .quit
    | "-delete" => plain .delete
    | "-exec" => readCall name reading
    | "-execdir" => readCall name reading
    | "-ok" => readCall name reading
    | "-okdir" => readCall name reading
    | "-fprintf" =>
      match reading.rest with
      | path :: format :: rest => .ok (.print format (some path), { reading with rest })
      | _ => .error (.noArgument name)
    | _ =>
      if word.head? = some '-' then .error (.unknown word)
      else
        let exists? := (reading.state.entry? word).isSome
        .error (.misplacedPath word (if exists? then reading.pattern else none))

/-- Whether a word joins what stands in front of it with what stands behind. -/
def isJoint (word : Octets) : Bool := ["-o", "-or", "-a", "-and", ","].contains (String.ofList word)

mutual

/-- Queries with commas between them. -/
def readAll : Nat → Nat → Reading → Except Fault (Query × Reading)
  | 0, _, _ => .error .openParenthesis
  | fuel + 1, depth, reading => do
    let (first, reading) ← readEither fuel depth reading
    match reading.rest with
    | [','] :: rest =>
      if rest = [] then .error (.nothingBehind ",")
      else
        let (second, reading) ← readAll fuel depth { reading with rest }
        pure (.also first second, reading)
    | _ => pure (first, reading)

def readEither : Nat → Nat → Reading → Except Fault (Query × Reading)
  | 0, _, _ => .error .openParenthesis
  | fuel + 1, depth, reading => do
    let (first, reading) ← readBoth fuel depth reading
    match reading.rest with
    | word :: rest =>
      if word = .ofText "-o" ∨ word = .ofText "-or" then
        if rest = [] then .error (.nothingBehind (String.ofList word))
        else
          let (second, reading) ← readEither fuel depth { reading with rest }
          pure (.either first second, reading)
      else pure (first, reading)
    | [] => pure (first, reading)

def readBoth : Nat → Nat → Reading → Except Fault (Query × Reading)
  | 0, _, _ => .error .openParenthesis
  | fuel + 1, depth, reading => do
    let (first, reading) ← readOne fuel depth reading
    match reading.rest with
    | [] => pure (first, reading)
    | word :: rest =>
      let joins := word = .ofText "-a" || word = .ofText "-and"
      if joins ∧ rest = [] then .error (.nothingBehind (String.ofList word))
      else if word = [')'] ∨ (isJoint word ∧ !joins) then pure (first, reading)
      else
        let (second, reading) ← readBoth fuel depth { reading with rest := if joins then rest else reading.rest }
        pure (.both first second, reading)

def readOne : Nat → Nat → Reading → Except Fault (Query × Reading)
  | 0, _, _ => .error .openParenthesis
  | fuel + 1, depth, reading =>
    match reading.rest with
    | [] => .error (.nothingBehind "!")
    | word :: rest =>
      let reading := { reading with rest }
      if word = ['!'] ∨ word = .ofText "-not" then
        if rest = [] then .error (.nothingBehind (String.ofList word))
        else do
          let (query, reading) ← readOne fuel depth reading
          pure (.negation query, reading)
      else if word = ['('] then
        if rest.head? = some [')'] then .error .emptyParentheses
        else if rest = [] then .error .openParenthesis
        else do
          let (query, reading) ← readAll fuel (depth + 1) reading
          match reading.rest with
          | [')'] :: rest => pure (query, { reading with rest })
          | _ => .error .openParenthesis
      else if word = [')'] then .error (if depth = 0 then .closedParenthesis else .emptyParentheses)
      else if isJoint word then .error (.nothingBefore (String.ofList word))
      else readPrimary reading word

end

/-- A search: where it begins, what is asked, and which depths count. -/
structure Plan where
  starts : List Octets
  query : Query
  least : Nat
  most : Option Nat
  depthFirst : Bool
  /-- Whether links are followed. -/
  follows : Bool

/-- The search that arguments ask for. -/
def planOf (state : State) (arguments : List Octets) : Except Fault Plan := do
  let isManner (word : Octets) : Bool :=
    ([['-', 'H'], ['-', 'L'], ['-', 'P']] : List Octets).contains word || (.ofText "-O" : Octets).isPrefixOf word
  let manners := arguments.takeWhile isManner
  let arguments := arguments.drop manners.length
  let starts := arguments.takeWhile fun word =>
    !(word.head? = some '-' && word.length > 1) && !([['!'], ['('], [')'], [',']] : List Octets).contains word
  let rest := arguments.drop starts.length
  let reading : Reading := {
    state, rest, least := 0, most := none, depthFirst := false, follows := manners.getLast? = some ['-', 'L']
    dialect := "emacs", calls := 0, pattern := none }
  let plain : Query := .print (.ofText "%p\\n") none
  let (query, reading) ← if rest = [] then pure (plain, reading)
    else do
      let (query, reading) ← readAll (4 * (rest.length + 2)) 0 reading
      if reading.rest ≠ [] then throw .closedParenthesis
      pure (if query.acts then query else .both query plain, reading)
  pure {
    starts := if starts = [] then [['.']] else starts, query, least := reading.least, most := reading.most
    depthFirst := reading.depthFirst || query.deletes, follows := reading.follows }

end ComponentViews.Shell.Search
