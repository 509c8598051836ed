import ComponentViews.Shell.Builtin
import ComponentViews.Shell.Extended.Usage
import ComponentViews.Shell.Passing
import ComponentViews.Shell.Reader

/-! What the name of a command stands for: a function of the script, a command of the
shell, or a program, which is found along the search path. -/

namespace ComponentViews.Shell

/-- Programs that run others. -/
inductive Starter where
  | withVariables
  | withInput
  /-- Ends what takes too long. -/
  | withLimit
  /-- Changes something about a program that does not show here: its name, letters that take
  values, and how many operands stand in front of the program. -/
  | wrapping (name : String) (valued : List Char) (operands : Nat)
  | withFound
  /-- Runs a script for each record of its input. -/
  | withRecords
  deriving DecidableEq, Repr

/-- What runs in the end when a file is started. -/
inductive Program where
  | utility (appetite : Appetite) (run : List Octets → State → State)
  /-- Takes several steps. -/
  | stepwise (run : List Octets → Step Unit)
  | starter (kind : Starter)
  /-- Tells where programs are. -/
  | locator
  | shell (dialect : Dialect)

/-- A program with the name it is called by and its arguments. -/
structure Started where
  program : Program
  name : Octets
  arguments : List Octets

/-- Why a file cannot be started. -/
inductive Refusal where
  | missing
  | denied
  /-- It holds no program. -/
  | senseless
  deriving DecidableEq, Repr

namespace Refusal

def message : Refusal → String
  | .missing => "No such file or directory"
  | .denied => "Permission denied"
  | .senseless => "Exec format error"

/-- What the shell says. -/
def shellMessage : Refusal → String
  | .missing => "not found"
  | refusal => refusal.message

def status : Refusal → Nat
  | .missing => 127
  | _ => 126

end Refusal

/-- Ways to start a program by its name with arguments; what is to be done if it cannot be
started comes first. -/
structure Starting where
  /-- Runs it as a process of its own. -/
  spawn : (Refusal → Step Unit) → Octets → List Octets → Step Unit
  /-- Lets it take the place of the running one. -/
  replace : (Refusal → Step Unit) → Octets → List Octets → Step Unit

namespace Program

/-- Shells and the languages of their scripts. -/
def shells : List (String × Dialect) := [("sh", .standard), ("dash", .standard), ("bash", .extended)]

def starters : List (String × Starter) :=
  [("env", .withVariables), ("xargs", .withInput), ("find", .withFound), ("awk", .withRecords),
    ("mawk", .withRecords), ("nawk", .withRecords), ("timeout", .withLimit), ("nohup", .wrapping "nohup" [] 0),
    ("nice", .wrapping "nice" ['n'] 0), ("setsid", .wrapping "setsid" [] 0),
    ("stdbuf", .wrapping "stdbuf" ['i', 'o', 'e'] 0)]

/-- Utilities that do not read on once they have what they need. -/
def sparing : List String := ["head", "dd"]

/-- Utilities whose output follows their input line by line. -/
def gradual : List String :=
  ["cat", "cut", "expand", "fold", "grep", "nl", "od", "paste", "rev", "sed", "tr", "unexpand", "uniq"]

def appetiteOf (name : String) : Appetite :=
  if sparing.contains name then .sparing else if gradual.contains name then .gradual else .whole

/-- Programs that every system has, by their names. -/
def ofName? (name : String) : Option Program :=
  match shells.lookup name, starters.lookup name with
  | some dialect, _ => some (.shell dialect)
  | none, some kind => some (.starter kind)
  | none, none =>
    if name = "which" then some .locator
    else match Passing.programs.lookup name with
      | some run => some (.stepwise run)
      | none => (Utility.program? name).map (.utility (appetiteOf name))

end Program

namespace State

/-- The words on the first line of a script behind its mark: who reads it, and an argument. -/
def interpreterOf? (source : Octets) : Option (Octets × List Octets) :=
  match source with
  | '#' :: '!' :: rest =>
    let line := Octets.dropEndWhile ((rest.takeWhile (· ≠ '\n')).dropWhile Name.isBlank) Name.isBlank
    let reader := line.takeWhile fun c => !Name.isBlank c
    let argument := (line.drop reader.length).dropWhile Name.isBlank
    if reader = [] then none else some (reader, if argument = [] then [] else [argument])
  | _ => none

/-- The program that runs when a file is started, which may name the one that reads it. -/
def programAt (state : State) : Nat → Octets → Octets → List Octets → Except Refusal Started
  | 0, _, _, _ => .error .senseless
  | depth + 1, path, name, arguments =>
    match state.entry? path with
    | none => .error .missing
    | some .directory => .error .denied
    | some (.file _ false) => .error .denied
    | some (.file content true) =>
      match (System.programName? content).bind Program.ofName? with
      | some program => .ok { program, name, arguments }
      | none =>
        match interpreterOf? (.ofBytes content.bytes) with
        | some (reader, argument) => state.programAt depth reader reader (argument ++ path :: arguments)
        | none => .error .senseless

/-- How many files may read each other. -/
def greatestDepth : Nat := 5

/-- The program of a file that another program starts. A text without a mark is taken for
a script. -/
def startable (state : State) (path name : Octets) (arguments : List Octets) : Except Refusal Started :=
  match state.programAt greatestDepth path name arguments with
  | .error .senseless =>
    .ok { program := .shell state.process.dialect, name := .ofText "/bin/sh", arguments := path :: arguments }
  | started => started

/-- The path of a program: a name with a slash is one, others are searched for, in the usual
places where nothing tells where. -/
def search? (state : State) (usual name : Octets) : Option Octets :=
  if name.contains '/' then some name
  else if name = [] then none
  else (((state.value? searchPath).getD usual).splitOn ':').findSome? fun directory =>
    let path := if directory = [] then name else directory ++ '/' :: name
    if state.isFile path then some path else none

/-- What a name stands for in a command. -/
inductive Meaning where
  | function (body : Script)
  | builtin (name : String)
  | program (path : Octets)
  | nothing

def meaning (state : State) (name : Octets) (evenFunctions : Bool) : Meaning :=
  let text := String.ofList name
  if name.contains '/' then .program name
  else match if evenFunctions then state.process.functions.find? name else none with
    | some body => .function body
    | none =>
      let isOwn := if state.isExtended then Builtin.Extended.isCommand text else Builtin.isBuiltin text
      if isOwn then .builtin text
      else match state.search? [] name with
        | some path => .program path
        | none => .nothing

def Meaning.isSpecial : Meaning → Bool
  | .builtin name => Builtin.isSpecial name
  | _ => false

def isStanding (state : State) (path : Octets) : Bool := (state.entry? path).isSome

/-- What a name is, in words. -/
def describe (state : State) (name : Octets) : Option Octets :=
  let found (text : String) : Option Octets := some (name ++ .ofText text)
  if Reader.keywords.contains (String.ofList name) then found " is a shell keyword"
  else match state.process.nicknames.lookup name with
  | some text => some (name ++ .ofText " is an alias for " ++ text)
  | none =>
  match state.meaning name true with
    | .function _ => found " is a shell function"
    | .builtin text => found (if Builtin.isSpecial text then " is a special shell builtin" else " is a shell builtin")
    | .program path =>
      if state.isStanding path then some (name ++ .ofText " is " ++ path) else none
    | .nothing => none

/-- The shortest way to name what a name stands for. -/
def shortName (state : State) (name : Octets) : Option Octets :=
  if Reader.keywords.contains (String.ofList name) then some name
  else match state.process.nicknames.lookup name with
  | some text => some (.ofText "alias " ++ name ++ '=' :: Builtin.singleQuoted text)
  | none =>
  match state.meaning name true with
    | .program path => if state.isStanding path then some path else none
    | .nothing => none
    | _ => some name

end State
end ComponentViews.Shell
