import ComponentViews.Shell.Builtin
import ComponentViews.Shell.Extended.Usage

/-! The working directory of the extended dialect, and the directories to go back to. -/

namespace ComponentViews.Shell.Builtin.Extended
open Step

/-- Goes to a directory, unless there is none. -/
def goTo (path : Octets) (text : Octets) : Step Bool := do
  let state ← get
  match state.isDirectory path, state.files.locate (state.pathOf path) with
  | true, .ok target =>
    let moved := (state.withFiles (state.files.workingIn target)).assign State.formerVariable state.directoryName
    let marked := match moved.held? State.formerVariable with
      | some held => moved.bind State.formerVariable { held with exported := true }
      | none => moved
    set marked.tellDirectory.succeed
    pure true
  | _, _ => do
    blame text (if (state.entry? path).isSome then "Not a directory" else "No such file or directory")
    pure false

/-- A directory among those that a variable tells where to search for others. -/
def searchedDirectory? (state : State) (path : Octets) : Option Octets :=
  let isNear := path.head? = some '/' || path.head? = some '.'
  if isNear then none
  else (((state.value? (.ofText "CDPATH")).getD []).splitOn ':').findSome? fun start =>
    let found := if start.isEmpty then path else start ++ '/' :: path
    if !start.isEmpty && state.isDirectory found then some found else none

/-- Tells where the script works. -/
def tellPlace : Step Unit := modify fun state => state.print (state.directoryName ++ ['\n'])

/-- Goes to another directory. -/
def changeDirectory (arguments : List Octets) : Step Unit :=
  withGiven ['L', 'P', 'e', '@'] [] arguments fun given => do
    let state ← get
    match given.operands with
    | [] =>
      match state.value? (.ofText "HOME") with
      | some home => if home.isEmpty then setStatus 0 else let _ ← goTo home home
      | none => fail 1 (.ofText "HOME not set")
    | [['-']] =>
      match state.value? State.formerVariable with
      | some former => if ← goTo former former then tellPlace
      | none => fail 1 (.ofText "OLDPWD not set")
    | [path] =>
      if path.isEmpty then setStatus 0
      else match searchedDirectory? state path with
        | some found => if ← goTo found path then tellPlace
        | none => let _ ← goTo path path
    | _ => fail 1 (.ofText "too many arguments")

def tellDirectory (arguments : List Octets) : Step Unit := withGiven ['L', 'P'] [] arguments fun _ => do
  setStatus 0
  tellPlace

/-! ### Directories to go back to -/

/-- The working directory and those to go back to. -/
def stack (state : State) : List Octets := state.directoryName :: state.process.left

/-- A directory with a sign for the home. -/
def abbreviated (state : State) (path : Octets) : Octets :=
  match state.value? (.ofText "HOME") with
  | some home =>
    if home.length > 1 && (path = home || (home ++ ['/']).isPrefixOf path) then '~' :: path.drop home.length else path
  | none => path

def printStack (state : State) : State :=
  state.print ([' '].intercalate ((stack state).map (abbreviated state)) ++ ['\n'])

def setLeft (left : List Octets) : Step Unit := modify (·.adjust fun process => { process with left })

/-- The place that a number with a sign stands for, counted from one end or the other. -/
def placeOf? (size : Nat) (word : Octets) : Option (Option Nat) :=
  match word with
  | '+' :: digits => (Format.natural? digits).map fun number => if number < size then some number else none
  | '-' :: digits => (Format.natural? digits).map fun number => if number < size then some (size - 1 - number) else none
  | _ => none

def outOfRange (word : Octets) : Step Unit := do
  if (← get).process.left.isEmpty then fail 1 (.ofText "directory stack empty")
  else blame word "directory stack index out of range"

/-- Goes to a directory and leaves the one before to go back to. -/
def pushDirectory (arguments : List Octets) : Step Unit := do
  let stays := arguments.head? = some ['-', 'n']
  let operands := if stays then arguments.drop 1 else arguments
  let operands := if operands.head? = some ['-', '-'] then operands.drop 1 else operands
  let state ← get
  let directories := stack state
  match operands with
  | [] =>
    match state.process.left with
    | [] => fail 1 (.ofText "no other directory")
    | first :: rest =>
      if stays then setStatus 0
      else if ← goTo first first then
        setLeft (state.directoryName :: rest)
        modify printStack
  | word :: _ =>
    match placeOf? directories.length word with
    | some none => outOfRange word
    | some (some place) =>
      let turned := directories.drop place ++ directories.take place
      if ← goTo (turned.headD []) (turned.headD []) then
        setLeft (turned.drop 1)
        modify printStack
    | none =>
      if stays then
        setLeft (word :: state.process.left)
        modify fun state => (printStack state).succeed
      else if ← goTo word word then
        setLeft (state.directoryName :: state.process.left)
        modify printStack

/-- Goes back to a directory, or forgets one. -/
def popDirectory (arguments : List Octets) : Step Unit := do
  let stays := arguments.head? = some ['-', 'n']
  let operands := if stays then arguments.drop 1 else arguments
  let state ← get
  let place : Option (Option Nat) := match operands with
    | [] => some (some (if stays then 1 else 0))
    | word :: _ => placeOf? (stack state).length word
  match state.process.left, place with
  | [], _ => fail 1 (.ofText "directory stack empty")
  | _, none => misuse (String.ofList (operands.headD []) ++ ": invalid argument")
  | _, some none => outOfRange (operands.headD [])
  | first :: rest, some (some 0) =>
    if ← goTo first first then
      setLeft rest
      modify printStack
  | left, some (some place) => do
    setLeft (left.take (place - 1) ++ left.drop place)
    modify fun state => (printStack state).succeed

/-- Lists the working directory and those to go back to. -/
def listDirectories (arguments : List Octets) : Step Unit := do
  let letters := (arguments.filter fun argument => argument.head? = some '-' &&
    (argument.drop 1).any fun c => !Name.isDigit c).flatMap (·.drop 1)
  let place := arguments.find? fun argument => (placeOf? 0 argument).isSome
  let state ← get
  let shown (path : Octets) : Octets := if letters.contains 'l' then path else abbreviated state path
  match letters.find? fun letter => letter ∉ ['c', 'l', 'p', 'v'], place with
  | some letter, _ => misuse ("-" ++ letter.toString ++ ": invalid number")
  | none, some word =>
    match placeOf? (stack state).length word with
    | some (some place) => set (state.succeed.print (shown ((stack state).getD place []) ++ ['\n']))
    | _ => outOfRange word
  | none, none =>
    if letters.contains 'c' then
      setLeft []
      setStatus 0
    else
      let paths := (stack state).map shown
      let lines := if letters.contains 'v' then paths.zipIdx.map fun (path, place) =>
          let number := toString place
          .ofText ("".pushn ' ' (2 - number.length) ++ number ++ "  ") ++ path
        else if letters.contains 'p' then paths
        else [[' '].intercalate paths]
      set (state.succeed.print (Octets.ofLines lines))

end ComponentViews.Shell.Builtin.Extended
