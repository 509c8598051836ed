import ComponentViews.Shell.Utility.Options
import ComponentViews.Shell.Utility.Size

/-! The first or the last lines or octets of files. -/

namespace ComponentViews.Shell.Utility

namespace Ends

/-- The part of a file that is asked for. -/
structure Part where
  byLines : Bool
  count : Nat
  /-- Whether the number counts from the far end: all but so many of the last, or from the
  line or octet with this number on. -/
  fromFarEnd : Bool
  deriving DecidableEq, Repr

/-- When the parts of files have headings. -/
inductive Headings where
  | never
  | ofSeveral
  | always
  deriving DecidableEq, Repr

structure Request where
  part : Part
  headings : Headings
  /-- What ends a line. -/
  mark : Char
  deriving DecidableEq, Repr

/-- Asks for another part. Once one begins at a line or octet with a number, the others do too. -/
def Request.withPart (request : Request) (sign : Char) (part : Part) : Request :=
  { request with part := { part with fromFarEnd := part.fromFarEnd || (sign = '+' && request.part.fromFarEnd) } }

/-- So many lines from the start of some octets, and the rest. -/
def splitLines (mark : Char) : Nat → Octets → Octets × Octets
  | 0, octets => ([], octets)
  | _ + 1, [] => ([], [])
  | count + 1, octets =>
    let line := octets.takeWhile (· ≠ mark)
    match octets.dropWhile (· ≠ mark) with
    | [] => (line, [])
    | ending :: rest =>
      let (later, rest) := splitLines mark count rest
      (line ++ ending :: later, rest)

/-- How many lines there are, the last of which may lack its end. -/
def lineCount (mark : Char) (octets : Octets) : Nat :=
  octets.count mark + (if octets.getLast?.all (· = mark) then 0 else 1)

/-- Octets split behind so many lines or octets. -/
def splitBehind (byLines : Bool) (mark : Char) (count : Nat) (octets : Octets) : Octets × Octets :=
  if byLines then splitLines mark count octets else (octets.take count, octets.drop count)

/-- Octets split in front of so many lines or octets at their end. -/
def splitBefore (byLines : Bool) (mark : Char) (count : Nat) (octets : Octets) : Octets × Octets :=
  let total := if byLines then lineCount mark octets else octets.length
  splitBehind byLines mark (total - count) octets

/-- The first part of some octets, and the rest. -/
def Request.first (request : Request) (octets : Octets) : Octets × Octets :=
  let part := request.part
  if part.fromFarEnd then splitBefore part.byLines request.mark part.count octets
  else splitBehind part.byLines request.mark part.count octets

/-- The last part of some octets. -/
def Request.last (request : Request) (octets : Octets) : Octets :=
  let part := request.part
  if part.fromFarEnd then (splitBehind part.byLines request.mark (part.count - 1) octets).2
  else (splitBefore part.byLines request.mark part.count octets).2

/-- A heading for each of several files. -/
def Request.heading (request : Request) (several isFirst : Bool) (operand : Octets) : Octets :=
  if request.headings = .always ∨ (several ∧ request.headings = .ofSeveral) then
    let name := if operand = ['-'] then .ofText "standard input" else operand
    (if isFirst then [] else ['\n']) ++ .ofText "==> " ++ name ++ .ofText " <==\n"
  else []

/-- Prints a part of each operand, or of the input. -/
def printEach (command : String) (request : Request) (operands : List Octets) (extent : Option Nat) (state : State)
    (body : Octets → State → Octets × State) : State :=
  let operands := if operands = [] then [['-']] else operands
  let several := operands.length > 1
  (operands.foldl (fun (isFirst, state) operand =>
    let content := if operand = ['-'] then (state.pending? 0).map fun stream => (stream.content, state)
      else state.readAtMost operand extent
    let heading := request.heading several isFirst operand
    match content with
    | .ok (content, state) =>
      let (part, state) := body content (state.print heading)
      (false, state.print part)
    | .error .isDirectory =>
      let message := Octets.ofText "error reading " ++ named operand ++ .ofText (": " ++ Trouble.isDirectory.message)
      (false, fault command message (state.print heading))
    | .error .closed =>
      (false, unreadable command operand .closed (if command = "head" then state.print heading else state))
    | .error trouble =>
      let message := Octets.ofText "cannot open " ++ named operand ++ .ofText (" for reading: " ++ trouble.message)
      (isFirst, fault command message state)) (true, state)).2

/-- The units that numbers may have. -/
def units : List Char := ['b', 'k', 'K', 'm', 'M', 'G', 'T', 'P', 'E', 'Z', 'Y', 'R', 'Q']

/-- The part that an option's number asks for. A sign in front of it makes it count from the
far end. -/
def readPart (command : String) (sign : Char) (byLines : Bool) (value : Octets) : Except (State → State) Part :=
  let signed := value.head? = some sign
  let bare := if value.head? = some '-' then value.drop 1 else value
  match readSize units bare with
  | .ok count => .ok { byLines, count, fromFarEnd := signed }
  | .error problem => .error (badSize command (if byLines then "invalid number of lines" else "invalid number of bytes")
      bare problem)

/-- A digit that is an option, which none may be. -/
def digitOption? (options : Options) : Option Char := (options.found.map Prod.fst).find? Name.isDigit

/-- What options ask for, of which the last ones count. -/
def requestOf (command : String) (sign : Char) (refuseDigit : Char → State → State) (options : Options) :
    Except (State → State) Request :=
  let usual : Request := {
    part := { byLines := true, count := 10, fromFarEnd := false }, headings := .ofSeveral, mark := '\n' }
  options.found.foldlM (fun request (letter, value) =>
    match letter with
    | 'n' => (readPart command sign true value).map (request.withPart sign)
    | 'c' => (readPart command sign false value).map (request.withPart sign)
    | 'q' => .ok { request with headings := .never }
    | 'v' => .ok { request with headings := .always }
    | 'z' => .ok { request with mark := '\x00' }
    | letter => if Name.isDigit letter then .error (refuseDigit letter) else .ok request) usual

def digits : List Char := ['0', '1', '2', '3', '4', '5', '6', '7', '8', '9']

/-! ### First parts -/

def headUsage : Usage where
  alone := ['q', 'v', 'z'] ++ digits
  valued := ['n', 'c']
  words := [("bytes", 'c'), ("lines", 'n'), ("quiet", 'q'), ("silent", 'q'), ("verbose", 'v'), ("zero-terminated", 'z')]
  anywhere := true

def trailing (letter : Char) : State → State := hinted "head" (.ofText "invalid trailing option -- " ++ [letter])

/-- Letters behind a number that is an option itself, as options: what is counted, the unit,
and the others. -/
def readTrailing : Char → Octets → List Octets → Octets → Except (State → State) (Char × Octets × List Octets)
  | counted, unit, others, [] => .ok (counted, unit, others)
  | counted, unit, others, letter :: rest =>
    match letter with
    | 'c' => readTrailing 'c' [] others rest
    | 'b' => readTrailing 'c' [letter] others rest
    | 'k' => readTrailing 'c' [letter] others rest
    | 'm' => readTrailing 'c' [letter] others rest
    | 'l' => readTrailing 'n' unit others rest
    | 'q' => readTrailing counted unit (others ++ [['-', letter]]) rest
    | 'v' => readTrailing counted unit (others ++ [['-', letter]]) rest
    | 'z' => readTrailing counted unit (others ++ [['-', letter]]) rest
    | letter => .error (trailing letter)

/-- Spells out an argument such as `-5` or `-5c`, if it is the first one. -/
def spellHead (arguments : List Octets) : Except (State → State) (List Octets) :=
  match arguments with
  | ('-' :: text) :: rest =>
    let number := text.takeWhile Name.isDigit
    if number = [] then .ok arguments
    else (readTrailing 'n' [] [] (text.drop number.length)).map fun (counted, unit, others) =>
      ['-', counted] :: (number ++ unit) :: others ++ rest
  | arguments => .ok arguments

/-- How many octets a utility reads ahead at a time. -/
def blockSize : Nat := 8192

/-! ### Last parts -/

/-- Letters that no octet is stand for words that have none. -/
def tailUsage : Usage where
  alone := ['q', 'v', 'z', 'f', 'F', 'ρ', 'φ'] ++ digits
  valued := ['n', 'c', 's', 'μ', 'π']
  words := [("bytes", 'c'), ("follow", 'φ'), ("lines", 'n'), ("max-unchanged-stats", 'μ'), ("pid", 'π'),
    ("quiet", 'q'), ("retry", 'ρ'), ("silent", 'q'), ("sleep-interval", 's'), ("verbose", 'v'), ("zero-terminated", 'z')]
  anywhere := true
  optional := ['φ']

/-- An argument such as `-5`, `+5` or `-5c`, as options. -/
def spellTail? (argument : Octets) : Option (List Octets) :=
  match argument with
  | sign :: text =>
    if (sign ≠ '-' ∧ sign ≠ '+') ∨ (sign = '-' ∧ (text = [] ∨ text = ['c'])) then none
    else
      let number := text.takeWhile Name.isDigit
      let (counted, usual, unit, rest) : Char × String × Octets × Octets := match text.drop number.length with
        | 'b' :: rest => ('c', "5120", ['b'], rest)
        | 'c' :: rest => ('c', "10", [], rest)
        | 'l' :: rest => ('n', "10", [], rest)
        | rest => ('n', "10", [], rest)
      let value := (if sign = '+' then ['+'] else []) ++ (if number = [] then Octets.ofText usual else number ++ unit)
      match rest with
      | [] => some [['-', counted], value]
      | ['f'] => some [['-', counted], value, ['-', 'f']]
      | _ => none
  | [] => none

/-- Spells out a first argument that is a number, unless several files are behind it. -/
def spellTail (arguments : List Octets) : List Octets :=
  let isAlone := match arguments.drop 1 with
    | [] => true
    | [operand] => operand.head? ≠ some '-' || operand.length = 1
    | ['-', '-'] :: rest => rest.length ≤ 1
    | _ => false
  match arguments with
  | argument :: rest => if isAlone then ((spellTail? argument).getD [argument]) ++ rest else arguments
  | [] => []

/-- Whether a text is a number of seconds. -/
def isTime (text : Octets) : Bool :=
  let rest := (text.dropWhile Name.isDigit)
  match rest with
  | [] => text ≠ []
  | '.' :: fraction => fraction.all Name.isDigit && text.length > 1
  | _ => false

/-- Whether files are watched for what is added to them. -/
def follows (options : Options) : Bool := options.has 'f' || options.has 'F' || options.has 'φ'

/-- What is wrong with options that have to do with time. -/
def problem? (options : Options) : Option (State → State) :=
  options.found.findSome? fun (letter, value) => match letter with
    | 's' => if isTime value then none else some (fault "tail" (.ofText "invalid number of seconds: " ++ quoted value))
    | 'π' => if (Format.natural? value).isSome then none else some (fault "tail" (.ofText "invalid PID: " ++ quoted value))
    | 'μ' =>
      if (Format.natural? value).isSome then none
      else some (fault "tail" (.ofText "invalid maximum number of unchanged stats between opens: " ++ quoted value))
    | 'φ' =>
      if value = [] then none
      else match choose "tail" "--follow" ["descriptor", "name"] value with
        | .error complaint => some complaint
        | .ok _ => none
    | _ => none

/-- Warnings about options that mean nothing where no file is watched. -/
def warn (options : Options) (state : State) : State :=
  if follows options then state
  else
    let state := if !options.has 'ρ' then state
      else complain "tail" (.ofText "warning: --retry ignored; --retry is useful only when following") state
    if !options.has 'π' then state
    else complain "tail" (.ofText "warning: PID ignored; --pid=PID is useful only when following") state

end Ends

open Ends in
/-- Prints the first lines or octets. Of the input, a file keeps what is not printed, while
other streams are read ahead for lines. -/
def head (arguments : List Octets) (state : State) : State :=
  match spellHead arguments with
  | .error complaint => complaint state
  | .ok arguments =>
    withOptions "head" headUsage 1 arguments state fun options state =>
      match requestOf "head" '-' trailing options with
      | .error complaint => complaint state
      | .ok request =>
        let part := request.part
        let ofInput := options.operands = [] ∨ options.operands.contains ['-']
        let keeps := (match state.pending? 0 with
          | .ok stream => stream.ofFile
          | .error _ => false) || !part.byLines
        let extent := if part.byLines then none else some part.count
        printEach "head" request options.operands extent state fun content state =>
          let (first, rest) := request.first content
          let read := (first.length + blockSize - 1) / blockSize * blockSize
          let left := if ofInput then state.leave 0 (if keeps then rest else content.drop read) else state
          let found := if part.byLines then first.count request.mark else first.length
          (first, if !part.fromFarEnd && found = part.count then left.sate else left)

open Ends in
/-- Prints the last lines or octets, or those from a number on. -/
def tail (arguments : List Octets) (state : State) : State :=
  withOptions "tail" tailUsage 1 (spellTail arguments) state fun options state =>
    let refuse (digit : Char) : State → State := fault "tail" (.ofText "option used in invalid context -- " ++ [digit])
    match requestOf "tail" '+' refuse options, problem? options with
    | .error complaint, _ => complaint state
    | .ok _, some complaint => complaint state
    | .ok request, none =>
      let state := warn options state
      if request.part.count = 0 ∧ !request.part.fromFarEnd ∧ !follows options then state
      else
        let state := printEach "tail" request options.operands none state fun content state =>
          (request.last content, state.leave 0 [])
        let isThere (operand : Octets) : Bool := operand = ['-'] || (state.kind? operand).isSome
        if follows options ∧ options.operands ≠ [] ∧ !options.operands.any isThere ∧ !options.has 'ρ' ∧ !options.has 'F' then
          fault "tail" (.ofText "no files remaining") state
        else state

open Ends in
/-- The operands that are watched after their last parts have been printed. -/
def followed (arguments : List Octets) : List Octets :=
  match tailUsage.read (spellTail arguments) with
  | .ok options => if follows options then options.operands else []
  | .error _ => []

end ComponentViews.Shell.Utility
