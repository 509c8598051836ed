import ComponentViews.Shell.Utility.Naming
import ComponentViews.Shell.Utility.Sed.Script

/-! Running editing scripts: line after line is read into the pattern space, the
instructions that are for it are carried out, and what they leave is printed. -/

namespace ComponentViews.Shell

namespace Sed
open Utility

/-- What is put out behind the current line. -/
inductive Queued where
  | text (value : Octets)
  | file (path : Octets)

structure Editor where
  pattern : Octets
  held : Octets
  /-- The number of the current line. -/
  line : Nat
  rest : List Octets
  /-- Whether the last line of the input lacks its newline. -/
  endsBare : Bool
  output : Octets
  /-- Whether the newline of the last output is still due. -/
  owes : Bool
  queue : List Queued
  replaced : Bool
  /-- Ranges that have begun, by the index of their instruction, and where they end. -/
  ranges : Table Nat Address
  /-- The expression used last. -/
  used : Option Regex
  state : State

/-- How the script has been started. -/
structure Manner where
  quiet : Bool
  extended : Bool
  separate : Bool
  inPlace : Bool
  /-- What ends a line. -/
  newline : Char

namespace Editor

def isLast (editor : Editor) : Bool := editor.rest.isEmpty

/-- Puts octets out, behind a newline that is due. -/
def emit (editor : Editor) (newline : Char) (octets : Octets) : Editor :=
  { editor with output := editor.output ++ (if editor.owes then [newline] else []) ++ octets, owes := false }

/-- Puts a line out, whose newline is due as long as the input lacks it. -/
def emitLine (editor : Editor) (newline : Char) (line : Octets) : Editor :=
  let bare := editor.isLast && editor.endsBare
  let editor := editor.emit newline (if bare then line else line ++ [newline])
  { editor with owes := bare }

def printPattern (manner : Manner) (editor : Editor) : Editor := editor.emitLine manner.newline editor.pattern

/-- Puts out what has been queued. -/
def flush (manner : Manner) (editor : Editor) : Editor :=
  let flushed := editor.queue.foldl (fun editor queued =>
    match queued with
    | .text value => editor.emit manner.newline value
    | .file path =>
      match editor.state.read path with
      | .ok (content, state) => if content = [] then editor else { editor with state }.emit manner.newline content
      | .error _ => editor) editor
  { flushed with queue := [] }

/-- Adds a line to a file, or to the output. -/
def writeTo (manner : Manner) (path : Octets) (editor : Editor) : Editor :=
  if editor.state.descriptorOf? path = some 1 then editor.emitLine manner.newline editor.pattern
  else match editor.state.openOutput path false with
    | .ok (channel, state) => { editor with state := state.send channel (editor.pattern ++ [manner.newline]) }
    | .error _ => editor

/-! ### Which lines a command is for -/

def fitsAddress (editor : Editor) : Address → Bool × Editor
  | .line number => (editor.line = number, editor)
  | .steps first step =>
    (if step = 0 then editor.line = first else editor.line ≥ first ∧ (editor.line - first) % step = 0, editor)
  | .last => (editor.isLast, editor)
  | .fitting regex =>
    match regex.or editor.used with
    | some regex => (regex.isIn editor.pattern, { editor with used := some regex })
    | none => (false, editor)

/-- Where a range that begins on the current line ends, unless that is the same line. -/
def closing? (editor : Editor) : Ending → Option Address
  | .later count => if count = 0 then none else some (.line (editor.line + count))
  | .multiple number =>
    if number = 0 ∨ editor.line % number = 0 then none else some (.line ((editor.line / number + 1) * number))
  | .address (.line number) => if number ≤ editor.line then none else some (.line number)
  | .address .last => if editor.isLast then none else some .last
  | .address address => some address

def forgetRange (editor : Editor) (index : Nat) : Editor :=
  { editor with ranges := { entries := editor.ranges.entries.filter fun entry => entry.1 ≠ index } }

/-- Whether a range holds the current line. -/
def inRange (editor : Editor) (index : Nat) (first : Address) (ending : Ending) : Bool × Editor :=
  match editor.ranges.find? index with
  | some (.line number) =>
    (editor.line ≤ number, if editor.line ≥ number then editor.forgetRange index else editor)
  | some address =>
    let (ends, editor) := editor.fitsAddress address
    (true, if ends then editor.forgetRange index else editor)
  | none =>
    let (begins, editor) := editor.fitsAddress first
    if begins then
      match editor.closing? ending with
      | some closing => (true, { editor with ranges := editor.ranges.insert index closing })
      | none => (true, editor)
    else (false, editor)

/-- Whether an instruction is for the current line. -/
def selects (editor : Editor) (index : Nat) (selector : Selector) : Bool × Editor :=
  let (holds, editor) := match selector.first, selector.ending with
    | none, _ => (true, editor)
    | some first, none => editor.fitsAddress first
    | some first, some ending => editor.inRange index first ending
  (holds != selector.negated, editor)

/-! ### Substitution -/

def applyCasing (casing : Casing) (text : Octets) : Octets :=
  match casing with
  | .upper => text.map Char.toUpper
  | .lower => text.map Char.toLower
  | _ => text

/-- The text of pieces, with the casing that holds on and the one for the next character. -/
def replacement (found : Regex.Match) (text : Array Char) : Casing → Casing → List Piece → Octets
  | _, _, [] => []
  | lasting, _, .casing casing :: rest =>
    match casing with
    | .upperOnce => replacement found text lasting .upperOnce rest
    | .lowerOnce => replacement found text lasting .lowerOnce rest
    | casing => replacement found text casing .asIs rest
  | lasting, once, piece :: rest =>
    let plain := match piece with
      | .group number => found.group text number
      | .text value => value
      | .casing _ => []
    let cased := applyCasing lasting plain
    match once, cased with
    | .upperOnce, c :: others => c.toUpper :: others ++ replacement found text lasting .asIs rest
    | .lowerOnce, c :: others => c.toLower :: others ++ replacement found text lasting .asIs rest
    | once, cased => cased ++ replacement found text lasting once rest

/-- Replaces matches from a position on: the new text, and whether anything was replaced.
A match of nothing right behind another match does not count. -/
def replaceFrom (substitution : Substitution) (regex : Regex) (text : Array Char) :
    Nat → Nat → Option Nat → Nat → Octets × Bool
  | 0, position, _, _ => (Regex.part text position text.size, false)
  | fuel + 1, position, lastEnd, count =>
    match if position ≤ text.size then regex.find? text position else none with
    | none => (Regex.part text position text.size, false)
    | some found =>
      let before := Regex.part text position found.first
      let vacuous := found.first = found.last
      let following := if vacuous then found.last + 1 else found.last
      let passed := if vacuous then Regex.part text found.last (found.last + 1) else []
      if vacuous ∧ lastEnd = some found.last then
        let (later, replaced) := replaceFrom substitution regex text fuel following none count
        (before ++ passed ++ later, replaced)
      else if count + 1 < substitution.number then
        let (later, replaced) := replaceFrom substitution regex text fuel following (some found.last) (count + 1)
        (before ++ Regex.part text found.first found.last ++ passed ++ later, replaced)
      else
        let new := before ++ replacement found text .asIs .asIs substitution.pieces
        if substitution.all then
          let (later, _) := replaceFrom substitution regex text fuel following (some found.last) (count + 1)
          (new ++ passed ++ later, true)
        else (new ++ Regex.part text found.last text.size, true)

def substitute (manner : Manner) (substitution : Substitution) (editor : Editor) : Editor :=
  match substitution.regex.or editor.used with
  | none => editor
  | some regex =>
    let text := editor.pattern.toArray
    let (pattern, replaced) := replaceFrom substitution regex text (2 * text.size + 2) 0 none 0
    let editor := { editor with used := some regex }
    if !replaced then editor
    else
      let editor := { editor with pattern, replaced := true }
      let editor := if substitution.prints then editor.printPattern manner else editor
      match substitution.file with
      | some path => editor.writeTo manner path
      | none => editor

/-! ### Commands -/

/-- A line with what cannot be seen spelled out, in rows that are joined by backslashes. -/
def plainRows (width : Nat) (line : Octets) : Octets :=
  let spelled (c : Char) : Octets := match c with
    | '\\' => ['\\', '\\']
    | '\x07' => ['\\', 'a']
    | '\x08' => ['\\', 'b']
    | '\x0c' => ['\\', 'f']
    | '\n' => ['\\', 'n']
    | '\x0d' => ['\\', 'r']
    | '\t' => ['\\', 't']
    | '\x0b' => ['\\', 'v']
    | c =>
      if ' ' ≤ c ∧ c ≤ '~' then [c]
      else
        let digits := Nat.toDigits 8 c.toNat
        '\\' :: List.replicate (3 - digits.length) '0' ++ digits
  let (done, current) := line.foldl (fun (done, current) c =>
    let next := spelled c
    let isFull := current.length + next.length > width - 1
    if isFull then (done ++ current ++ ['\\', '\n'], next) else (done, current ++ next))
    (([], []) : Octets × Octets)
  done ++ current ++ ['$', '\n']

def lineWidth : Nat := 70

/-- Reads the next line into the pattern space, if there is one. -/
def advance (editor : Editor) : Option Editor :=
  match editor.rest with
  | [] => none
  | line :: rest => some { editor with pattern := line, rest, line := editor.line + 1 }

/-- How a run of the instructions ends. -/
inductive Outcome where
  | finished
  | deleted
  /-- Starts over with what is left of the pattern space. -/
  | again
  | quit (prints : Bool) (status : Nat)

/-- Where instructions go on behind a label, or behind all of them. -/
def labelIndex (instructions : Array Instruction) (label : Octets) : Nat :=
  if label = [] then instructions.size
  else ((instructions.toList.findIdx? fun instruction => instruction.command = .label label).getD instructions.size)

/-- Carries out a command that goes on with the next one. -/
def carryOut (manner : Manner) (command : Command) (editor : Editor) : Editor :=
  let lineEnd := manner.newline
  match command with
  | .substitute substitution => editor.substitute manner substitution
  | .transliterate pairs => { editor with pattern := editor.pattern.map fun c => (pairs.lookup c).getD c }
  | .print => editor.printPattern manner
  | .printFirst => editor.emit lineEnd (editor.pattern.takeWhile (· ≠ lineEnd) ++ [lineEnd])
  | .printPlainly => editor.emit lineEnd (plainRows lineWidth editor.pattern)
  | .printNumber => editor.emit lineEnd (.ofNat editor.line ++ ['\n'])
  | .hold => { editor with held := editor.pattern }
  | .appendToHold => { editor with held := editor.held ++ lineEnd :: editor.pattern }
  | .recall => { editor with pattern := editor.held }
  | .appendHeld => { editor with pattern := editor.pattern ++ lineEnd :: editor.held }
  | .exchange => { editor with pattern := editor.held, held := editor.pattern }
  | .insert text => editor.emit lineEnd text
  | .append text => { editor with queue := editor.queue ++ [.text text] }
  | .readFile path => { editor with queue := editor.queue ++ [.file path] }
  | .writeFile path => editor.writeTo manner path
  | .empty => { editor with pattern := [] }
  | _ => editor

/-- Runs the instructions from an index on. -/
def runFrom (manner : Manner) (instructions : Array Instruction) : Nat → Nat → Editor → Outcome × Editor
  | 0, _, editor => (.finished, editor)
  | fuel + 1, index, editor =>
    match instructions[index]? with
    | none => (.finished, editor)
    | some instruction =>
      let (selected, editor) := editor.selects index instruction.selector
      let goOn := runFrom manner instructions fuel
      match selected, instruction.command with
      | false, .block length => goOn (index + 1 + length) editor
      | false, _ => goOn (index + 1) editor
      | true, .branch label => goOn (labelIndex instructions label) editor
      | true, .branchIf replaced label =>
        if editor.replaced = replaced then goOn (labelIndex instructions label) { editor with replaced := false }
        else goOn (index + 1) { editor with replaced := false }
      | true, .delete => (.deleted, editor)
      | true, .deleteFirst =>
        match editor.pattern.dropWhile (· ≠ manner.newline) with
        | [] => (.deleted, editor)
        | _ :: rest => (.again, { editor with pattern := rest })
      | true, .change text =>
        let ongoing := instruction.selector.ending.isSome && !instruction.selector.negated &&
          (editor.ranges.find? index).isSome
        (.deleted, if ongoing then editor else editor.emit manner.newline text)
      | true, .next =>
        if editor.isLast then (.finished, editor)
        else
          let printed := if manner.quiet then editor else editor.printPattern manner
          match (printed.flush manner).advance with
          | some editor => goOn (index + 1) editor
          | none => (.finished, editor)
      | true, .appendNext =>
        match (editor.flush manner).advance with
        | some next => goOn (index + 1) { next with pattern := editor.pattern ++ manner.newline :: next.pattern }
        | none => (.finished, editor)
      | true, .quit prints status => (.quit prints status, editor)
      | true, command => goOn (index + 1) (editor.carryOut manner command)

/-- How many instructions may be carried out for one line. -/
def runFuel : Nat := 100000

/-- Edits line after line: the editor at the end, and the status asked for. -/
def runLines (manner : Manner) (instructions : Array Instruction) : Nat → Bool → Editor → Editor × Option Nat
  | 0, _, editor => (editor, none)
  | fuel + 1, reads, editor =>
    let next := if reads then editor.advance.map fun editor => { editor with replaced := false } else some editor
    match next with
    | none => (editor, none)
    | some editor =>
      let (outcome, editor) := runFrom manner instructions runFuel 0 editor
      let printed := if manner.quiet then editor else editor.printPattern manner
      match outcome with
      | .finished => runLines manner instructions fuel true (printed.flush manner)
      | .deleted => runLines manner instructions fuel true (editor.flush manner)
      | .again => runLines manner instructions fuel false (editor.flush manner)
      | .quit prints status => (if prints then printed.flush manner else editor, some status)

/-- Ranges that have begun before the first line. -/
def earlyRanges (instructions : List Instruction) : Table Nat Address where
  entries := instructions.zipIdx.filterMap fun (instruction, index) =>
    match instruction.selector.first, instruction.selector.ending with
    | some (.line 0), some (.address address) => some (index, address)
    | _, _ => none

/-- Edits a text: what is put out, the state, and the status asked for. -/
def edit (manner : Manner) (instructions : List Instruction) (content : Octets) (state : State) :
    Octets × State × Option Nat :=
  let lines := content.splitOn manner.newline
  let endsBare := lines.getLast? ≠ some []
  let editor : Editor := {
    pattern := [], held := [], line := 0, rest := if endsBare then lines else lines.dropLast, endsBare, output := [],
    owes := false, queue := [], replaced := false, ranges := earlyRanges instructions, used := none, state }
  let (editor, status) := runLines manner instructions.toArray (2 * content.length + 2) true editor
  (editor.output, editor.state, status)

end Editor

def usage : Usage where
  alone := ['n', 'E', 'r', 's', 'u', 'z', 'i']
  valued := ['e', 'f', 'l']
  words := [
    ("quiet", 'n'), ("silent", 'n'), ("regexp-extended", 'E'), ("expression", 'e'), ("file", 'f'), ("in-place", 'i'),
    ("null-data", 'z'), ("separate", 's')]
  anywhere := true

/-- Empties the files that a script writes to. -/
def emptyFiles (instructions : List Instruction) (state : State) : State :=
  instructions.foldl (fun state instruction =>
    let path := match instruction.command with
      | .writeFile path => some path
      | .substitute substitution => substitution.file
      | _ => none
    match path with
    | some path =>
      if (state.descriptorOf? path).isSome then state
      else match state.write path [] with
        | .ok state => state
        | .error _ => state
    | none => state) state

/-- Contents of operands, those that cannot be read left out with a complaint. -/
def contents (operands : List Octets) (state : State) : List (Octets × Octets) × State :=
  operands.foldl (fun (found, state) operand =>
    match contentOf operand state with
    | .ok (content, state) => (found ++ [(operand, content)], state)
    | .error .isDirectory =>
      let message := .ofText "couldn't edit " ++ operand ++ .ofText ": not a regular file"
      (found, (complain "sed" message state).withStatus 4)
    | .error trouble =>
      (found, (plainFaultOf "sed" (.ofText "can't read " ++ operand) trouble.message state).withStatus 2))
    ([], state)

/-- Contents one after the other, each but the last ended by a newline. -/
def joined (newline : Char) : List Octets → Octets
  | [] => []
  | [last] => last
  | content :: rest =>
    (if content = [] ∨ content.getLast? = some newline then content else content ++ [newline]) ++ joined newline rest

/-- Runs a script over the operands, or over the input. -/
def run (manner : Manner) (instructions : List Instruction) (operands : List Octets) (state : State) : State :=
  let (found, state) := contents (if operands = [] then [['-']] else operands) (emptyFiles instructions state)
  let ended (status : Option Nat) (state : State) : State :=
    match status with
    | some 0 => state.sate
    | some status => (state.withStatus status).sate
    | none => state
  if manner.separate then
    found.foldl (fun state (operand, content) =>
      let (output, state, status) := Editor.edit manner instructions content state
      let state := ended status state
      if manner.inPlace then
        match state.write operand output with
        | .ok state => state
        | .error _ => state
      else state.print output) state
  else
    let (output, state, status) := Editor.edit manner instructions (joined manner.newline (found.map Prod.snd)) state
    ended status (state.print output)

/-- A branch to a label that is not there. -/
def missingLabel? (instructions : List Instruction) : Option Octets :=
  instructions.findSome? fun instruction =>
    let target := match instruction.command with
      | .branch label => label
      | .branchIf _ label => label
      | _ => []
    if target = [] ∨ (instructions.any fun other => other.command = .label target) then none else some target

end Sed

namespace Utility

def shortUsage : String := "Usage: sed [OPTION]... \x7bscript-only-if-no-other-script\x7d [input-file]...\n"

/-- A complaint about something without which no editing starts. -/
def panic (message : Octets) (state : State) : State := (complain "sed" message state).withStatus 4

/-- Edits lines by a script. -/
def sed (arguments : List Octets) (state : State) : State :=
  let spelled := arguments.map fun argument => if ['-', 'i'].isPrefixOf argument then ['-', 'i'] else argument
  withOptions "sed" Sed.usage 1 spelled state fun options state =>
    let (scripts, state) := options.found.foldl (fun (scripts, state) (letter, value) =>
      if letter = 'e' then (scripts ++ [value], state)
      else if letter = 'f' then
        match contentOf value state with
        | .ok (content, state) =>
          (scripts ++ [if content.getLast? = some '\n' then content.dropLast else content], state)
        | .error trouble =>
          (scripts, panic (.ofText "couldn't open file " ++ value ++ .ofText (": " ++ trouble.message)) state)
      else (scripts, state)) (([], state) : List Octets × State)
    let given := options.has 'e' ∨ options.has 'f'
    if state.status ≠ 0 then state
    else if !given ∧ options.operands = [] then (state.report (.ofText shortUsage)).withStatus 1
    else
      let source := if given then ['\n'].intercalate scripts else options.operands.headD []
      let operands := if given then options.operands else options.operands.drop 1
      let extended := options.has 'E' || options.has 'r'
      match Sed.parse extended source with
      | .error problem =>
        let position := if problem.cause = .unmatchedOpening then 0 else source.length - problem.left
        fault "sed" (.ofText ("-e expression #1, char " ++ toString position ++ ": " ++ problem.cause.message)) state
      | .ok instructions =>
        match Sed.missingLabel? instructions with
        | some label => panic (.ofText "can't find label for jump to \x60" ++ label ++ ['\'']) state
        | none =>
          let quiet := options.has 'n' || ['#', 'n'] = source.takeWhile (· ≠ '\n')
          let manner : Sed.Manner := {
            quiet, extended, separate := options.has 's' || options.has 'i', inPlace := options.has 'i',
            newline := if options.has 'z' then '\x00' else '\n' }
          Sed.run manner instructions operands state

end Utility
end ComponentViews.Shell
