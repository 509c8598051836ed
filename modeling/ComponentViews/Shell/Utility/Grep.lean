import ComponentViews.Shell.Glob
import ComponentViews.Shell.Pattern
import ComponentViews.Shell.Regex
import ComponentViews.Shell.Utility.Naming

/-! Searching files for lines that fit patterns. -/

namespace ComponentViews.Shell.Utility

namespace Grep

def usage : Usage where
  alone := [
    'c', 'q', 'o', 'v', 'i', 'y', 'n', 'E', 'F', 'G', 'P', 'x', 'w', 'l', 'L', 'h', 'H', 's', 'r', 'R', 'a', 'b', 'U',
    'z', 'Z', 'T', 'I', 'u', '0', '1', '2', '3', '4', '5', '6', '7', '8', '9', 'κ', 'α', 'γ', 'ι']
  valued := ['e', 'f', 'm', 'A', 'B', 'C', 'd', 'D', 'λ', 'ν', 'ξ', 'δ', 'σ', 'β']
  words := [
    ("count", 'c'), ("quiet", 'q'), ("silent", 'q'), ("only-matching", 'o'), ("invert-match", 'v'),
    ("ignore-case", 'i'), ("no-ignore-case", 'ι'), ("line-number", 'n'), ("extended-regexp", 'E'),
    ("fixed-strings", 'F'), ("fixed-regexp", 'F'), ("basic-regexp", 'G'), ("perl-regexp", 'P'), ("line-regexp", 'x'),
    ("word-regexp", 'w'), ("files-with-matches", 'l'), ("files-without-match", 'L'), ("no-filename", 'h'),
    ("with-filename", 'H'), ("no-messages", 's'), ("recursive", 'r'), ("dereference-recursive", 'R'), ("text", 'a'),
    ("byte-offset", 'b'), ("null", 'Z'), ("null-data", 'z'), ("initial-tab", 'T'), ("binary", 'U'), ("regexp", 'e'),
    ("file", 'f'), ("max-count", 'm'), ("after-context", 'A'), ("before-context", 'B'), ("context", 'C'),
    ("color", 'κ'), ("colour", 'κ'), ("line-buffered", 'α'), ("no-group-separator", 'γ'), ("group-separator", 'σ'),
    ("label", 'λ'), ("include", 'ν'), ("exclude", 'ξ'), ("exclude-dir", 'δ'), ("binary-files", 'β'),
    ("directories", 'd'), ("devices", 'D')]
  anywhere := true
  optional := ['κ']

/-! ### Patterns -/

/-- A way to look for the first match from a position on: where it begins and where it ends. -/
abbrev Search := Array Char → Nat → Option (Nat × Nat)

/-- How patterns are to be understood. -/
inductive Matcher where
  | basic
  | extended
  | fixed
  | ordered
  deriving DecidableEq, Repr

/-- What keeps patterns from being understood. -/
inductive Fault where
  | regex (fault : Regex.Fault)
  | pattern (fault : Pattern.Fault)
  | severalPatterns
  | matchers
  | classOutside

def Fault.message : Fault → String
  | .regex fault => fault.message
  | .pattern fault => fault.message
  | .severalPatterns => "the -P option only supports a single pattern"
  | .matchers => "conflicting matchers specified"
  | .classOutside => "character class syntax is [[:space:]], not [:space:]"

def matcherOf (options : Options) : Except Fault Matcher :=
  let asked : List Matcher := (options.found.map Prod.fst).filterMap fun letter =>
    match letter with
    | 'G' => some .basic
    | 'E' => some .extended
    | 'F' => some .fixed
    | 'P' => some .ordered
    | _ => none
  match asked.eraseDups with
  | [] => .ok .basic
  | [matcher] => .ok matcher
  | _ => .error .matchers

/-- Whether a set looks like the name of a class that lacks brackets around it. -/
def hasBareClass : Octets → Bool
  | '\\' :: _ :: rest => hasBareClass rest
  | '[' :: ':' :: rest =>
    let inner := rest.takeWhile (· ≠ ']')
    (inner.length > 1 && inner.getLast? = some ':' && inner.dropLast.all fun c => 'a' ≤ c && c ≤ 'z') ||
      hasBareClass (rest.drop (inner.length + 1))
  | '[' :: rest =>
    match Regex.readSet false rest with
    | some (inner, _) => hasBareClass (rest.drop (inner.length + 1))
    | none => false
  | _ :: rest => hasBareClass rest
  | [] => false
termination_by input => input.length
decreasing_by all_goals simp only [List.length_cons, List.length_drop]; omega

/-- The operators at starts of branches, where they have no meaning. -/
def idleOperators (atStart : Bool) : Octets → List Char
  | '\\' :: _ :: rest => idleOperators false rest
  | '[' :: rest =>
    match Regex.readSet false rest with
    | some (inner, _) => idleOperators false (rest.drop (inner.length + 1))
    | none => []
  | c :: rest =>
    if c ∈ ['*', '+', '?'] ∧ atStart then c :: idleOperators false rest
    else idleOperators (c ∈ ['(', '|'] || (c = '^' && atStart)) rest
  | [] => []
termination_by input => input.length
decreasing_by all_goals simp only [List.length_cons, List.length_drop]; omega

/-- The expression that a pattern spells, for whole lines or words, or letters of either case. -/
def regexOf (options : Options) (matcher : Matcher) (source : Octets) : Except Fault Regex := do
  let regex ← if matcher = .fixed then pure (Regex.ofText source)
    else if hasBareClass source then .error .classOutside
    else match Regex.parse (if matcher = .extended then .lenient else .basic) source with
      | .ok (regex, _) => pure regex
      | .error fault => .error (.regex fault)
  let regex := if options.has 'w' then .sequence (.apart true) (.sequence regex (.apart false)) else regex
  let regex := if options.has 'x' then .sequence .start (.sequence regex .stop) else regex
  pure regex

/-- The first match of any of some searches, and of those the longest. -/
def anyOf (searches : List Search) : Search := fun text position =>
  searches.foldl (fun best search =>
    match best, search text position with
    | some best, some found =>
      let isBetter := found.1 < best.1 ∨ (found.1 = best.1 ∧ found.2 > best.2)
      if isBetter then some found else some best
    | best, found => best.or found) none

/-- The search for patterns, in the way that options ask for. -/
def searchFor (options : Options) (sources : List Octets) : Except Fault Search := do
  let matcher ← matcherOf options
  let last := (options.found.map Prod.fst).reverse.find? fun letter => letter ∈ ['i', 'y', 'ι']
  let ignoring := last = some 'i' ∨ last = some 'y'
  if matcher = .ordered then
    match sources with
    | [source] =>
      match Pattern.parse ignoring source with
      | .ok pattern => pure (pattern.whole (options.has 'w') (options.has 'x')).find?
      | .error fault => .error (.pattern fault)
    | [] => pure fun _ _ => none
    | _ => .error .severalPatterns
  else
    let searches ← sources.mapM fun source => do
      let regex ← regexOf options matcher source
      let regex := if ignoring then regex.ignoringCase else regex
      pure fun text position => (regex.find? text position).map fun found => (found.first, found.last)
    pure (anyOf searches)

/-- The parts of a line that match and are not empty: where they begin and end. -/
def matchesFrom (search : Search) (text : Array Char) : Nat → Nat → List (Nat × Nat)
  | 0, _ => []
  | fuel + 1, position =>
    match search text position with
    | none => []
    | some (first, last) =>
      if last ≤ first then
        if last < text.size then matchesFrom search text fuel (max last position + 1) else []
      else (first, last) :: matchesFrom search text fuel last

/-! ### Lines -/

/-- A line: its number, where it begins in its file, and whether it is selected. -/
structure Line where
  number : Nat
  offset : Nat
  text : Octets
  selected : Bool

/-- Lines with their numbers and places. -/
def numbered (selects : Octets → Bool) : Nat → Nat → List Octets → List Line
  | _, _, [] => []
  | number, offset, text :: rest =>
    { number, offset, text, selected := selects text } :: numbered selects (number + 1) (offset + text.length + 1) rest

/-- What is asked for about lines. -/
structure Demand where
  options : Options
  search : Search
  /-- How many lines are selected at most. -/
  most : Option Nat
  /-- How many lines are shown in front of a selected one, and behind it. -/
  before : Nat
  after : Nat
  named : Bool

namespace Demand

def delimiter (demand : Demand) : Char := if demand.options.has 'z' then '\x00' else '\n'

def lines (demand : Demand) (content : Octets) : List Line :=
  let parts := content.splitOn demand.delimiter
  let parts := if parts.getLast? = some [] then parts.dropLast else parts
  let inverted := demand.options.has 'v'
  numbered (fun text => (demand.search text.toArray 0).isSome != inverted) 1 0 parts

/-- The selected lines that count. -/
def chosen (demand : Demand) (lines : List Line) : List Line :=
  let selected := lines.filter Line.selected
  match demand.most with
  | some most => selected.take most
  | none => selected

/-- The lines that are shown: those that count and those around them. Behind the last line that
may count, no other line that fits is shown. -/
def shown (demand : Demand) (lines : List Line) (chosen : List Line) : List Line :=
  if demand.after = 0 ∧ demand.before = 0 then chosen
  else
    let last := ((chosen.getLast?).map Line.number).getD 0
    let isFull := demand.most.any (· ≤ chosen.length)
    let bound := if isFull then (lines.find? fun line => line.selected && line.number > last).map Line.number else none
    lines.filterMap fun line =>
      let counts := line.selected && line.number ≤ last
      let isNear := chosen.any fun other =>
        line.number ≤ other.number + demand.after && other.number ≤ line.number + demand.before
      if counts then some line
      else if isNear && !bound.any (· ≤ line.number) then some { line with selected := false }
      else none

/-- Whether parts of the output are set off by colors. -/
def isColored (demand : Demand) : Bool := demand.options.value? 'κ' = some (.ofText "always")

/-- A text in a color, if colors are asked for. -/
def colored (demand : Demand) (color : String) (text : Octets) : Octets :=
  if demand.isColored ∧ text ≠ [] then
    .ofText ("\x1b[" ++ color ++ "m\x1b[K") ++ text ++ .ofText "\x1b[m\x1b[K"
  else text

/-- What stands in front of a line, or of a part of it that begins somewhere. -/
def label (demand : Demand) (name : Octets) (line : Line) (start : Nat) (isEmpty : Bool) : Octets :=
  let mark := demand.colored "36" [if line.selected then ':' else '-']
  let number (value : Nat) : Octets :=
    let digits := Octets.ofNat value
    let fill := if demand.options.has 'T' then List.replicate (19 - digits.length) ' ' else []
    demand.colored "32" (fill ++ digits) ++ mark
  let head := (if demand.named then
      demand.colored "35" name ++ (if demand.options.has 'Z' then ['\x00'] else mark)
    else []) ++
    (if demand.options.has 'n' then number line.number else []) ++
    (if demand.options.has 'b' then number (line.offset + start) else [])
  if demand.options.has 'T' ∧ head ≠ [] ∧ !isEmpty then head ++ ['\t'] else head

/-- A line with the parts that match set off. -/
def painted (demand : Demand) (text : Array Char) : Nat → List (Nat × Nat) → Octets
  | position, [] => Regex.part text position text.size
  | position, (first, last) :: rest =>
    Regex.part text position first ++ demand.colored "01;31" (Regex.part text first last) ++
      painted demand text last rest

/-- What is printed for a line. -/
def row (demand : Demand) (name : Octets) (line : Line) : List Octets :=
  let text := line.text.toArray
  let found := matchesFrom demand.search text (text.size + 1) 0
  let inverted := demand.options.has 'v'
  if demand.options.has 'o' then
    if inverted || !line.selected then []
    else found.map fun (first, last) =>
      demand.label name line first false ++ demand.colored "01;31" (Regex.part text first last)
  else
    let body := if demand.isColored && line.selected != inverted then demand.painted text 0 found else line.text
    [demand.label name line 0 line.text.isEmpty ++ body]

/-- Rows of shown lines, with a mark between lines that are no neighbours. -/
def rows (demand : Demand) (name : Octets) (mark : List Octets) : List Line → List Octets
  | first :: second :: rest =>
    demand.row name first ++ (if first.number + 1 < second.number then mark else []) ++
      rows demand name mark (second :: rest)
  | [only] => demand.row name only
  | [] => []

/-- The mark between groups of lines, if lines around those that fit are asked for. -/
def mark (demand : Demand) : List Octets :=
  let options := demand.options
  if !(options.found.any fun option => option.1 ∈ ['A', 'B', 'C'] || Name.isDigit option.1) then []
  else match (options.found.reverse.find? fun option => option.1 = 'γ' || option.1 = 'σ') with
    | some ('γ', _) => []
    | some (_, text) => [demand.colored "36" text]
    | none => [demand.colored "36" ['-', '-']]

/-- Whether a file counts as one that holds no text. -/
def isBinary (demand : Demand) (content : Octets) : Bool :=
  !demand.options.has 'z' && content.contains '\x00'

/-- What to do about files that hold no text: nothing special, or not to look for matches. -/
def binaryManner (demand : Demand) : Option String :=
  (demand.options.found.reverse.findSome? fun option =>
    match option with
    | ('a', _) => some "text"
    | ('I', _) => some "without-match"
    | ('β', value) => some (String.ofList value)
    | _ => none)

/-- What is said about one file: what is printed, and whether it holds a match that is not shown. -/
def output (demand : Demand) (operand content : Octets) (lines chosen : List Line) : Octets × Bool :=
  let options := demand.options
  let name := if operand = ['-'] then (options.value? 'λ').getD (.ofText "(standard input)") else operand
  let listed : Octets := demand.colored "35" name ++ [if options.has 'Z' then '\x00' else '\n']
  if options.has 'l' ∨ options.has 'L' then
    (if chosen.isEmpty = options.has 'L' then listed else [], false)
  else if options.has 'c' then
    let mark := if options.has 'Z' then ['\x00'] else demand.colored "36" [':']
    ((if demand.named then demand.colored "35" name ++ mark else []) ++ .ofNat chosen.length ++ ['\n'], false)
  else if demand.isBinary content ∧ demand.binaryManner ≠ some "text" then ([], !chosen.isEmpty)
  else
    let rows := demand.rows name demand.mark (demand.shown lines chosen)
    (rows.flatMap (· ++ [demand.delimiter]), false)

end Demand

/-! ### Files -/

/-- Whether a name fits one of some patterns. -/
def fitsAny (patterns : List Octets) (name : Octets) : Bool :=
  patterns.any fun pattern => Glyph.fits (Glyph.parse (pattern.map (·, false))) name

/-- Whether options leave a file out because of its name. -/
def isExcluded (options : Options) (name : Octets) : Bool :=
  let included := options.values 'ν'
  fitsAny (options.values 'ξ') name || (included ≠ [] && !fitsAny included name)

/-- The files that operands name: with directories replaced by what they hold, if that is asked for. -/
def filesOf (options : Options) (recursive : Bool) (operands : List Octets) (state : State) : List Octets :=
  let base (path : Octets) : Octets := (path.splitOn '/').getLastD []
  if recursive then
    (if operands = [] then [['.']] else operands).flatMap fun operand =>
      if state.isDirectory operand then
        ((state.files.below? (state.pathOf operand)).getD []).filterMap fun (location, entry) =>
          let joint := if operand.getLast? = some '/' then [] else ['/']
          let name := .ofText ("/".intercalate location)
          let isLeft := (location.dropLast.any fun part => fitsAny (options.values 'δ') (.ofText part)) ||
            isExcluded options (base name)
          if entry == .directory ∨ isLeft then none
          else some (if operands = [] then name else operand ++ joint ++ name)
      else if isExcluded options (base operand) then [] else [operand]
  else
    let skipping := options.value? 'd' = some (.ofText "skip")
    (if operands = [] then [['-']] else operands).filter fun operand =>
      !(skipping && state.isDirectory operand) && (operand = ['-'] || !isExcluded options (base operand))

/-- How much is read ahead of a stream. -/
def bufferSize : Nat := 98304

/-- What has been found so far, and whether anything went wrong. -/
structure Progress where
  found : Bool
  failed : Bool
  state : State

/-- Whether a search of a file would find its own output. -/
def feedsItself (demand : Demand) (state : State) (file : Octets) : Bool :=
  !(['q', 'c', 'l', 'L'].any demand.options.has) && demand.most.all (1 < ·) && file ≠ ['-'] && state.isOutput file

/-- Looks at one file. -/
def look (demand : Demand) (progress : Progress) (file : Octets) : Progress :=
  let options := demand.options
  if feedsItself demand progress.state file then
    { progress with
      failed := true, state := plainFaultOf "grep" file "input file is also the output" progress.state }
  else match contentOf file progress.state with
  | .error trouble =>
    let state := progress.state
    { progress with
      failed := true
      state := if options.has 's' then state else if file = ['-'] then unreadable "grep" file trouble state
        else plainFaultOf "grep" file trouble.message state }
  | .ok (content, state) =>
    let hidden := demand.isBinary content && demand.binaryManner = some "without-match"
    let lines := if hidden then [] else demand.lines content
    let chosen := demand.chosen lines
    let isFull := demand.most.any (· ≤ chosen.length)
    let unread := content.drop ((chosen.getLast?.map fun line => line.offset + line.text.length + 1).getD 0)
    let ofFile := (progress.state.pending? 0).toOption.any Stream.ofFile
    let left := if ofFile then unread else content.drop Grep.bufferSize
    let state := if isFull ∧ file = ['-'] then (state.leave 0 left).sate else state
    let found := progress.found || !chosen.isEmpty
    if options.has 'q' then { progress with found, state }
    else
      let (printed, silent) := demand.output file content lines chosen
      let name := if file = ['-'] then (options.value? 'λ').getD (.ofText "(standard input)") else file
      let state := state.print printed
      { progress with
        found
        state := if silent then complain "grep" (name ++ .ofText ": binary file matches") state else state }

def run (options : Options) (search : Search) (operands : List Octets) (state : State) : State :=
  let recursive := options.has 'r' || options.has 'R' || options.value? 'd' = some (.ofText "recurse")
  let files := filesOf options recursive operands state
  let several := operands.length > 1 || (recursive && !operands.all state.isFile)
  let last := (options.found.map Prod.fst).reverse.find? fun letter => letter ∈ ['h', 'H']
  let digits := (options.found.map Prod.fst).filter Name.isDigit
  let extent (letter : Char) : Nat :=
    ((options.number? letter).or ((options.number? 'C').or (Format.natural? digits))).getD 0
  let single := options.has 'q' || options.has 'l' || options.has 'L'
  let demand : Demand := {
    options, search
    most := if single ∧ options.number? 'm' ≠ some 0 then some 1 else options.number? 'm'
    before := extent 'B', after := extent 'A'
    named := last = some 'H' || (several && last.isNone) }
  let progress := files.foldl (look demand) { found := false, failed := false, state }
  progress.state.withStatus
    (if progress.found ∧ (options.has 'q' ∨ !progress.failed) then 0 else if progress.failed then 2 else 1)

/-- What is wrong with the numbers that options give. -/
def badNumber? (options : Options) : Option Octets :=
  options.found.findSome? fun (letter, value) =>
    if letter ∈ ['A', 'B', 'C'] ∧ (Format.natural? value).isNone then
      some (value ++ .ofText ": invalid context length argument")
    else if letter = 'm' ∧ (Format.natural? value).isNone then
      if value.head? = some '-' ∧ (Format.natural? (value.drop 1)).isSome then none
      else some (.ofText "invalid max count")
    else none

/-- How the utility is called. -/
def hint : List Octets :=
  [.ofText "Usage: grep [OPTION]... PATTERNS [FILE]...", .ofText "Try 'grep --help' for more information."]

end Grep

def grep (arguments : List Octets) (state : State) : State :=
  match Grep.usage.read arguments with
  | .error misuse =>
    ((complain "grep" misuse.cause state).report (Octets.ofLines Grep.hint)).withStatus 2
  | .ok options =>
    let state := state.succeed
    let fail (message : Octets) (state : State) : State := (complain "grep" message state).withStatus 2
    let isGiven := options.has 'e' || options.has 'f'
    let (sources, trouble, state) := options.found.foldl (fun (sources, trouble, state) (letter, value) =>
      if letter = 'e' then (sources ++ value.splitOn '\n', trouble, state)
      else if letter = 'f' then
        match contentOf value state with
        | .ok (content, state) => (sources ++ content.lines, trouble, state)
        | .error problem => (sources, trouble.or (some (value ++ .ofText (": " ++ problem.message))), state)
      else (sources, trouble, state)) (([] : List Octets), (none : Option Octets), state)
    let (sources, operands) := if isGiven then (sources, options.operands)
      else ((options.operands.headD []).splitOn '\n', options.operands.drop 1)
    match Grep.badNumber? options, trouble with
    | some message, _ => fail message state
    | none, some message => fail message state
    | none, none =>
      if !isGiven ∧ options.operands = [] then (state.report (Octets.ofLines Grep.hint)).withStatus 2
      else match Grep.searchFor options sources with
        | .error problem => fail (.ofText problem.message) state
        | .ok search =>
          let idle := if options.has 'E' then sources.flatMap (Grep.idleOperators true) else []
          let warning (operator : Char) : Octets := .ofText ("warning: " ++ operator.toString ++ " at start of expression")
          let state := idle.foldl (fun state operator => complain "grep" (warning operator) state) state
          Grep.run options search operands state

end ComponentViews.Shell.Utility
