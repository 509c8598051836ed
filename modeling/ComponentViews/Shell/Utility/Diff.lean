import ComponentViews.Shell.Difference
import ComponentViews.Shell.Utility.Copying
import ComponentViews.Shell.Utility.Naming

/-! Showing how files and directories differ. -/

namespace ComponentViews.Shell.Utility

/-- How changes are shown. -/
inductive DiffForm where
  | plain
  /-- Both sides in one, with lines around changes. -/
  | unified (context : Nat)
  /-- Each side by itself, with lines around changes. -/
  | context (context : Nat)
  /-- Commands for an editor. -/
  | script
  | numbered
  /-- Only whether there are any. -/
  | brief
  deriving DecidableEq, Repr

/-- What counts as the same, and how the rest is shown. -/
structure DiffWishes where
  form : DiffForm
  folded : Bool
  /-- Whether blanks count by their number, and whether at all. -/
  looseBlanks : Bool
  noBlanks : Bool
  endBlanks : Bool
  /-- Whether changes of nothing but blank lines count for nothing. -/
  blankLines : Bool
  asText : Bool
  recursive : Bool
  absentAsEmpty : Bool
  reportsSame : Bool
  labels : List Octets
  /-- The options as they are told for each of several files. -/
  command : Octets

namespace DiffWishes

/-- A run of blanks as one of them, and none at the end. -/
def looseLine (line : Octets) : Octets :=
  let pieces := line.splitBy fun a b => Name.isBlank a = Name.isBlank b
  (pieces.map fun piece => if piece.head?.any Name.isBlank then [' '] else piece).flatten

/-- A line as it is compared. -/
def key (wishes : DiffWishes) (line : Octets) : Octets :=
  let isSpace (c : Char) : Bool := Name.isBlank c || c = '\x0d' || c = '\n'
  let text := if wishes.noBlanks then line.filter fun c => !isSpace c
    else if wishes.looseBlanks then (looseLine (line.dropEndWhile isSpace))
    else if wishes.endBlanks then line.dropEndWhile isSpace
    else line
  if wishes.folded then text.map Char.toLower else text

end DiffWishes

/-- Both sides as lines, each with what ends it. -/
structure DiffSides where
  left : Array Octets
  right : Array Octets

/-- A line behind a mark; one that nothing ends is told about. -/
def markedLine (mark line : Octets) : Octets :=
  if line.getLast? = some '\n' then mark ++ line
  else mark ++ line ++ .ofText "\n\\ No newline at end of file\n"

def slice (lines : Array Octets) (first count : Nat) : List Octets := (lines.extract first (first + count)).toList

/-- Numbers of lines, two where there are several. -/
def lineRange (first count : Nat) : Octets :=
  if count > 1 then .ofNat (first + 1) ++ ',' :: Octets.ofNat (first + count)
  else if count = 0 then .ofNat first
  else .ofNat (first + 1)

def plainChange (sides : DiffSides) (change : Difference.Change) : Octets :=
  let letter := if change.leftCount = 0 then 'a' else if change.rightCount = 0 then 'd' else 'c'
  let head := lineRange change.left change.leftCount ++ letter :: lineRange change.right change.rightCount ++ ['\n']
  let old := (slice sides.left change.left change.leftCount).flatMap (markedLine ['<', ' '])
  let new := (slice sides.right change.right change.rightCount).flatMap (markedLine ['>', ' '])
  head ++ old ++ (if letter = 'c' then Octets.ofText "---\n" else []) ++ new

/-- Changes that stand so close to each other that they are shown together. -/
def gathered (context : Nat) : List Difference.Change → List (List Difference.Change)
  | [] => []
  | change :: rest =>
    match gathered context rest with
    | (next :: others) :: groups =>
      if next.left - (change.left + change.leftCount) ≤ 2 * context then (change :: next :: others) :: groups
      else [change] :: (next :: others) :: groups
    | groups => [change] :: groups

/-- The lines that a group of changes shows: first and count on either side. -/
def extentOf (context : Nat) (sides : DiffSides) (group : List Difference.Change) : (Nat × Nat) × (Nat × Nat) :=
  match group.head?, group.getLast? with
  | some first, some last =>
    let before := min context (min first.left first.right)
    let leftEnd := min sides.left.size (last.left + last.leftCount + context)
    let rightEnd := min sides.right.size (last.right + last.rightCount + context)
    ((first.left - before, leftEnd - (first.left - before)), (first.right - before, rightEnd - (first.right - before)))
  | _, _ => ((0, 0), (0, 0))

def unifiedRange (extent : Nat × Nat) : Octets :=
  match extent with
  | (first, 0) => .ofNat first ++ .ofText ",0"
  | (first, 1) => .ofNat (first + 1)
  | (first, count) => .ofNat (first + 1) ++ ',' :: Octets.ofNat count

def unifiedGroup (context : Nat) (sides : DiffSides) (group : List Difference.Change) : Octets :=
  let (left, right) := extentOf context sides group
  let heading := .ofText "@@ -" ++ unifiedRange left ++ .ofText " +" ++ unifiedRange right ++ .ofText " @@\n"
  let (body, shown) := group.foldl (fun (body, shown) change =>
    let same := slice sides.left shown (change.left - shown)
    let old := slice sides.left change.left change.leftCount
    let new := slice sides.right change.right change.rightCount
    (body ++ same.flatMap (markedLine [' ']) ++ old.flatMap (markedLine ['-']) ++ new.flatMap (markedLine ['+']),
      change.left + change.leftCount)) (([], left.1) : Octets × Nat)
  heading ++ body ++ (slice sides.left shown (left.1 + left.2 - shown)).flatMap (markedLine [' '])

def contextRange (extent : Nat × Nat) : Octets :=
  match extent with
  | (first, 0) => .ofNat first
  | (first, 1) => .ofNat (first + 1)
  | (first, count) => .ofNat (first + 1) ++ ',' :: Octets.ofNat (first + count)

def contextGroup (context : Nat) (sides : DiffSides) (group : List Difference.Change) : Octets :=
  let (left, right) := extentOf context sides group
  let side (lines : Array Octets) (extent : Nat × Nat) (own other : Difference.Change → Nat × Nat) (mark : Char) : Octets :=
    if group.all fun change => (own change).2 = 0 then []
    else
      let (body, shown) := group.foldl (fun (body, shown) change =>
        let (first, count) := own change
        let sign := if (other change).2 = 0 then mark else '!'
        (body ++ (slice lines shown (first - shown)).flatMap (markedLine [' ', ' ']) ++
          (slice lines first count).flatMap (markedLine [sign, ' ']), first + count)) (([], extent.1) : Octets × Nat)
      body ++ (slice lines shown (extent.1 + extent.2 - shown)).flatMap (markedLine [' ', ' '])
  let ofLeft (change : Difference.Change) : Nat × Nat := (change.left, change.leftCount)
  let ofRight (change : Difference.Change) : Nat × Nat := (change.right, change.rightCount)
  .ofText "***************\n*** " ++ contextRange left ++ .ofText " ****\n" ++
    side sides.left left ofLeft ofRight '-' ++
    .ofText "--- " ++ contextRange right ++ .ofText " ----\n" ++ side sides.right right ofRight ofLeft '+'

/-- Changes as commands of an editor, from the last to the first. -/
def scriptChange (sides : DiffSides) (change : Difference.Change) : Octets :=
  let new := slice sides.right change.right change.rightCount
  let range := lineRange change.left change.leftCount
  if change.rightCount = 0 then range ++ ['d', '\n']
  else range ++ [if change.leftCount = 0 then 'a' else 'c', '\n'] ++ new.flatten ++ ['.', '\n']

def numberedChange (sides : DiffSides) (change : Difference.Change) : Octets :=
  let deletion := if change.leftCount = 0 then []
    else 'd' :: Octets.ofNat (change.left + 1) ++ ' ' :: Octets.ofNat change.leftCount ++ ['\n']
  let addition := if change.rightCount = 0 then []
    else 'a' :: Octets.ofNat (change.left + change.leftCount) ++ ' ' :: Octets.ofNat change.rightCount ++ ['\n']
  deletion ++ addition ++ (slice sides.right change.right change.rightCount).flatten

/-- When a file was changed, as headings show it. -/
def stampText : Octets := .ofText "2026-01-01 00:00:00.000000000 +0000"

/-- The lines in front of all changes. -/
def sideHeadings (wishes : DiffWishes) (first second : Octets) (names : Octets × Octets) : Octets :=
  let name (index : Nat) (name : Octets) : Octets := (wishes.labels[index]?).getD (name ++ '\t' :: stampText)
  first ++ ' ' :: name 0 names.1 ++ '\n' :: second ++ ' ' :: name 1 names.2 ++ ['\n']

/-- What there is to show about two contents, if they differ. -/
def differenceOf (wishes : DiffWishes) (names : Octets × Octets) (left right : Octets) : Option Octets :=
  let isBinary (content : Octets) : Bool := !wishes.asText && content.contains '\x00'
  if left = right then none
  else if wishes.form = .brief ∨ isBinary left ∨ isBinary right then
    let kind := if wishes.form = .brief then "Files " else "Binary files "
    let sides : DiffSides := { left := (wholeLines left).toArray, right := (wholeLines right).toArray }
    let same := !isBinary left && !isBinary right && sides.left.map wishes.key = sides.right.map wishes.key
    if same then none
    else some (.ofText kind ++ names.1 ++ .ofText " and " ++ names.2 ++ .ofText " differ\n")
  else
    let sides : DiffSides := { left := (wholeLines left).toArray, right := (wholeLines right).toArray }
    let found := Difference.changes { left := sides.left.map wishes.key, right := sides.right.map wishes.key }
    let isBlankLine (line : Octets) : Bool := line.all fun c => c = '\n'
    let counts (change : Difference.Change) : Bool := !wishes.blankLines ||
      !((slice sides.left change.left change.leftCount).all isBlankLine &&
        (slice sides.right change.right change.rightCount).all isBlankLine)
    let found := if found.any counts then (if wishes.form = .plain then found.filter counts else found) else []
    if found.isEmpty then none
    else some (match wishes.form with
      | .unified context => sideHeadings wishes (.ofText "---") (.ofText "+++") names ++
        (gathered context found).flatMap (unifiedGroup context sides)
      | .context context => sideHeadings wishes (.ofText "***") (.ofText "---") names ++
        (gathered context found).flatMap (contextGroup context sides)
      | .script => found.reverse.flatMap (scriptChange sides)
      | .numbered => found.flatMap (numberedChange sides)
      | _ => found.flatMap (plainChange sides))

/-- Compares two files, of which one may be missing. -/
def diffFiles (wishes : DiffWishes) (nested : Bool) (left right : Octets) (state : State) : State :=
  let absent (path : Octets) : Bool := wishes.absentAsEmpty && path ≠ ['-'] && (state.kind? path).isNone
  let read (path : Octets) (state : State) : Except Trouble (Octets × State) :=
    if absent path then .ok ([], state) else contentOf path state
  let failed (path : Octets) (trouble : Trouble) (state : State) : State :=
    (plainFaultOf "diff" path trouble.message state).withStatus 2
  match read left state with
  | .error trouble =>
    let told := failed left trouble state
    match read right told with
    | .error trouble => failed right trouble told
    | .ok _ => told
  | .ok (first, state) =>
    match if left = right then .ok (first, state) else read right state with
    | .error trouble => failed right trouble state
    | .ok (second, state) =>
      match differenceOf wishes (left, right) first second with
      | none =>
        if wishes.reportsSame then
          state.print (.ofText "Files " ++ left ++ .ofText " and " ++ right ++ .ofText " are identical\n")
        else state
      | some text =>
        let isTold := nested && !(Octets.ofText "Files ").isPrefixOf text && !(Octets.ofText "Binary ").isPrefixOf text
        let command := if isTold then wishes.command ++ ' ' :: left ++ ' ' :: right ++ ['\n'] else []
        (state.print (command ++ text)).withStatus (max 1 state.status)

/-- Compares two directories, name by name. -/
def diffDirectories (wishes : DiffWishes) : Nat → Octets → Octets → State → State
  | 0, _, _, state => state
  | fuel + 1, left, right, state =>
    let (first, second) := (state.namesIn left, state.namesIn right)
    let names := ((first ++ second.filter fun name => !first.contains name).map Octets.ofText).mergeSort Octets.atMost
    let child (directory name : Octets) : Octets :=
      if directory.getLast? = some '/' then directory ++ name else directory ++ '/' :: name
    names.foldl (fun state name =>
      let (a, b) := (child left name, child right name)
      let only (directory : Octets) : State :=
        (state.print (.ofText "Only in " ++ directory ++ .ofText ": " ++ name ++ ['\n'])).withStatus (max 1 state.status)
      match state.kind? a, state.kind? b with
      | none, none => state
      | some .directory, some .directory =>
        if wishes.recursive then diffDirectories wishes fuel a b state
        else state.print (.ofText "Common subdirectories: " ++ a ++ .ofText " and " ++ b ++ ['\n'])
      | some .directory, none =>
        if wishes.absentAsEmpty ∧ wishes.recursive then diffDirectories wishes fuel a b state else only left
      | none, some .directory =>
        if wishes.absentAsEmpty ∧ wishes.recursive then diffDirectories wishes fuel a b state else only right
      | some _, none => if wishes.absentAsEmpty then diffFiles wishes true a b state else only left
      | none, some _ => if wishes.absentAsEmpty then diffFiles wishes true a b state else only right
      | some .directory, some _ => mixed a b "a directory" "a regular file" state
      | some _, some .directory => mixed a b "a regular file" "a directory" state
      | some _, some _ => diffFiles wishes true a b state) state
where
  mixed (left right : Octets) (first second : String) (state : State) : State :=
    let file (path : Octets) (kind : String) : Octets := path ++ .ofText (" is " ++ kind)
    (state.print (.ofText "File " ++ file left first ++ .ofText " while file " ++ file right second ++
      ['\n'])).withStatus (max 1 state.status)

def diffUsage : Usage where
  alone := ['a', 'b', 'B', 'c', 'd', 'e', 'E', 'i', 'n', 'N', 'p', 'q', 'r', 's', 't', 'T', 'u', 'w', 'Z', 'l', 'ζ', 'η']
  valued := ['C', 'U', 'L', 'x', 'I', 'W', 'F', 'S', 'X']
  words := [
    ("text", 'a'), ("ignore-space-change", 'b'), ("ignore-blank-lines", 'B'), ("ed", 'e'),
    ("ignore-tab-expansion", 'E'), ("ignore-case", 'i'), ("rcs", 'n'), ("new-file", 'N'), ("brief", 'q'),
    ("recursive", 'r'), ("report-identical-files", 's'), ("expand-tabs", 't'), ("initial-tab", 'T'),
    ("ignore-all-space", 'w'), ("ignore-trailing-space", 'Z'), ("minimal", 'd'), ("label", 'L'), ("exclude", 'x'),
    ("normal", 'ζ'), ("color", 'η'), ("unified", 'u'), ("context", 'c'), ("speed-large-files", 'd')]
  anywhere := true
  optional := ['u', 'c', 'η']

def contextSize : Nat := 3

/-- Tells how two files or directories differ. -/
def diff (arguments : List Octets) (state : State) : State :=
  match diffUsage.read arguments with
  | .error misuse =>
    helped "diff" misuse.cause state
  | .ok options =>
    let size (letter : Char) : Nat := ((options.value? letter).bind Format.natural?).getD contextSize
    let form : DiffForm :=
      if options.has 'q' then .brief
      else if options.has 'U' then .unified (size 'U')
      else if options.has 'u' then .unified (size 'u')
      else if options.has 'C' then .context (size 'C')
      else if options.has 'c' || options.has 'p' then .context (size 'c')
      else if options.has 'e' then .script
      else if options.has 'n' then .numbered
      else .plain
    let dashed := arguments.filter fun argument => argument.head? = some '-' && argument.length > 1
    let wishes : DiffWishes := {
      form, folded := options.has 'i', looseBlanks := options.has 'b', noBlanks := options.has 'w'
      endBlanks := options.has 'Z', blankLines := options.has 'B', asText := options.has 'a'
      recursive := options.has 'r', absentAsEmpty := options.has 'N', reportsSame := options.has 's'
      labels := options.values 'L', command := [' '].intercalate (Octets.ofText "diff" :: dashed) }
    let misuse (message : Octets) : State := helped "diff" message state
    match options.operands with
    | [] => misuse (.ofText "missing operand after " ++ quoted (arguments.getLastD (ownName "diff" state)))
    | [first] => misuse (.ofText "missing operand after " ++ quoted first)
    | _ :: _ :: extra :: _ => misuse (.ofText "extra operand " ++ quoted extra)
    | [left, right] =>
      let state := state.succeed
      let inside (directory path : Octets) : Octets :=
        (if directory.getLast? = some '/' then directory else directory ++ ['/']) ++ lastName [] path
      match state.isDirectory left, state.isDirectory right with
      | true, true => diffDirectories wishes (arguments.length + 64) left right state
      | true, false => diffFiles wishes false (inside left right) right state
      | false, true => diffFiles wishes false left (inside right left) state
      | false, false => diffFiles wishes false left right state

end ComponentViews.Shell.Utility
