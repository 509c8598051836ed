import ComponentViews.Shell.Glob
import ComponentViews.Shell.Utility.Sorting
import ComponentViews.Shell.Utility.Tree

/-! Utilities that tell what directories hold, and what is known about files. -/

namespace ComponentViews.Shell.Utility

/-! ### What is known about a path -/

/-- A path with what it names. -/
structure Item where
  name : Octets
  path : Octets
  location : Location
  standing : Standing

namespace Item

def isDirectory (item : Item) : Bool := item.standing = .directory

def mode (item : Item) (state : State) : Nat :=
  match item.standing with
  | .link _ => 0o777
  | .device => 0o666
  | _ => state.modeAt item.location

def size (item : Item) : Nat := State.sizeOf item.standing

def kindLetter (item : Item) : Char :=
  match item.standing with
  | .link _ => 'l'
  | .queue => 'p'
  | .device => 'c'
  | .file _ _ => '-'
  | .directory => 'd'

/-- How many names the file has. -/
def names (item : Item) (state : State) : Nat :=
  match item.standing with
  | .directory =>
    2 + ((state.namesIn item.path).filter fun name => state.isDirectory (joined item.path (.ofText name))).length
  | _ => 1 + (state.namesOf item.location).length

/-- How many blocks of 512 octets the file takes. -/
def blocks (item : Item) : Nat :=
  match item.standing with
  | .file content _ => (content.bytes.length + 4095) / 4096 * 8
  | .directory => 8
  | _ => 0

/-- A number that tells files apart. -/
def number (item : Item) : Nat := 1000000 + Sorting.scatter (pathTo item.location) % 1000000

/-- The mark behind a name that tells what it is. -/
def mark (item : Item) : Octets :=
  match item.standing with
  | .link _ => ['@']
  | .queue => ['|']
  | .directory => ['/']
  | .file _ true => ['*']
  | _ => []

end Item

/-! ### Names in quotes -/

/-- Characters that a shell does not leave as they are. -/
def isSpecial (c : Char) : Bool := "!\"#$&'()*;<=>?[\\]^\x60\x7b|\x7d~ \t\n".toList.contains c

/-- A name with quotes around it where a shell needs them. -/
def shellQuoted (always : Bool) (name : Octets) : Octets :=
  if name = [] then ['\'', '\'']
  else if !always ∧ !(name.any fun c => isSpecial c && c ∉ ['#', '~', '=', '^', '[', ']', '\x7b', '\x7d', '!']) ∧
      !(name.head?.any fun c => c ∈ ['#', '~']) then name
  else if name.contains '\'' ∧ !(name.any fun c => c ∈ ['"', '$', '\x60', '\\', '!']) then '"' :: name ++ ['"']
  else '\'' :: name.flatMap (fun c => if c = '\'' then ['\'', '\\', '\'', '\''] else [c]) ++ ['\'']

/-- A name with backslashes in front of what would not show. -/
def guardedName (quote blank : Bool) (name : Octets) : Octets :=
  name.flatMap fun c =>
    match c with
    | '\n' => ['\\', 'n']
    | '\t' => ['\\', 't']
    | '\\' => ['\\', '\\']
    | ' ' => if blank then ['\\', ' '] else [' ']
    | '"' => if quote then ['\\', '"'] else ['"']
    | c => if c < ' ' ∨ '~' < c then '\\' :: Mode.digits 3 c.toNat else [c]

/-! ### Listings -/

def listUsage : Usage where
  alone := [
    '1', 'a', 'A', 'B', 'b', 'C', 'c', 'd', 'F', 'f', 'g', 'G', 'h', 'H', 'i', 'k', 'l', 'L', 'm', 'n', 'N', 'o', 'p',
    'q', 'Q', 'r', 'R', 's', 'S', 't', 'u', 'U', 'v', 'x', 'X', 'Z', 'δ', 'κ', 'φ', 'ζ', 'ι']
  valued := ['I', 'w', 'T', 'η', 'σ', 'τ', 'θ', 'λ', 'ρ', 'β']
  words := [("all", 'a'), ("almost-all", 'A'), ("ignore-backups", 'B'), ("escape", 'b'), ("directory", 'd'),
    ("classify", 'F'), ("file-type", 'ι'), ("no-group", 'G'), ("human-readable", 'h'), ("si", 'h'), ("inode", 'i'),
    ("kibibytes", 'k'), ("dereference", 'L'), ("numeric-uid-gid", 'n'), ("literal", 'N'), ("quote-name", 'Q'),
    ("hide-control-chars", 'q'), ("show-control-chars", 'ζ'), ("reverse", 'r'), ("recursive", 'R'), ("size", 's'),
    ("color", 'κ'), ("full-time", 'φ'), ("group-directories-first", 'δ'), ("ignore", 'I'), ("hide", 'η'),
    ("width", 'w'), ("tabsize", 'T'), ("sort", 'σ'), ("time-style", 'τ'), ("time", 'θ'), ("format", 'λ'),
    ("quoting-style", 'ρ'), ("block-size", 'β'), ("zero", 'ο'), ("author", 'ζ'), ("dired", 'ζ'),
    ("indicator-style", 'β')]
  anywhere := true
  optional := ['κ', 'F']

namespace Listing

/-- In what order and shape names are listed. -/
structure Manner where
  options : Options
  /-- The letter of the order. -/
  order : Char
  /-- The letter of the shape. -/
  shape : Char
  quoting : String
  delimiter : Char

def sortWords : List (String × Char) :=
  [("none", 'U'), ("time", 't'), ("size", 'S'), ("extension", 'X'), ("version", 'v'), ("width", 'w'), ("name", 'a')]

def formatWords : List (String × Char) :=
  [("verbose", 'l'), ("long", 'l'), ("commas", 'm'), ("horizontal", 'x'), ("across", 'x'), ("vertical", 'C'),
    ("single-column", '1')]

/-- The value that a start of its name stands for. -/
def named? (choices : List (String × Char)) (value : Octets) : Option Char :=
  (choices.find? fun choice => value.isPrefixOf choice.1.toList).map Prod.snd

def mannerOf (options : Options) : Manner :=
  let order := options.found.reverse.findSome? fun (letter, value) =>
    if letter = 'σ' then named? sortWords value
    else if letter ∈ ['S', 't', 'U', 'f', 'v', 'X'] then some (if letter = 'f' then 'U' else letter)
    else none
  let shape := options.found.reverse.findSome? fun (letter, value) =>
    if letter = 'λ' then named? formatWords value
    else if letter ∈ ['l', 'g', 'n', 'o', 'φ'] then some 'l'
    else if letter ∈ ['1', 'm', 'x', 'C'] then some letter
    else none
  let quoting := options.found.reverse.findSome? fun (letter, value) =>
    match letter with
    | 'ρ' => some (String.ofList value)
    | 'Q' => some "c"
    | 'b' => some "escape"
    | 'N' => some "literal"
    | _ => none
  { options, order := order.getD 'a', shape := shape.getD '1', quoting := quoting.getD "literal"
    delimiter := if options.has 'ο' then '\x00' else '\n' }

namespace Manner

def shownName (manner : Manner) (name : Octets) : Octets :=
  match manner.quoting with
  | "c" => '"' :: guardedName true false name ++ ['"']
  | "escape" => guardedName false true name
  | "shell" => shellQuoted false name
  | "shell-escape" => if needsQuotes false name then named name else name
  | "shell-always" => shellQuoted true name
  | "shell-escape-always" => named name
  | _ => name

/-- A number of octets in the unit that suits it. -/
def sized (size : Nat) : Octets :=
  let units : Octets := ['K', 'M', 'G', 'T', 'P']
  if size < 1024 then .ofNat size
  else
    let step := ((List.range 5).find? fun step => size ≤ 1023 * Nat.pow 1024 (step + 1)).getD 4
    let unit := Nat.pow 1024 (step + 1)
    let tenths := (size * 10 + unit - 1) / unit
    (if tenths < 100 then Octets.ofNat (tenths / 10) ++ '.' :: Octets.ofNat (tenths % 10)
      else Octets.ofNat ((size + unit - 1) / unit)) ++ [units.getD step 'K']

def marked (manner : Manner) (item : Item) : Octets :=
  let options := manner.options
  if options.has 'F' then item.mark
  else if options.has 'ι' then if item.mark = ['*'] then [] else item.mark
  else if options.has 'p' ∧ item.isDirectory then ['/']
  else []

/-- The items of a directory that are shown, in order. -/
def sorted (manner : Manner) (state : State) (items : List Item) : List Item :=
  let options := manner.options
  let byName (a b : Item) : Ordering := orderBy Octets.atMost a.name b.name
  let ending (item : Item) : Octets :=
    let behind := item.name.reverse.takeWhile (· ≠ '.')
    if behind.length = item.name.length then [] else behind.reverse
  let ordered (a b : Item) : Ordering :=
    match manner.order with
    | 'S' => (compare b.size a.size).then (byName a b)
    | 't' => (compare (state.changedAt b.location) (state.changedAt a.location)).then (byName a b)
    | 'X' => (orderBy Octets.atMost (ending a) (ending b)).then (byName a b)
    | 'v' => (Version.compareNames a.name b.name).then (byName a b)
    | 'w' => (compare a.name.length b.name.length).then (byName a b)
    | _ => byName a b
  let sorted := items.mergeSort fun a b => turnedIf (options.has 'r') (ordered a b) != .gt
  if options.has 'δ' then sorted.filter Item.isDirectory ++ sorted.filter fun item => !item.isDirectory else sorted

/-- A text with blanks in front up to a width. -/
def padded (width : Nat) (text : Octets) : Octets := List.replicate (width - text.length) ' ' ++ text

/-- The time of a file in a long listing. -/
def timeText (manner : Manner) (state : State) (item : Item) : Octets :=
  let moment := Moment.ofClock (state.changedAt item.location)
  let now := Moment.ofClock state.world.clock
  let style := (manner.options.value? 'τ').getD []
  let format : Octets := match style with
    | '+' :: format => format
    | style =>
      if manner.options.has 'φ' ∨ style = .ofText "full-iso" then .ofText "%Y-%m-%d %H:%M:%S.%N %z"
      else if style = .ofText "long-iso" then .ofText "%Y-%m-%d %H:%M"
      else if moment.seconds ≤ now.seconds ∧ now.seconds - moment.seconds < 15778476 then .ofText "%b %e %H:%M"
      else .ofText "%b %e  %Y"
  moment.print .universal format

/-- The columns of a long listing. -/
def columns (manner : Manner) (state : State) (item : Item) : List Octets :=
  let options := manner.options
  let owner := if options.has 'n' then ['0'] else Octets.ofText "root"
  let size := if options.has 'h' then sized item.size else Octets.ofNat item.size
  [item.kindLetter :: Mode.image (item.mode state), Octets.ofNat (item.names state)] ++
    (if options.has 'g' then [] else [owner]) ++ (if options.has 'o' || options.has 'G' then [] else [owner]) ++ [size]

/-- What stands in front of all names. -/
def leading (manner : Manner) (item : Item) : List Octets :=
  (if manner.options.has 'i' then [Octets.ofNat item.number] else []) ++
    (if manner.options.has 's' then
      [if manner.options.has 'h' then sized (item.blocks * 512) else Octets.ofNat (item.blocks / 2)] else [])

/-- Rows in which each column but the last is as wide as needed. Words stand to the left, and
numbers to the right. -/
def aligned (rows : List (List Octets)) : List (List Octets) :=
  let count := (rows.map List.length).foldl max 0
  let widths := (List.range count).map fun index => (rows.map fun row => ((row[index]?).getD []).length).foldl max 0
  rows.map fun row => (row.zip widths).map fun (text, width) =>
    if text.all Name.isDigit ∨ (text.getLast?.any fun c => c ∈ ['K', 'M', 'G', 'T', 'P'] && text.head?.any Name.isDigit) then
      padded width text
    else text ++ List.replicate (width - text.length) ' '

/-- The listing of some items. -/
def render (manner : Manner) (state : State) (items : List Item) : Octets :=
  let name (item : Item) : Octets :=
    let arrow := match item.standing with
      | .link target => if manner.shape = 'l' then Octets.ofText " -> " ++ manner.shownName target else []
      | _ => []
    manner.shownName item.name ++ arrow ++ (if arrow = [] then manner.marked item else [])
  match manner.shape with
  | 'l' =>
    let heads := aligned (items.map fun item => manner.leading item ++ manner.columns state item)
    let rows := (items.zip heads).map fun (item, head) =>
      [' '].intercalate (head ++ [manner.timeText state item, name item])
    rows.flatMap (· ++ [manner.delimiter])
  | 'm' =>
    if items.isEmpty then [] else [',', ' '].intercalate (items.map name) ++ ['\n']
  | 'x' => spread (items.map name)
  | 'C' => spread (items.map name)
  | _ =>
    let heads := aligned (items.map manner.leading)
    let rows := (items.zip heads).map fun (item, head) => [' '].intercalate (head ++ [name item])
    rows.flatMap (· ++ [manner.delimiter])
where
  /-- Names in as many columns as there is room for. -/
  spread (names : List Octets) : Octets :=
    let width := (manner.options.number? 'w').getD 80
    let count := names.length
    let down := manner.shape = 'C'
    let layout (columns : Nat) : Nat × List Nat :=
      let rows := (count + columns - 1) / columns
      let column (index : Nat) : Nat := if down then index / rows else index % columns
      (rows, (List.range columns).map fun which =>
        ((names.zipIdx.filter fun (_, index) => column index = which).map fun entry => entry.1.length).foldl max 0)
    let fits (columns : Nat) : Bool :=
      let (rows, widths) := layout columns
      (columns = 1 || (count + rows - 1) / rows = columns || !down) &&
        (widths.dropLast.foldl (fun total width => total + width + 2) 0) + widths.getLast?.getD 0 < width
    let columns := (((List.range count).map (count - ·)).find? fits).getD 1
    let (rows, widths) := layout columns
    let cell (row column : Nat) : Option Octets :=
      names[if down then column * rows + row else row * columns + column]?
    (List.range rows).flatMap fun row =>
      let present := (List.range columns).filterMap fun column => (cell row column).map fun text => (column, text)
      let last := present.length - 1
      present.flatMap (fun (column, text) =>
        if column = last then text else text ++ List.replicate ((widths[column]?).getD 0 + 2 - text.length) ' ') ++ ['\n']

end Manner

/-- The names in a directory that options do not hide. -/
def visible (options : Options) (names : List Octets) : List Octets :=
  let fits (pattern name : Octets) : Bool := Glyph.fits (Glyph.parse (pattern.map (·, false))) name
  let all := options.has 'a' || options.has 'f'
  names.filter fun name =>
    (all || options.has 'A' || (name.head? ≠ some '.' && !(options.values 'η').any (fits · name))) &&
      !(options.has 'B' && name.getLast? = some '~') && !(options.values 'I').any (fits · name)

/-- What a directory holds. -/
def itemsIn (options : Options) (directory : Octets) (state : State) : List Item :=
  let names := visible options ((state.namesIn directory).map Octets.ofText)
  let dots := if options.has 'a' ∨ options.has 'f' then [['.'], ['.', '.']] else []
  (dots ++ names).filterMap fun name =>
    let path := joined directory name
    (((if options.has 'L' then state.reached path else state.standing path).toOption).or
      (state.standing path).toOption).map fun (location, standing) => { name, path, location, standing }

/-- The directories below one, each in front of those that it holds. -/
def within (manner : Manner) (state : State) : Nat → Octets → List Octets
  | 0, directory => [directory]
  | fuel + 1, directory =>
    let items := manner.sorted state (itemsIn manner.options directory state)
    directory :: (items.filter fun item => item.isDirectory && item.name ≠ ['.'] && item.name ≠ ['.', '.']).flatMap
      fun item => within manner state fuel item.path

end Listing

open Listing in
/-- Lists directories, and the operands that are none in front of them. -/
def list (arguments : List Octets) (state : State) : State :=
  let usage := { listUsage with alone := 'ο' :: listUsage.alone }
  withOptions "ls" usage 2 arguments state fun options state =>
    match (options.values 'σ').find? fun value => (named? sortWords value).isNone with
    | some value =>
      (invalidArgument "ls" "--sort" value ((sortWords.dropLast).map fun way => [way.1]) state).withStatus 2
    | none =>
      let manner := mannerOf options
      let long := manner.shape = 'l'
      let operands := if options.operands = [] then [['.']] else options.operands
      let look (operand : Octets) : Except Trouble (Location × Standing) :=
        let plain := state.standing operand
        let keeps := !options.has 'L' && (long || options.has 'd' || options.has 'F') && !options.has 'H'
        if keeps then plain
        else match state.reached operand with
          | .ok found => .ok found
          | .error _ => plain
      let state := operands.foldl (fun state operand =>
        match look operand with
        | .ok _ => state
        | .error trouble => (refuse "ls" "cannot access" operand trouble state).withStatus 2) state
      let items := operands.filterMap fun operand =>
        (look operand).toOption.map fun (location, standing) =>
          ({ name := operand, path := operand, location, standing } : Item)
      let (directories, plain) := (manner.sorted state items).partition fun item => item.isDirectory && !options.has 'd'
      let directories := directories.flatMap fun item =>
        if options.has 'R' then within manner state greatestDepth item.path else [item.path]
      let titled := options.operands.length > 1 || options.has 'R'
      let sections := directories.map fun directory =>
        let items := manner.sorted state (itemsIn options directory state)
        let blocks := (items.map Item.blocks).foldl Nat.add 0
        let total : Octets := if long ∨ options.has 's' then
            .ofText "total " ++ (if options.has 'h' then Manner.sized (blocks * 512) else .ofNat (blocks / 2)) ++ ['\n']
          else []
        (if titled then manner.shownName directory ++ [':', '\n'] else []) ++ total ++ manner.render state items
      let parts := (if plain.isEmpty then [] else [manner.render state plain]) ++ sections
      state.print (['\n'].intercalate parts)

/-! ### What is known about files -/

def statUsage : Usage where
  alone := ['L', 'f', 't']
  valued := ['c', 'π']
  words := [("dereference", 'L'), ("file-system", 'f'), ("format", 'c'), ("printf", 'π'), ("terse", 't')]
  anywhere := true

namespace Item

/-- What a directive prints about an item. -/
def told? (item : Item) (state : State) (directive : Char) : Option Octets :=
  let moment := Moment.ofClock (state.changedAt item.location)
  let time := moment.print .universal (.ofText "%Y-%m-%d %H:%M:%S.%N %z")
  let mode := item.mode state
  match directive with
  | 'a' => some (Mode.digits 1 mode)
  | 'A' => some (item.kindLetter :: Mode.image mode)
  | 'b' => some (.ofNat item.blocks)
  | 'B' => some (.ofText "512")
  | 'C' => some ['?']
  | 'd' => some (.ofText "64768")
  | 'D' => some (.ofText "fd00")
  | 'f' =>
    let kinds : List (Char × Nat) := [('l', 0o120000), ('p', 0o010000), ('c', 0o020000), ('d', 0o040000)]
    some (Nat.toDigits 16 ((kinds.lookup item.kindLetter).getD 0o100000 + mode))
  | 'F' => some (.ofText (callOf item.standing))
  | 'g' => some ['0']
  | 'G' => some (.ofText "root")
  | 'h' => some (.ofNat (item.names state))
  | 'i' => some (.ofNat item.number)
  | 'm' => some ['/']
  | 'n' => some item.path
  | 'N' => some (match item.standing with
    | .link target => named item.path ++ .ofText " -> " ++ named target
    | _ => named item.path)
  | 'o' => some (.ofText "4096")
  | 's' => some (.ofNat item.size)
  | 't' => some ['0']
  | 'T' => some ['0']
  | 'u' => some ['0']
  | 'U' => some (.ofText "root")
  | 'w' => some time
  | 'W' => some (moment.print .universal ['%', 's'])
  | 'x' => some time
  | 'X' => some (moment.print .universal ['%', 's'])
  | 'y' => some time
  | 'Y' => some (moment.print .universal ['%', 's'])
  | 'z' => some time
  | 'Z' => some (moment.print .universal ['%', 's'])
  | '%' => some ['%']
  | _ => none

/-- Whether a directive stands for a number. -/
def isCounting (directive : Char) : Bool :=
  directive ∈ ['a', 'b', 'B', 'd', 'f', 'g', 'h', 'i', 'o', 's', 't', 'T', 'u', 'W', 'X', 'Y', 'Z']

/-- What a format says about an item. -/
def formatted (item : Item) (state : State) (escapes : Bool) : Nat → Octets → Octets
  | 0, _ => []
  | _ + 1, [] => []
  | fuel + 1, '%' :: rest =>
    let flags := rest.takeWhile fun c => c ∈ ['-', '0', '+', ' ', '#', '\'']
    let digits := (rest.drop flags.length).takeWhile Name.isDigit
    match rest.drop (flags.length + digits.length) with
    | [] => ['%']
    | directive :: rest =>
      let value := match directive, item.told? state directive with
        | 'a', some value => if flags.contains '#' then '0' :: value else value
        | _, value => value.getD ['?']
      let fill := Numeral.digitsValue digits - value.length
      let padded :=
        if flags.contains '-' then value ++ List.replicate fill ' '
        else List.replicate fill (if flags.contains '0' ∧ isCounting directive then '0' else ' ') ++ value
      padded ++ item.formatted state escapes fuel rest
  | fuel + 1, '\\' :: rest =>
    if escapes then
      let (text, rest) := Format.readEscape rest
      text ++ item.formatted state escapes fuel rest
    else '\\' :: item.formatted state escapes fuel rest
  | fuel + 1, c :: rest => c :: item.formatted state escapes fuel rest

/-- All that is known about an item. -/
def report (item : Item) (state : State) : Octets :=
  let text (format : String) : Octets := item.formatted state true (format.length + 1) (.ofText format)
  let kind := callOf item.standing
  let name := match item.standing with
    | .link target => item.path ++ .ofText " -> " ++ target
    | _ => item.path
  .ofText "  File: " ++ name ++ ['\n'] ++
    text ("  Size: %-10s\tBlocks: %-10b IO Block: %-6o " ++ kind ++ "\n") ++
    text "Device: 253,0\tInode: %-10i  Links: %h\n" ++
    text "Access: (%04a/%A)  Uid: (%5u/%8U)   Gid: (%5g/%8G)\n" ++
    text "Access: %x\nModify: %y\nChange: %z\n Birth: %w\n"

end Item

/-- Tells what is known about files. -/
def status (arguments : List Octets) (state : State) : State :=
  withOptions "stat" statUsage 1 arguments state fun options state =>
    if options.operands = [] then missingOperand "stat" state
    else options.operands.foldl (fun state operand =>
      match if options.has 'L' then state.reached operand else state.standing operand with
      | .error trouble =>
        refuse "stat" (if options.has 'f' then "cannot read file system information for" else "cannot statx") operand trouble
          state
      | .ok (location, standing) =>
        let item : Item := { name := operand, path := operand, location, standing }
        let chosen := options.found.reverse.find? fun option => option.1 = 'c' || option.1 = 'π'
        match chosen with
        | some ('c', format) => state.print (item.formatted state false (format.length + 1) format ++ ['\n'])
        | some (_, format) => state.print (item.formatted state true (format.length + 1) format)
        | none =>
          if options.has 't' then
            let format := Octets.ofText "%n %s %b %f %u %g %D %i %h %t %T %X %Y %Z %W %o"
            state.print (item.formatted state false (format.length + 1) format ++ ['\n'])
          else state.print (item.report state)) state

end ComponentViews.Shell.Utility
