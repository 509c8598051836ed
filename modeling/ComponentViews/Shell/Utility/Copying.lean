import ComponentViews.Shell.Utility.Layout
import ComponentViews.Shell.Utility.Size

/-! Utilities that copy parts of files, or cut files into parts. -/

namespace ComponentViews.Shell.Utility

/-! ### Files of another size -/

/-- What becomes of a size. -/
def resized? (text : Octets) (size : Nat) : Option Nat :=
  let operand (rest : Octets) : Option Nat := if rest.head?.any Name.isDigit then size? rest else none
  match text with
  | '+' :: rest => (operand rest).map (size + ·)
  | '-' :: rest => (operand rest).map (size - ·)
  | '<' :: rest => (operand rest).map (min size)
  | '>' :: rest => (operand rest).map (max size)
  | '/' :: rest => (operand rest).bind fun unit => if unit = 0 then none else some (size / unit * unit)
  | '%' :: rest => (operand rest).bind fun unit =>
    if unit = 0 then none else some ((size + unit - 1) / unit * unit)
  | text => operand text

def truncateUsage : Usage where
  alone := ['c', 'o']
  valued := ['r', 's']
  words := [("no-create", 'c'), ("io-blocks", 'o'), ("reference", 'r'), ("size", 's')]
  anywhere := true

/-- The octets of a file, none where there is no file. -/
def contentAt (path : Octets) (state : State) : Octets := ((state.read path).toOption.map Prod.fst).getD []

def truncate (arguments : List Octets) (state : State) : State :=
  withOptions "truncate" truncateUsage 1 arguments state fun options state =>
    let asked := options.value? 's'
    let reference := (options.value? 'r').map fun path => (contentAt path state).length
    match asked, reference, options.operands with
    | none, none, _ => hinted "truncate" (.ofText "you must specify either '--size' or '--reference'") state
    | _, _, [] => hinted "truncate" (.ofText "missing file operand") state
    | asked, reference, operands =>
      if (asked.any fun text => (resized? text 0).isNone) then
        fault "truncate" (.ofText "Invalid number: " ++ quoted (asked.getD [])) state
      else operands.foldl (fun state operand =>
        let content := contentAt operand state
        let wanted := match asked, reference with
          | some text, reference => ((resized? text (reference.getD content.length)).getD 0)
          | none, reference => reference.getD 0
        if options.has 'c' ∧ (state.entry? operand).isNone then state
        else match state.write operand (content.take wanted ++ List.replicate (wanted - content.length) '\x00') with
          | .ok state => state
          | .error trouble =>
            fault "truncate" (.ofText "cannot open " ++ named operand ++ .ofText (" for writing: " ++ trouble.message))
              state) state

/-! ### Blocks -/

/-- What blocks are copied: sizes, how many are left out, taken, and skipped in the output. -/
structure BlockCopy where
  input : Option Octets
  output : Option Octets
  inputSize : Nat
  outputSize : Nat
  blockLength : Nat
  count : Option Nat
  skip : Nat
  seek : Nat
  conversions : List String
  inputFlags : List String
  outputFlags : List String
  status : Octets

namespace BlockCopy

def usual : BlockCopy where
  input := none
  output := none
  inputSize := 512
  outputSize := 512
  blockLength := 0
  count := none
  skip := 0
  seek := 0
  conversions := []
  inputFlags := []
  outputFlags := []
  status := []

/-- The product that sizes with crosses between them make. -/
def product? (text : Octets) : Option Nat :=
  (text.splitOn 'x').foldl (fun product factor => do return (← product) * (← size? factor)) (some 1)

def words (text : Octets) : List String := (text.splitOn ',').map String.ofList

/-- Takes an operand such as `bs=1K`. -/
def withOperand (copy : BlockCopy) (operand : Octets) : Except Octets BlockCopy :=
  let name := String.ofList (operand.takeWhile (· ≠ '='))
  let value := operand.drop (name.length + 1)
  let unknown : Except Octets BlockCopy := .error (.ofText "unrecognized operand " ++ named operand)
  let number (set : Nat → BlockCopy) : Except Octets BlockCopy :=
    let isCount := value.getLast? = some 'B' ∧ (value.dropLast).all Name.isDigit
    match product? (if isCount then value.dropLast else value) with
    | some size => .ok (set size)
    | none => .error (.ofText "invalid number: " ++ named value)
  let byOctets := value.getLast? = some 'B' ∧ (value.dropLast).all Name.isDigit
  let flagged (flag : String) (flags : List String) : List String := if byOctets then flag :: flags else flags
  if !operand.contains '=' then unknown
  else match name with
    | "if" => .ok { copy with input := some value }
    | "of" => .ok { copy with output := some value }
    | "bs" => number fun size => { copy with inputSize := size, outputSize := size }
    | "ibs" => number fun size => { copy with inputSize := size }
    | "obs" => number fun size => { copy with outputSize := size }
    | "cbs" => number fun size => { copy with blockLength := size }
    | "count" => number fun size =>
      { copy with count := some size, inputFlags := flagged "count_bytes" copy.inputFlags }
    | "skip" => number fun size => { copy with skip := size, inputFlags := flagged "skip_bytes" copy.inputFlags }
    | "iseek" => number fun size => { copy with skip := size, inputFlags := flagged "skip_bytes" copy.inputFlags }
    | "seek" => number fun size => { copy with seek := size, outputFlags := flagged "seek_bytes" copy.outputFlags }
    | "oseek" => number fun size => { copy with seek := size, outputFlags := flagged "seek_bytes" copy.outputFlags }
    | "conv" => .ok { copy with conversions := copy.conversions ++ words value }
    | "iflag" => .ok { copy with inputFlags := copy.inputFlags ++ words value }
    | "oflag" => .ok { copy with outputFlags := copy.outputFlags ++ words value }
    | "status" => .ok { copy with status := value }
    | _ => unknown

def skipped (copy : BlockCopy) : Nat :=
  if copy.inputFlags.contains "skip_bytes" then copy.skip else copy.skip * copy.inputSize

def wanted (copy : BlockCopy) : Option Nat := copy.count.map fun count =>
  if copy.inputFlags.contains "count_bytes" then count else count * copy.inputSize

def swapped : Octets → Octets
  | a :: b :: rest => b :: a :: swapped rest
  | short => short

/-- What conversions make of what has been read. -/
def converted (copy : BlockCopy) (content : Octets) : Octets :=
  let on (name : String) : Bool := copy.conversions.contains name
  let content := if on "sync" ∧ content.length % copy.inputSize ≠ 0 then
      let filler := if on "block" ∨ on "unblock" then ' ' else '\x00'
      content ++ List.replicate (copy.inputSize - content.length % copy.inputSize) filler
    else content
  let content := if on "swab" then swapped content else content
  let content := if on "ucase" then content.map Char.toUpper else content
  let content := if on "lcase" then content.map Char.toLower else content
  if on "block" ∧ copy.blockLength > 0 then (Octets.lines content).flatMap fun line =>
    line.take copy.blockLength ++ List.replicate (copy.blockLength - line.length) ' '
  else if on "unblock" ∧ copy.blockLength > 0 then Octets.ofLines
    ((chunks (content.length + 1) copy.blockLength content).map fun line => Octets.dropEndWhile line (· = ' '))
  else content
where
  chunks : Nat → Nat → Octets → List Octets
    | 0, _, _ => []
    | _ + 1, _, [] => []
    | fuel + 1, size, text => text.take size :: chunks fuel size (text.drop size)

/-- How many whole blocks there are, and how many others. -/
def records (size length : Nat) : Octets :=
  .ofNat (length / max 1 size) ++ '+' :: Octets.ofNat (if length % max 1 size = 0 then 0 else 1)

/-- What is told at the end. How long it took is not known. -/
def summary (copy : BlockCopy) (read written : Nat) : Octets :=
  let records := records copy.inputSize read ++ .ofText " records in\n" ++ records copy.outputSize written ++
    .ofText " records out\n"
  let unit := if written = 1 then " byte" else " bytes"
  let scaled := if written < 1000 then ""
    else " (" ++ human 1000 "kB" written ++ (if written < 1024 then "" else ", " ++ human 1024 "KiB" written) ++ ")"
  if copy.status = .ofText "none" then []
  else if copy.status = .ofText "noxfer" then records
  else records ++ .ofNat written ++ .ofText (unit ++ scaled ++ " copied, 0.0001 s, 1.0 MB/s\n")
where
  human (base : Nat) (unit : String) (value : Nat) : String :=
    toString (value / base) ++ "." ++ toString (value * 10 / base % 10) ++ " " ++ unit

end BlockCopy

/-- Copies blocks of octets. -/
def copyBlocks (arguments : List Octets) (state : State) : State :=
  let operands := if arguments.head? = some ['-', '-'] then arguments.drop 1 else arguments
  match operands.foldlM BlockCopy.withOperand BlockCopy.usual with
  | .error message =>
    if (Octets.ofText "unrecognized").isPrefixOf message then hinted "dd" message state else fault "dd" message state
  | .ok copy =>
    let source : Except (Octets × Trouble) (Octets × State) := match copy.input with
      | none => match state.pending? 0 with
        | .ok stream => .ok (stream.content, state)
        | .error trouble => .error ([], trouble)
      | some path => (state.readAtMost path (copy.wanted.map (· + copy.skipped))).mapError (path, ·)
    match source with
    | .error (path, trouble) =>
      let message := if trouble = .isDirectory then "error reading " else "failed to open "
      fault "dd" (.ofText message ++ named path ++ .ofText (": " ++ trouble.message)) state
    | .ok (content, state) =>
      let rest := content.drop copy.skipped
      let taken := ((copy.wanted.map rest.take).getD rest)
      let left := if copy.input.isNone then state.leave 0 (rest.drop taken.length) else state
      let state := if copy.wanted = some taken.length then left.sate else left
      let octets := copy.converted taken
      let told (state : State) : State := state.report (copy.summary taken.length octets.length)
      match copy.output with
      | none => told (state.succeed.print octets)
      | some path =>
        let start := copy.seek * (if copy.outputFlags.contains "seek_bytes" then 1 else copy.outputSize)
        let old := contentAt path state
        let keeps := copy.conversions.contains "notrunc"
        let appends := copy.outputFlags.contains "append"
        let front := if appends then (if keeps then old else [])
          else old.take start ++ List.replicate (start - old.length) '\x00'
        let behind := if keeps ∧ !appends then old.drop (start + octets.length) else []
        match state.write path (front ++ octets ++ behind) with
        | .ok state => told state.succeed
        | .error trouble =>
          fault "dd" (.ofText "failed to open " ++ named path ++ .ofText (": " ++ trouble.message)) state

/-! ### Parts -/

/-- How the names of parts end: the digits, how many of them, and where they begin. -/
structure PartNaming where
  start : Octets
  digits : List Char
  width : Nat
  first : Nat
  ending : Octets
  /-- Whether names get longer when there are too many. -/
  grows : Bool

namespace PartNaming

def spelled (digits : List Char) : Nat → Nat → Octets
  | 0, _ => []
  | width + 1, value => spelled digits width (value / digits.length) ++ [digits.getD (value % digits.length) '0']

/-- The name of a part. Once all but the last first digit are used up names have two more. -/
def name? (naming : PartNaming) (index : Nat) : Option Octets :=
  let base := naming.digits.length
  let value := naming.first + index
  let last := naming.digits.getLastD '0'
  let rec grown : Nat → Nat → Nat → Octets → Octets
    | 0, width, value, front => front ++ spelled naming.digits width value
    | fuel + 1, width, value, front =>
      let room := Nat.pow base width - Nat.pow base (width - 1)
      if value < room then front ++ spelled naming.digits width value
      else grown fuel (width + 1) (value - room) (front ++ [last])
  if naming.grows then some (naming.start ++ grown 10 naming.width value [] ++ naming.ending)
  else if value < Nat.pow base naming.width then
    some (naming.start ++ spelled naming.digits naming.width value ++ naming.ending)
  else none

end PartNaming

/-- Lines with what ends them. -/
def wholeLines (content : Octets) : List Octets :=
  let parts := content.splitOn '\n'
  (parts.dropLast.map (· ++ ['\n'])) ++ (match parts.getLast? with
    | some [] => []
    | some last => [last]
    | none => [])

/-- Members in groups of a size. -/
def groups {α : Type} (size : Nat) : Nat → List α → List (List α)
  | 0, _ => []
  | fuel + 1, members =>
    if members.isEmpty then [] else members.take size :: groups size fuel (members.drop size)

/-- Lines in parts that hold no more than some octets, but for lines that are longer alone. -/
def packed (size : Nat) (lines : List Octets) : List Octets :=
  let finished := lines.foldl (fun (parts, current) line =>
    if current ≠ [] ∧ current.length + line.length > size then (parts ++ [current], line) else (parts, current ++ line))
    (([], []) : List Octets × Octets)
  let all := if finished.2 = [] then finished.1 else finished.1 ++ [finished.2]
  all.flatMap fun part => if part.length > size then (groups size (part.length + 1) part) else [part]

/-- Octets in as many parts as asked for, the last of which has what is left over. -/
def inParts (count : Nat) (content : Octets) : List Octets :=
  let size := content.length / count
  let extra := content.length % count
  let bound (index : Nat) : Nat := index * size + min index extra
  (List.range count).map fun index => (content.take (bound (index + 1))).drop (bound index)

/-- Lines in as many parts as asked for, by where each line begins. -/
def linesInParts (count : Nat) (content : Octets) : List Octets :=
  let size := max 1 (content.length / count)
  let extra := content.length % count
  let partOf (offset : Nat) : Nat :=
    let index := if offset < (size + 1) * extra then offset / (size + 1) else
      extra + (offset - (size + 1) * extra) / size
    min (count - 1) index
  let placed := ((wholeLines content).foldl (fun (found, offset) line =>
    (found ++ [(partOf offset, line)], offset + line.length)) (([], 0) : List (Nat × Octets) × Nat)).1
  (List.range count).map fun index => (placed.filter fun entry => entry.1 = index).flatMap Prod.snd

def splitUsage : Usage where
  alone := ['d', 'x', 'e', 'u', 'V', 'E']
  valued := ['a', 'b', 'C', 'l', 'n', 't', 'S', 'F', 'N', 'X']
  words := [("suffix-length", 'a'), ("additional-suffix", 'S'), ("bytes", 'b'), ("line-bytes", 'C'),
    ("numeric-suffixes", 'N'), ("hex-suffixes", 'X'), ("elide-empty-files", 'e'), ("filter", 'F'), ("lines", 'l'),
    ("number", 'n'), ("separator", 't'), ("unbuffered", 'u'), ("verbose", 'V')]
  anywhere := true

/-- Words that may come without a value get an empty one. -/
def withEmptyValues (words : List String) (arguments : List Octets) : List Octets :=
  arguments.map fun argument => if words.contains (String.ofList argument) then argument ++ ['='] else argument

/-- The parts that options ask for; the number of one part if only that is to be printed. -/
def partsOf (options : Options) (content : Octets) : Except Octets (List Octets × Option Nat) :=
  let positive (kind : String) (text : Octets) : Except Octets Nat := match size? text with
    | some (size + 1) => .ok (size + 1)
    | _ => .error (.ofText ("invalid number of " ++ kind ++ ": ") ++ quoted text)
  match options.value? 'b', options.value? 'C', options.value? 'n' with
  | some text, _, _ => do
    let size ← positive "bytes" text
    pure (groups size (content.length + 1) content, none)
  | none, some text, _ => do
    let size ← positive "bytes" text
    pure (packed size (wholeLines content), none)
  | none, none, some text =>
    let (kind, rest) : Char × Octets := match text with
      | 'l' :: '/' :: rest => ('l', rest)
      | 'r' :: '/' :: rest => ('r', rest)
      | rest => ('b', rest)
    let (chosen, count) : Option Octets × Octets := match rest.splitOn '/' with
      | [chosen, count] => (some chosen, count)
      | _ => (none, rest)
    do
      let count ← (positive "chunks" count)
      let parts := match kind with
        | 'l' => linesInParts count content
        | 'r' => (List.range count).map fun index =>
          ((wholeLines content).zipIdx.filter fun entry => entry.2 % count = index).flatMap Prod.fst
        | _ => inParts count content
      pure (parts, chosen.bind Format.natural?)
  | none, none, none => do
    let size ← positive "lines" ((options.value? 'l').getD (.ofText "1000"))
    pure ((groups size (content.length + 1) (wholeLines content)).map List.flatten, none)

/-- Writes the parts of a file into files of their own. -/
def splitFile (arguments : List Octets) (state : State) : State :=
  let arguments := withEmptyValues ["--numeric-suffixes", "--hex-suffixes"] (spellWidths 'l' arguments)
  withOptions "split" splitUsage 1 arguments state fun options state =>
    let operand := options.operands.headD ['-']
    match contentOf operand state with
    | .error trouble =>
      let name := named operand
      fault "split" (.ofText "cannot open " ++ name ++ .ofText (" for reading: " ++ trouble.message)) state
    | .ok (content, state) =>
      match partsOf options content with
      | .error message => fault "split" message state
      | .ok (parts, some chosen) => state.print (parts.getD (chosen - 1) [])
      | .ok (parts, none) =>
        let numeric := options.has 'd' || options.has 'N'
        let hexadecimal := options.has 'x' || options.has 'X'
        let naming : PartNaming := {
          start := options.operands.getD 1 ['x']
          digits := if numeric then Octets.ofText "0123456789"
            else if hexadecimal then Octets.ofText "0123456789abcdef"
            else Octets.ofText "abcdefghijklmnopqrstuvwxyz"
          width := (options.number? 'a').getD 2
          first := (((options.value? 'N').or (options.value? 'X')).bind Format.natural?).getD 0
          ending := (options.value? 'S').getD []
          grows := !options.has 'a' && !((options.value? 'N').any (· ≠ [])) && !((options.value? 'X').any (· ≠ [])) }
        let parts := if options.has 'e' then parts.filter (· ≠ []) else parts
        (parts.zipIdx.foldl (fun (state, stopped) (part, index) =>
          if stopped then (state, true)
          else match naming.name? index with
            | none => (fault "split" (.ofText "output file suffixes exhausted") state, true)
            | some name =>
              let state := if options.has 'V' then state.print (.ofText "creating file " ++ named name ++ ['\n'])
                else state
              match state.write name part with
              | .ok state => (state, false)
              | .error trouble => (faultOf "split" name trouble.message state, true)) (state, false)).1

end ComponentViews.Shell.Utility
