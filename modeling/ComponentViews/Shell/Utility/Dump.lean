import ComponentViews.Shell.Utility.Encoding

/-! Octets shown in rows: as characters, as numbers of some size, or as texts among them. -/

namespace ComponentViews.Shell.Utility

/-- The number of octets, the first of which counts least. -/
def littleEndian (octets : Octets) : Nat := octets.foldr (fun c value => value * 256 + c.toNat) 0

namespace Dump

/-- How octets are shown: as what, how many at a time, and with the characters behind. -/
structure Rendering where
  size : Nat
  width : Nat
  image : Nat → Octets
  trailing : Bool

def escapedOctet (value : Nat) : Octets :=
  match value with
  | 0 => ['\\', '0']
  | 7 => ['\\', 'a']
  | 8 => ['\\', 'b']
  | 9 => ['\\', 't']
  | 10 => ['\\', 'n']
  | 11 => ['\\', 'v']
  | 12 => ['\\', 'f']
  | 13 => ['\\', 'r']
  | value => if 32 ≤ value ∧ value ≤ 126 then [Char.ofNat value] else padded 8 3 value

/-- The names of characters that cannot be seen. -/
def controlNames : List String :=
  ["nul", "soh", "stx", "etx", "eot", "enq", "ack", "bel", "bs", "ht", "nl", "vt", "ff", "cr", "so", "si", "dle",
    "dc1", "dc2", "dc3", "dc4", "nak", "syn", "etb", "can", "em", "sub", "esc", "fs", "gs", "rs", "us", "sp"]

def namedOctet (value : Nat) : Octets :=
  let value := value % 128
  match controlNames[value]? with
  | some name => .ofText name
  | none => if value = 127 then .ofText "del" else [Char.ofNat value]

/-- The bits of a number as a number with a sign. -/
def signedOf (size value : Nat) : Int :=
  if value < Nat.pow 2 (8 * size - 1) then value else (value : Int) - (Nat.pow 2 (8 * size) : Nat)

/-- The shortest digits that tell a magnitude from its neighbours, which are a step apart. -/
def shortest (numerator denominator step : Nat) (least : Nat) : Octets :=
  let image (digits : Nat) : Octets := Numeral.general digits false (numerator, denominator)
  let fits (digits : Nat) : Bool :=
    match Numeral.decimal? (image digits) with
    | some ((top, bottom), _) =>
      let difference := ((top * denominator : Nat) - (numerator * bottom : Nat) : Int).natAbs
      difference * 2 * step < denominator * bottom
    | none => false
  image (((List.range 20).drop least |>.find? fits).getD 17)

/-- A number with a point from its bits: how many say where the point is, and how many the digits. -/
def pointed (exponentBits digitBits value : Nat) : Octets :=
  let unit := Nat.pow 2 digitBits
  let digits := value % unit
  let exponent := value / unit % Nat.pow 2 exponentBits
  let negative := value / unit / Nat.pow 2 exponentBits % 2 = 1
  let sign : Octets := if negative then ['-'] else []
  let top := Nat.pow 2 exponentBits - 1
  if exponent = top then sign ++ .ofText (if digits = 0 then "inf" else "nan")
  else
    let whole := if exponent = 0 then digits else digits + unit
    let power : Int := (if exponent = 0 then 1 else exponent : Nat) - ((top / 2 + digitBits : Nat) : Int)
    if whole = 0 then sign ++ ['0']
    else
      let scale := Nat.pow 2 power.natAbs
      let (numerator, denominator) := if power < 0 then (whole, scale) else (whole * scale, 1)
      sign ++ shortest numerator denominator (if power < 0 then scale / 1 else 1)
        (if digitBits < 30 then 6 else 15)

/-- The letters behind a type that stand for sizes. -/
def wholeSizes : List (Char × Nat) := [('C', 1), ('S', 2), ('I', 4), ('L', 8)]

def pointedSizes : List (Char × Nat) := [('F', 4), ('D', 8)]

/-- What is wrong with a type. -/
inductive TypeFault where
  | letter (char : Char) (type : Octets)
  | size (type : Octets) (octets : Nat) (pointed : Bool)
  | malformed (type : Octets)

def TypeFault.message : TypeFault → Octets
  | .letter c type => .ofText "invalid character " ++ quoted [c] ++ .ofText " in type string " ++ quoted type
  | .size type octets pointed =>
    .ofText "invalid type string " ++ quoted type ++ .ofText (";\nthis system doesn't provide a " ++ toString octets ++
      (if pointed then "-byte floating point type" else "-byte integral type"))
  | .malformed type => .ofText "invalid type string " ++ quoted type

/-- A size at the start of a text, and the rest. -/
def readSize (letters : List (Char × Nat)) (usual : Nat) (text : Octets) : Nat × Octets :=
  match text with
  | [] => (usual, [])
  | c :: rest =>
    match letters.lookup c with
    | some size => (size, rest)
    | none =>
      let digits := (c :: rest).takeWhile Name.isDigit
      if digits = [] then (usual, c :: rest) else (Numeral.digitsValue digits, (c :: rest).drop digits.length)

/-- How wide numbers of one, two, four and eight octets are. -/
def widthOf (letter : Char) (size : Nat) : Nat :=
  let widths : List Nat := match letter with
    | 'd' => [4, 6, 11, 20]
    | 'u' => [3, 5, 10, 20]
    | 'o' => [3, 6, 11, 22]
    | _ => [2, 4, 8, 16]
  widths.getD (if size = 1 then 0 else if size = 2 then 1 else if size = 4 then 2 else 3) 0

/-- The renderings that a type string such as `x1z` asks for. -/
def renderings (type : Octets) : Nat → Octets → Except TypeFault (List Rendering)
  | 0, _ => .ok []
  | _ + 1, [] => .ok []
  | fuel + 1, letter :: rest => do
    let (rendering, rest) ← read letter rest
    let trailing := rest.head? = some 'z'
    let later ← renderings type fuel (if trailing then rest.drop 1 else rest)
    pure ({ rendering with trailing } :: later)
where
  read (letter : Char) (rest : Octets) : Except TypeFault (Rendering × Octets) :=
    match letter with
    | 'a' => .ok ({ size := 1, width := 3, image := namedOctet, trailing := false }, rest)
    | 'c' => .ok ({ size := 1, width := 3, image := escapedOctet, trailing := false }, rest)
    | 'f' =>
      let (size, rest) := readSize pointedSizes 8 rest
      if size = 4 then .ok ({ size, width := 15, image := pointed 8 23, trailing := false }, rest)
      else if size = 8 then .ok ({ size, width := 24, image := pointed 11 52, trailing := false }, rest)
      else .error (.size type size true)
    | letter =>
      if letter ∉ ['d', 'u', 'o', 'x'] then .error (.letter letter type)
      else
        let (size, rest) := readSize wholeSizes 4 rest
        if size ∉ [1, 2, 4, 8] then .error (.size type size false)
        else
          let width := widthOf letter size
          let image (value : Nat) : Octets := match letter with
            | 'd' => Expression.digits (signedOf size value)
            | 'u' => .ofNat value
            | 'o' => padded 8 width value
            | _ => padded 16 width value
          .ok ({ size, width, image, trailing := false }, rest)

/-- Options that stand for types. -/
def typeOptions : List (Char × String) :=
  [('a', "a"), ('b', "o1"), ('c', "c"), ('d', "u2"), ('e', "fD"), ('F', "fD"), ('f', "fF"), ('h', "x2"), ('i', "dI"),
    ('l', "dL"), ('I', "dL"), ('L', "dL"), ('o', "o2"), ('B', "o2"), ('O', "o4"), ('D', "u4"), ('H', "x4"),
    ('X', "x4"), ('s', "d2"), ('x', "x2")]

def usage : Usage where
  alone := ['v', 'a', 'b', 'c', 'd', 'e', 'F', 'f', 'h', 'i', 'l', 'I', 'L', 'o', 'B', 'O', 'D', 'H', 'X', 's', 'x', 'ω',
    'τ']
  valued := ['A', 't', 'N', 'j', 'ε', 'w', 'S']
  words := [("address-radix", 'A'), ("endian", 'ε'), ("skip-bytes", 'j'), ("read-bytes", 'N'), ("strings", 'S'),
    ("format", 't'), ("output-duplicates", 'v'), ("width", 'ω'), ("traditional", 'τ')]
  anywhere := true
  optional := ['ω']

/-- Arguments in which a letter that may come with a value has it as a word. -/
def spelled (arguments : List Octets) : List Octets :=
  arguments.map fun argument =>
    match argument with
    | '-' :: 'w' :: width => .ofText "--width" ++ (if width = [] then [] else '=' :: width)
    | argument => argument

/-- A number that may be in octal or hexadecimal, with a unit behind it. -/
def extent? (text : Octets) : Option Nat :=
  match text with
  | '0' :: x :: rest =>
    if x = 'x' ∨ x = 'X' then
      let digits := rest.takeWhile fun c => (Expression.digit? 16 c).isSome
      if digits = rest ∧ rest ≠ [] then some (Expression.readDigits 16 0 rest).1 else none
    else
      let digits := (x :: rest).takeWhile fun c => (Format.octalDigit? c).isSome
      if digits = x :: rest then some (Expression.readDigits 8 0 (x :: rest)).1 else size? text
  | text => if text.head?.any Name.isDigit then size? text else none

/-- How octets are laid out. -/
structure Plan where
  renderings : List Rendering
  radix : Char
  rowSize : Nat
  repeats : Bool
  /-- Whether the first octet of a number counts most. -/
  reversed : Bool

namespace Plan

def address (plan : Plan) (offset : Nat) : Octets :=
  match plan.radix with
  | 'n' => []
  | 'x' => padded 16 6 offset
  | 'd' => padded 10 7 offset
  | _ => padded 8 7 offset

/-- How wide all that one rendering shows of a row is, blanks between numbers included. -/
def rowWidth (plan : Plan) : Nat :=
  (plan.renderings.map fun rendering => (rendering.width + 1) * (plan.rowSize / rendering.size)).foldl max 0

/-- One rendering of a row, blanks spread among its numbers so that all renderings are as wide. -/
def line (plan : Plan) (piece : Octets) (rendering : Rendering) : Octets :=
  let fields := plan.rowSize / rendering.size
  let blank := (plan.rowSize - piece.length) / rendering.size
  let padding := plan.rowWidth - rendering.width * fields
  let place (index : Nat) : Nat := padding * (fields - index) / fields
  let shown := (List.range (fields - blank)).flatMap fun index =>
    let octets := (piece.drop (index * rendering.size)).take rendering.size
    let filled := octets ++ List.replicate (rendering.size - octets.length) '\x00'
    let value := littleEndian (if plan.reversed then filled.reverse else filled)
    let text := rendering.image value
    List.replicate (place index - place (index + 1) + rendering.width - text.length) ' ' ++ text
  let trailer := if rendering.trailing then
      List.replicate (blank * rendering.width + padding * blank / fields) ' ' ++ [' ', ' ', '>'] ++
        piece.map (fun c => if ' ' ≤ c ∧ c ≤ '~' then c else '.') ++ ['<']
    else []
  shown ++ trailer

/-- The rows of octets from an address on. Rows like the one in front are left out but for a mark. -/
def rows (plan : Plan) : Nat → Nat → Option Octets → Bool → Octets → List Octets
  | 0, _, _, _, _ => []
  | _ + 1, _, _, _, [] => []
  | fuel + 1, offset, former, marked, content =>
    let piece := content.take plan.rowSize
    let rest := content.drop plan.rowSize
    if !plan.repeats ∧ former = some piece ∧ piece.length = plan.rowSize then
      (if marked then [] else [['*']]) ++ plan.rows fuel (offset + plan.rowSize) former true rest
    else
      let blank := List.replicate (plan.address offset).length ' '
      let lines := plan.renderings.zipIdx.map fun (rendering, index) =>
        (if index = 0 then plan.address offset else blank) ++ plan.line piece rendering
      lines ++ plan.rows fuel (offset + plan.rowSize) (some piece) false rest

end Plan

/-- The texts of at least some length that end in a null character, each behind its address. -/
def texts (plan : Plan) (least : Nat) : Nat → Nat → Octets → List Octets
  | 0, _, _ => []
  | _ + 1, _, [] => []
  | fuel + 1, offset, c :: rest =>
    let isShown (c : Char) : Bool := (' ' ≤ c && c ≤ '~') || ('\x07' ≤ c && c ≤ '\x0d')
    let text := (c :: rest).takeWhile isShown
    let behind := (c :: rest).drop text.length
    let next := (behind.drop 1)
    let found : List Octets := if text.length ≥ least ∧ behind.head? = some '\x00' then
        [plan.address offset ++ (if plan.radix = 'n' then [] else [' ']) ++ text.flatMap fun c =>
          if ' ' ≤ c ∧ c ≤ '~' then [c] else escapedOctet c.toNat]
      else []
    found ++ texts plan least fuel (offset + text.length + 1) next

/-- The least number that others divide. -/
def commonSize (renderings : List Rendering) : Nat := (renderings.map Rendering.size).foldl Nat.lcm 1

/-- An offset behind a plus sign, as a last operand may give it. -/
def offset? (text : Octets) : Option Nat :=
  match text with
  | '+' :: rest =>
    let (body, unit) := if rest.getLast? = some 'b' then (rest.dropLast, 512) else (rest, 1)
    let value := if body.getLast? = some '.' then Format.natural? body.dropLast
      else if body.take 2 = ['0', 'x'] then extent? body
      else if body ≠ [] ∧ body.all fun c => (Format.octalDigit? c).isSome then some (Expression.readDigits 8 0 body).1
      else none
    value.map (· * unit)
  | _ => none

end Dump

open Dump in
/-- Prints octets in rows, each behind its address. -/
def dump (arguments : List Octets) (state : State) : State :=
  withOptions "od" Dump.usage 1 (spelled arguments) state fun options state =>
    let types : List Octets := options.found.filterMap fun (letter, value) =>
      if letter = 't' then some value else (typeOptions.lookup letter).map Octets.ofText
    let types := if types = [] then [Octets.ofText "o2"] else types
    let radix := (options.value? 'A').getD ['o']
    let bad (letter : Char) : Option Octets :=
      (options.value? letter).bind fun value => if (extent? value).isNone then some value else none
    match types.mapM fun type => renderings type (type.length + 1) type with
    | .error problem => fault "od" problem.message state
    | .ok found =>
      if !([['o'], ['d'], ['x'], ['n']] : List Octets).contains radix then
        fault "od" (.ofText "invalid output address radix " ++ quoted radix ++
          .ofText "; it must be one character from [doxn]") state
      else match bad 'j', bad 'N' with
        | some value, _ => fault "od" (.ofText "invalid -j argument " ++ quoted value) state
        | none, some value => fault "od" (.ofText "invalid -N argument " ++ quoted value) state
        | none, none =>
          let found := found.flatten
          let common := commonSize found
          let asked := (options.value? 'ω').map fun value => (extent? value).getD 32
          let asked := if options.value? 'ω' = some [] then some 32 else asked
          let isFitting := asked.all fun size => size > 0 && size % common = 0
          let rowSize := if isFitting then asked.getD (if common < 16 then common * (16 / common) else common) else common
          let state := match isFitting, asked with
            | false, some size =>
              complain "od" (.ofText "warning: invalid width " ++ .ofNat size ++ .ofText "; using " ++ .ofNat common ++
                .ofText " instead") state
            | _, _ => state
          let last := options.operands.getLast?.bind offset?
          let operands := if last.isSome then options.operands.dropLast else options.operands
          let plan : Plan := {
            renderings := found, radix := radix.headD 'o', rowSize, repeats := options.has 'v'
            reversed := options.value? 'ε' = some (.ofText "big") }
          let skipped := ((options.value? 'j').bind extent?).getD (last.getD 0)
          let limit := (options.value? 'N').bind extent?
          let (content, read, state) := collect operands (limit.map (skipped + ·)) state
          if !read then state
          else if content.length < skipped then fault "od" (.ofText "cannot skip past end of combined input") state
          else
            let content := content.drop skipped
            let content := (limit.map content.take).getD content
            match options.value? 'S' with
            | some least =>
              state.print (Octets.ofLines (texts plan ((extent? least).getD 3) (content.length + 1) skipped content))
            | none =>
              let rows := plan.rows (content.length + 1) skipped none false content
              let ending := if plan.radix = 'n' then [] else [plan.address (skipped + content.length)]
              state.print (Octets.ofLines (rows ++ ending))
where
  /-- What all operands name, and whether any of them could be read. -/
  collect (operands : List Octets) (most : Option Nat) (state : State) : Octets × Bool × State :=
    (if operands = [] then [['-']] else operands).foldl (fun (gathered, read, state) operand =>
      match if operand = ['-'] then contentOf operand state
        else state.readAtMost operand (most.map (· - gathered.length)) with
      | .ok (content, state) =>
        let enough := most.any (· ≤ gathered.length + content.length)
        (gathered ++ content, true, if enough then state.sate else state)
      | .error trouble => (gathered, read, unreadable "od" operand trouble state)) ([], false, state)

end ComponentViews.Shell.Utility
