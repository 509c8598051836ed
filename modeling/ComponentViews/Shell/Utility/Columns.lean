import ComponentViews.Shell.Utility.Options

/-! Parts of lines: octets at some positions, or fields between delimiters. -/

namespace ComponentViews.Shell.Utility

namespace Columns

/-- Positions from one to another, both included; the last one may be missing. -/
structure Range where
  first : Nat
  last : Option Nat
  deriving DecidableEq, Repr

namespace Range

def holds (range : Range) (position : Nat) : Bool := range.first ≤ position && range.last.all (position ≤ ·)

/-- Ranges in order, those that overlap as one. -/
def merged : List Range → List Range
  | first :: second :: rest =>
    if first.last.all (second.first ≤ ·) then
      let last := first.last.bind fun one => second.last.map (max one)
      merged ({ first with last } :: rest)
    else first :: merged (second :: rest)
  | short => short
termination_by ranges => ranges.length

end Range

/-- What is wrong with a list of ranges. -/
inductive ListFault where
  | malformed
  | fromNought
  | noEndpoint
  | decreasing
  | tooLarge (digits : Octets)
  | strange (rest : Octets)
  deriving DecidableEq, Repr

/-- What is wrong with a list of fields, or of positions of octets. -/
def ListFault.message (fields : Bool) : ListFault → Octets
  | .malformed => .ofText (if fields then "invalid field range" else "invalid byte or character range")
  | .fromNought => .ofText (if fields then "fields are numbered from 1" else "byte/character positions are numbered from 1")
  | .noEndpoint => .ofText "invalid range with no endpoint: -"
  | .decreasing => .ofText "invalid decreasing range"
  | .tooLarge digits =>
    .ofText (if fields then "field number " else "byte/character offset ") ++ quoted digits ++ .ofText " is too large"
  | .strange rest => .ofText (if fields then "invalid field value " else "invalid byte/character position ") ++ quoted rest

/-- Positions from this one on cannot be counted. -/
def mostPositions : Nat := 18446744073709551615

/-- The number at the start of a text, and the rest. -/
def readNumber (text : Octets) : Except ListFault (Option Nat × Octets) :=
  let digits := text.takeWhile Name.isDigit
  if digits = [] then .ok (none, text)
  else
    let value := Numeral.digitsValue digits
    if value ≥ mostPositions then .error (.tooLarge digits) else .ok (some value, text.drop digits.length)

/-- A range such as `2`, `2-4`, `2-` or `-4` at the start of a text, and the rest. -/
def readRange (text : Octets) : Except ListFault (Range × Octets) := do
  let (first, rest) ← readNumber text
  match rest with
  | '-' :: rest =>
    if first = some 0 then .error .fromNought
    else
      let (last, rest) ← readNumber rest
      match first, last with
      | none, none => if rest.head? = some '-' then .error .malformed else if ends rest then .error .noEndpoint else strange rest
      | first, last =>
        if rest.head? = some '-' then .error .malformed
        else if !ends rest then strange rest
        else if last.any (· < first.getD 1) then .error .decreasing
        else .ok ({ first := first.getD 1, last }, rest)
  | rest =>
    if !ends rest then strange rest
    else match first with
      | none => .error .fromNought
      | some 0 => .error .fromNought
      | some position => .ok ({ first := position, last := some position }, rest)
where
  ends (rest : Octets) : Bool := rest.head?.all fun c => c = ',' || Name.isBlank c
  strange (rest : Octets) : Except ListFault (Range × Octets) := .error (.strange rest)

/-- Ranges between commas or blanks. -/
def readRanges : Nat → Octets → Except ListFault (List Range)
  | 0, _ => .ok []
  | fuel + 1, text => do
    let (range, rest) ← readRange text
    match rest with
    | [] => pure [range]
    | _ :: rest => return range :: (← readRanges fuel rest)

/-- What is between ranges that are in order. -/
def gaps : Nat → List Range → List Range
  | next, [] => [{ first := next, last := none }]
  | next, range :: rest =>
    let later := match range.last with
      | some last => gaps (last + 1) rest
      | none => []
    if next < range.first then { first := next, last := some (range.first - 1) } :: later else later

/-- The ranges that a list asks for, or all others. -/
def chosen (complement : Bool) (text : Octets) : Except ListFault (List Range) := do
  let ranges ← readRanges (text.length + 1) text
  let ordered := Range.merged (ranges.mergeSort fun a b => decide (a.first ≤ b.first))
  pure (if complement then gaps 1 ordered else ordered)

/-- The members whose positions are in a range. -/
def within {α : Type} (range : Range) (members : List α) : List α :=
  let behind := members.drop (range.first - 1)
  match range.last with
  | some last => behind.take (last + 1 - range.first)
  | none => behind

def usage : Usage where
  alone := ['s', 'n', 'C', 'z']
  valued := ['d', 'f', 'c', 'b', 'o']
  words := [
    ("complement", 'C'), ("delimiter", 'd'), ("fields", 'f'), ("output-delimiter", 'o'), ("only-delimited", 's'),
    ("characters", 'c'), ("bytes", 'b'), ("zero-terminated", 'z')]
  anywhere := true

/-- What is wrong with the options, apart from the list itself. -/
def misuse? (options : Options) : Option String :=
  let lists := options.found.filter fun option => option.1 ∈ ['f', 'c', 'b']
  if lists.length > 1 then some "only one list may be specified"
  else if (options.values 'd').any fun delimiter => delimiter.length > 1 then
    some "the delimiter must be a single character"
  else if lists = [] then some "you must specify a list of bytes, characters, or fields"
  else if options.has 'f' then none
  else if options.has 'd' then some "an input delimiter may be specified only when operating on fields"
  else if options.has 's' then some "suppressing non-delimited lines makes sense\n\tonly when operating on fields"
  else none

end Columns

open Columns in
/-- Prints parts of each line. -/
def cut (arguments : List Octets) (state : State) : State :=
  withOptions "cut" usage 1 arguments state fun options state =>
    let fields := options.has 'f'
    match misuse? options with
    | some message => hinted "cut" (.ofText message) state
    | none =>
      let list := ((options.value? 'f').or ((options.value? 'c').or (options.value? 'b'))).getD []
      match chosen (options.has 'C') list with
      | .error problem => hinted "cut" (problem.message fields) state
      | .ok ranges =>
        let ending := if options.has 'z' then '\x00' else '\n'
        let delimiter := ((options.value? 'd').getD ['\t']).headD '\x00'
        let joint := if options.value? 'o' = some [] then some ['\x00'] else options.value? 'o'
        let fieldsOf (line : Octets) : Octets :=
          let pieces := line.splitOn delimiter
          ((joint.getD [delimiter])).intercalate (ranges.flatMap fun range => within range pieces)
        let shown (line : Octets) : Option Octets :=
          if !fields then
            let pieces := (ranges.map fun range => within range line).filter (· ≠ [])
            some ((joint.getD []).intercalate pieces)
          else if line.contains delimiter then some (fieldsOf line)
          else if options.has 's' then none else some line
        let cutUp (content : Octets) : Octets :=
          if content = [] then []
          else
            let whole := if content.getLast? = some ending then content.dropLast else content
            let lines := if fields ∧ delimiter = ending then [fieldsOf whole] else (whole.splitOn ending).filterMap shown
            lines.flatMap (· ++ [ending])
        forEachContent "cut" options.operands state fun _ content state => state.print (cutUp content)

end ComponentViews.Shell.Utility
