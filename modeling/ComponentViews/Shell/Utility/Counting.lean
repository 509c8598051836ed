import ComponentViews.Shell.Utility.Options
import ComponentViews.Shell.Utility.Showing

/-! Counts of lines, words and octets. -/

namespace ComponentViews.Shell.Utility

namespace Counting

/-- What has been counted of a text. -/
structure Tally where
  lines : Nat
  words : Nat
  octets : Nat
  /-- How far the longest line reaches. -/
  widest : Nat
  deriving DecidableEq, Repr

namespace Tally

def zero : Tally := { lines := 0, words := 0, octets := 0, widest := 0 }

/-- Counts of two texts; of their longest lines the longer one. -/
def join (first second : Tally) : Tally where
  lines := first.lines + second.lines
  words := first.words + second.words
  octets := first.octets + second.octets
  widest := max first.widest second.widest

end Tally

/-- What is known in the middle of a text. -/
structure Scan where
  words : Nat
  inside : Bool
  column : Nat
  widest : Nat

namespace Scan

def start : Scan := { words := 0, inside := false, column := 0, widest := 0 }

/-- Ends a word, if one has been begun. -/
def breakWord (scan : Scan) : Scan :=
  { scan with words := if scan.inside then scan.words + 1 else scan.words, inside := false }

/-- Goes on to a column of the same line. -/
def reach (scan : Scan) (column : Nat) : Scan := { scan with column, widest := max scan.widest column }

/-- Passes an octet. What does not print belongs to no word and takes no place. -/
def step (scan : Scan) (c : Char) : Scan :=
  match c with
  | '\n' => { scan.breakWord with column := 0 }
  | '\r' => { scan.breakWord with column := 0 }
  | '\x0c' => { scan.breakWord with column := 0 }
  | '\x0b' => scan.breakWord
  | '\t' => scan.breakWord.reach (scan.column / 8 * 8 + 8)
  | ' ' => scan.breakWord.reach (scan.column + 1)
  | c =>
    if ' ' < c ∧ c ≤ '~' then { scan.reach (scan.column + 1) with inside := true } else scan

end Scan

def tally (content : Octets) : Tally :=
  let scan := (content.foldl Scan.step .start).breakWord
  { lines := content.count '\n', words := scan.words, octets := content.length, widest := scan.widest }

def usage : Usage where
  alone := ['l', 'w', 'c', 'm', 'L', 'δ']
  valued := ['φ', 'τ']
  words := [("bytes", 'c'), ("chars", 'm'), ("lines", 'l'), ("words", 'w'), ("debug", 'δ'), ("files0-from", 'φ'),
    ("max-line-length", 'L'), ("total", 'τ')]
  anywhere := true

/-- The counts that options ask for, in an order of their own. -/
def numbers (options : Options) (tally : Tally) : List Nat :=
  let none := !(['l', 'w', 'c', 'm', 'L'].any options.has)
  let asked (letter : Char) (usual : Bool) (count : Nat) : List Nat :=
    if options.has letter || (usual && none) then [count] else []
  asked 'l' true tally.lines ++ asked 'w' true tally.words ++ asked 'm' false tally.octets ++
    asked 'c' true tally.octets ++ asked 'L' false tally.widest

/-- When a row with totals is printed. -/
inductive Totals where
  | ofSeveral
  | always
  | only
  | never
  deriving DecidableEq, Repr

def totals : List (String × Totals) := [("auto", .ofSeveral), ("always", .always), ("only", .only), ("never", .never)]

/-- A row of numbers with a name behind, if there is one. -/
def row (width : Nat) (numbers : List Nat) (name : Option Octets) : Octets :=
  let columns := numbers.map fun number => rightAligned width (.ofNat number)
  let name := name.map fun name => if name.contains '\n' then nameText name else name
  [' '].intercalate (columns ++ name.toList) ++ ['\n']

/-- How wide numbers are at least where other streams than files take part. -/
def looseWidth : Nat := 7

/-- How wide numbers are printed, by the sizes of what is counted. A missing file has no size, and
what is no file has none that is known. -/
def widthOf (sizes : List (Option (Option Nat))) : Nat :=
  let known := sizes.filterMap id
  let total := (known.filterMap id).foldl Nat.add 0
  max (Octets.ofNat total).length (if known.any Option.isNone then looseWidth else 1)

/-- The size of what an operand names, as far as that is known before it is read. -/
def sizeOf (state : State) (operand : Octets) : Option (Option Nat) :=
  if operand = ['-'] then
    match state.pending? 0 with
    | .ok stream => some (if stream.ofFile then some stream.size else none)
    | .error _ => none
  else if state.isFile operand then some ((state.read operand).toOption.map fun found => found.1.length)
  else if (state.kind? operand).isSome then some none
  else none

/-- Names that NUL ends, or what is wrong with them. -/
def namesFrom (source : Octets) (state : State) : Except (State → State) (List (Octets × Option Octets) × State) :=
  let stem := if source = ['-'] then source else nameText source
  match contentOf source state with
  | .error .isDirectory => .error (fault "wc" (stem ++ .ofText ": read error: Is a directory"))
  | .error trouble =>
    .error (fault "wc" (.ofText "cannot open " ++ named source ++ .ofText (" for reading: " ++ trouble.message)))
  | .ok (content, state) =>
    let names := content.splitOn '\x00'
    let names := if names.getLast? = some [] then names.dropLast else names
    let checked := names.zipIdx.map fun (name, index) =>
      if name = [] then
        (name, some (stem ++ ':' :: Octets.ofNat (index + 1) ++ .ofText ": invalid zero-length file name"))
      else if name = ['-'] ∧ source = ['-'] then
        (name, some (.ofText "when reading file names from stdin, no file name of '-' allowed"))
      else (name, none)
    .ok (checked, state)

/-- Counts what each operand names and prints a row for it, and one with totals if asked for. -/
def countEach (options : Options) (totals : Totals) (width : Nat) (operands : List (Octets × Option Octets))
    (unnamed : Bool) (state : State) : State :=
  let print (counted : Tally) (operand : Octets) (state : State) : State :=
    if totals = .only then state
    else state.print (row width (numbers options counted) (if unnamed then none else some operand))
  let (total, state) := operands.foldl (fun (total, state) (operand, problem) =>
    match problem with
    | some message => (total, fault "wc" message state)
    | none => match contentOf operand state with
      | .ok (content, state) =>
        let counted := tally content
        (Tally.join total counted, print counted operand state)
      | .error trouble =>
        let state := unreadable "wc" operand trouble state
        (total, if trouble = .isDirectory || trouble = .closed then print .zero operand state else state)) (Tally.zero, state)
  let label : Option Octets := if totals = .only then none else some (.ofText "total")
  match totals with
  | .never => state
  | .ofSeveral => if operands.length > 1 then state.print (row width (numbers options total) label) else state
  | _ => state.print (row width (numbers options total) label)

end Counting

open Counting in
/-- Counts lines, words and octets. -/
def wordCount (arguments : List Octets) (state : State) : State :=
  withOptions "wc" Counting.usage 1 arguments state fun options state =>
    match (options.value? 'τ').mapM (choose "wc" "--total" (totals.map Prod.fst)) with
    | .error complaint => complaint state
    | .ok word =>
      let totals := (word.bind fun word => Counting.totals.lookup word).getD .ofSeveral
      let widthFor (operands : List Octets) : Nat :=
        let alone := operands.length = 1 ∧ (numbers options .zero).length = 1
        if alone ∨ totals = .only then 1 else widthOf (operands.map (sizeOf state))
      match options.value? 'φ', options.operands with
      | none, [] => countEach options totals (widthFor [['-']]) [(['-'], none)] true state
      | none, operands => countEach options totals (widthFor operands) (operands.map (·, none)) false state
      | some _, extra :: _ =>
        let message := Octets.ofText "extra operand " ++ named extra ++
          .ofText "\nfile operands cannot be combined with --files0-from"
        hinted "wc" message state
      | some source, [] =>
        match namesFrom source state with
        | .error complaint => complaint state
        | .ok (names, state) =>
          let ofFile := if source = ['-'] then (state.pending? 0).toOption.any Stream.ofFile else state.isFile source
          countEach options totals (if ofFile then widthFor (names.map Prod.fst) else 1) names false state

end ComponentViews.Shell.Utility
