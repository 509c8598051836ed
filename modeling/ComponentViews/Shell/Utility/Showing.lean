import ComponentViews.Shell.Utility.Options

/-! Files passed on as they are, or with their lines numbered and what does not show made
visible. -/

namespace ComponentViews.Shell.Utility

/-- An octet with a sign in front where it is a control, and more signs where it is high. -/
def caretForm (c : Char) : Octets :=
  let low (number : Nat) : Octets :=
    if number < 32 then ['^', Char.ofNat (number + 64)]
    else if number = 127 then ['^', '?']
    else [Char.ofNat number]
  if c.toNat ≥ 128 then ['M', '-'] ++ low (c.toNat - 128) else low c.toNat

def rightAligned (width : Nat) (text : Octets) : Octets := List.replicate (width - text.length) ' ' ++ text

namespace Showing

/-- What is added to files. -/
structure Manner where
  carets : Bool
  tabs : Bool
  ends : Bool
  numbers : Bool
  /-- Only lines that are not empty get numbers. -/
  numbersFull : Bool
  squeezes : Bool
  deriving DecidableEq, Repr

def usage : Usage where
  alone := ['n', 'b', 's', 'u', 'v', 'A', 'E', 'T', 'e', 't']
  valued := []
  words := [("number-nonblank", 'b'), ("number", 'n'), ("squeeze-blank", 's'), ("show-nonprinting", 'v'),
    ("show-ends", 'E'), ("show-tabs", 'T'), ("show-all", 'A')]
  anywhere := true

def Manner.ofOptions (options : Options) : Manner where
  carets := ['v', 'A', 'e', 't'].any options.has
  tabs := ['T', 'A', 't'].any options.has
  ends := ['E', 'A', 'e'].any options.has
  numbers := options.has 'n' || options.has 'b'
  numbersFull := options.has 'b'
  squeezes := options.has 's'

/-- Whether files are passed on as they are. -/
def Manner.isPlain (manner : Manner) : Bool :=
  !(manner.carets || manner.tabs || manner.ends || manner.numbers || manner.squeezes)

/-- A line's text; a return in front of its end shows where ends do. -/
def Manner.text (manner : Manner) (ended : Bool) : Octets → Octets
  | [] => []
  | ['\r'] => if manner.carets || (manner.ends && ended) then ['^', 'M'] else ['\r']
  | c :: rest =>
    let shown := if c = '\t' then (if manner.tabs then caretForm c else [c])
      else if manner.carets then caretForm c else [c]
    shown ++ manner.text ended rest

/-- What has been passed on so far: the number of the next line, and how many empty lines
came last. -/
structure Progress where
  next : Nat
  empty : Nat
  /-- Whether a line has been begun that is not ended. -/
  inside : Bool
  deriving DecidableEq, Repr

/-- Lines as they are shown, the last of which may lack its end. -/
def Manner.lines (manner : Manner) : Progress → List Octets → Octets × Progress
  | progress, [] => ([], progress)
  | progress, [last] =>
    if last = [] then ([], progress)
    else
      let numbered := manner.numbers && !progress.inside
      let number := if numbered then rightAligned 6 (.ofNat progress.next) ++ ['\t'] else []
      (number ++ manner.text false last,
        { next := if numbered then progress.next + 1 else progress.next, empty := 0, inside := true })
  | progress, line :: rest =>
    let isEmpty := line = [] && !progress.inside
    if isEmpty && manner.squeezes && progress.empty > 0 then manner.lines progress rest
    else
      let numbered := manner.numbers && !progress.inside && !(manner.numbersFull && isEmpty)
      let number := if numbered then rightAligned 6 (.ofNat progress.next) ++ ['\t'] else []
      let ended := (if manner.ends then ['$'] else []) ++ ['\n']
      let (later, progress) := manner.lines {
        next := if numbered then progress.next + 1 else progress.next
        empty := if isEmpty then progress.empty + 1 else 0
        inside := false } rest
      (number ++ manner.text true line ++ ended ++ later, progress)

end Showing

open Showing in
/-- Prints files, or the input, one after the other. -/
def cat (arguments : List Octets) (state : State) : State :=
  withOptions "cat" Showing.usage 1 arguments state fun options state =>
    let manner := Manner.ofOptions options
    (if options.operands = [] then [['-']] else options.operands).foldl (fun (progress, state) operand =>
      match contentOf operand state with
      | .ok (content, state) =>
        if content ≠ [] ∧ state.isOutput operand then
          (progress, faultOf "cat" operand "input file is output file" state)
        else if manner.isPlain then (progress, state.print content)
        else
          let (shown, progress) := manner.lines progress (content.splitOn '\n')
          (progress, state.print shown)
      | .error trouble => (progress, unreadable "cat" operand trouble state))
      (({ next := 1, empty := 0, inside := false } : Showing.Progress), state) |>.2

end ComponentViews.Shell.Utility
