import ComponentViews.Shell.Regex
import ComponentViews.Shell.Utility.Options

/-! What turns texts round: their records or the characters of their lines. -/

namespace ComponentViews.Shell.Utility

namespace Backwards

def usage : Usage where
  alone := ['b', 'r']
  valued := ['s']
  words := [("before", 'b'), ("regex", 'r'), ("separator", 's')]
  anywhere := true

/-- What stands between records. -/
inductive Separator where
  | text (value : Octets)
  | fitting (regex : Regex)

/-- The separator that ends at a position or before it and starts last: its start and its end. -/
def Separator.last? (separator : Separator) (text : Array Char) (limit : Nat) : Option (Nat × Nat) :=
  match separator with
  | .text value =>
    ((List.range (limit + 1 - value.length)).reverse.find? fun start =>
      value.zipIdx.all fun (c, index) => text[start + index]? = some c).map fun start => (start, start + value.length)
  | .fitting regex =>
    let seen := text.extract 0 limit
    (List.range limit).reverse.findSome? fun start =>
      (regex.matchAt? seen start).map fun found => (found.first, found.last)

/-- Records from the last one to the first, each with the separator behind it, or before it if
that is asked for. What has been given reaches from a position to the end. -/
def records (separator : Separator) (before : Bool) (text : Array Char) : Nat → Nat → Nat → Octets
  | 0, _, given => Regex.part text 0 given
  | fuel + 1, limit, given =>
    match if limit = 0 then none else separator.last? text limit with
    | none => Regex.part text 0 given
    | some (first, last) =>
      let from' := if before then first else last
      Regex.part text from' given ++ records separator before text fuel first from'

/-- A text with its records in the other order. -/
def turned (separator : Separator) (before : Bool) (content : Octets) : Octets :=
  records separator before content.toArray (content.length + 1) content.length content.length

/-- The separator that options ask for. -/
def separatorOf (options : Options) : Except String Separator :=
  let source := (options.value? 's').getD ['\n']
  if !options.has 'r' then .ok (.text (if source = [] then ['\x00'] else source))
  else if source = [] then .error "separator cannot be empty"
  else match Regex.parse .basic (Regex.freed (source.length + 1) source) with
    | .ok (regex, _) => .ok (.fitting regex)
    | .error problem => .error problem.message

/-- The lines of a text from the last one to the first. -/
def turnedLines (content : Octets) : Octets :=
  let unended := content ≠ [] ∧ content.getLast? ≠ some '\n'
  match content.lines.reverse with
  | [] => []
  | last :: others => last ++ (if unended then [] else ['\n']) ++ Octets.ofLines others

end Backwards

open Backwards in
/-- Prints the lines of each file, or what else is separated, from the last to the first. -/
def tac (arguments : List Octets) (state : State) : State :=
  withOptions "tac" Backwards.usage 1 arguments state fun options state =>
    match separatorOf options with
    | .error problem => fault "tac" (.ofText problem) state
    | .ok separator =>
      let turn (content : Octets) : Octets :=
        if options.found = [] then turnedLines content else turned separator (options.has 'b') content
      (if options.operands = [] then [['-']] else options.operands).foldl (fun state operand =>
        match contentOf operand state with
        | .ok (content, state) => state.print (turn content)
        | .error .isDirectory => fault "tac" (nameText operand ++ .ofText ": read error: Invalid argument") state
        | .error .closed => unreadable "tac" operand .closed state
        | .error trouble =>
          let reason := Octets.ofText (" for reading: " ++ trouble.message)
          fault "tac" (.ofText "failed to open " ++ named operand ++ reason) state) state

def reverseUsage : Usage where
  alone := ['0']
  valued := []
  words := [("zero", '0')]
  anywhere := true

/-- Prints each line backwards. -/
def rev (arguments : List Octets) (state : State) : State :=
  withOptions "rev" reverseUsage 1 arguments state fun options state =>
    let mark := if options.has '0' then '\x00' else '\n'
    let turn (content : Octets) : Octets := [mark].intercalate ((content.splitOn mark).map List.reverse)
    if options.operands = [] then
      let (content, state) := gather "rev" [] state
      state.print (turn content)
    else options.operands.foldl (fun state operand =>
      match if operand = ['-'] then .error .missing else state.read operand with
      | .ok (content, state) => state.print (turn content)
      | .error trouble =>
        fault "rev" (.ofText "cannot open " ++ operand ++ .ofText (": " ++ trouble.message)) state) state

end ComponentViews.Shell.Utility
