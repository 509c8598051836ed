import ComponentViews.Shell.Utility.Options

/-! Lines put side by side: those of several files, or all lines of each one. -/

namespace ComponentViews.Shell.Utility

namespace Beside

/-- Separators that a list spells, of which some are nothing; a list may not end in a
backslash. -/
def separators? : Octets → Option (List Octets)
  | [] => some []
  | '\\' :: [] => none
  | '\\' :: c :: rest =>
    let meant : Octets := match c with
      | '0' => []
      | 'b' => ['\x08']
      | 'f' => ['\x0c']
      | 'n' => ['\n']
      | 'r' => ['\r']
      | 't' => ['\t']
      | 'v' => ['\x0b']
      | c => [c]
    (separators? rest).map (meant :: ·)
  | c :: rest => (separators? rest).map ([c] :: ·)

/-- Joins texts with separators that take turns. -/
def joinWith (separators : List Octets) : Nat → List Octets → Octets
  | _, [] => []
  | _, [last] => last
  | index, text :: rest =>
    text ++ separators.getD (index % separators.length) [] ++ joinWith separators (index + 1) rest

/-- Lines that a mark ends, the last of which may lack it. -/
def linesOf (mark : Char) (content : Octets) : List Octets :=
  let lines := content.splitOn mark
  if lines.getLast? = some [] then lines.dropLast else lines

def usage : Usage where
  alone := ['s', 'z']
  valued := ['d']
  words := [("delimiters", 'd'), ("serial", 's'), ("zero-terminated", 'z')]
  anywhere := true

/-- Every so many-th text from one on. -/
def everyNth (count first : Nat) (texts : List Octets) : List Octets :=
  (texts.zipIdx.filter fun (_, index) => index % count = first).map Prod.fst

/-- The columns of operands. Those that stand for the input take its lines by turns. -/
def columns (operands : List Octets) (input : List Octets)
    (contents : List (Octets × List Octets)) : List (List Octets) :=
  let turns := operands.count ['-']
  (operands.foldl (fun (columns, turn) operand =>
    if operand = ['-'] then (columns ++ [everyNth turns turn input], turn + 1)
    else (columns ++ [(contents.lookup operand).getD []], turn)) (([] : List (List Octets)), 0)).1

/-- Prints lines of several files beside each other, once all files are there. -/
def parallel (separators : List Octets) (mark : Char) (operands : List Octets) (state : State) : State :=
  let missing := operands.find? fun operand => operand ≠ ['-'] && match state.read operand with
    | .error .isDirectory => false
    | .error _ => true
    | .ok _ => false
  match missing with
  | some operand => forEachContent "paste" [operand] state fun _ _ state => state
  | none =>
    let start : List (Octets × List Octets) × State := ([], state)
    let (contents, state) := operands.foldl (fun (contents, state) operand =>
      if (contents.lookup operand).isSome then (contents, state)
      else match contentOf operand state with
        | .ok (content, state) => (contents ++ [(operand, linesOf mark content)], state)
        | .error trouble => (contents, unreadable "paste" operand trouble state)) start
    let found := columns operands ((contents.lookup ['-']).getD []) contents
    let rows := (List.range ((found.map List.length).foldl max 0)).map fun index =>
      joinWith separators 0 (found.map fun lines => lines.getD index []) ++ [mark]
    state.print rows.flatten

/-- Prints all lines of each file beside each other. -/
def serial (separators : List Octets) (mark : Char) (operands : List Octets) (state : State) : State :=
  forEachContent "paste" operands state fun _ content state =>
    state.print (joinWith separators 0 (linesOf mark content) ++ [mark])

end Beside

open Beside in
/-- Puts lines side by side, those of several files or all of one. -/
def paste (arguments : List Octets) (state : State) : State :=
  withOptions "paste" Beside.usage 1 arguments state fun options state =>
    let list := (options.value? 'd').getD ['\t']
    let mark := if options.has 'z' then '\x00' else '\n'
    let operands := if options.operands = [] then [['-']] else options.operands
    match separators? list with
    | none => fault "paste" (.ofText "delimiter list ends with an unescaped backslash: " ++ list) state
    | some separators =>
      let separators := if separators = [] then [[]] else separators
      if options.has 's' then serial separators mark operands state else parallel separators mark operands state

end ComponentViews.Shell.Utility
