import ComponentViews.Shell.Utility.Sorting

/-! Lines that stand next to others like them. -/

namespace ComponentViews.Shell.Utility

namespace Repeats

/-- Neighbours that count as the same line, one list for each run of them. -/
def runs (same : Octets → Octets → Bool) (lines : List Octets) : List (List Octets) :=
  lines.foldr (fun line found =>
    match found with
    | (first :: more) :: rest => if same line first then (line :: first :: more) :: rest else [line] :: found
    | found => [line] :: found) []

/-- Where blank lines stand among groups. -/
inductive Spacing where
  | absent
  | before
  | between
  | after
  | around
  deriving DecidableEq, Repr

/-- Groups of rows with empty rows among them. -/
def spaced (spacing : Spacing) (groups : List (List Octets)) : List Octets :=
  match spacing with
  | .absent => groups.flatten
  | .before => groups.flatMap fun group => [] :: group
  | .between => [[]].intercalate groups
  | .after => groups.flatMap fun group => group ++ [[]]
  | .around => if groups.isEmpty then [] else [] :: groups.flatMap fun group => group ++ [[]]

def usage : Usage where
  alone := ['c', 'd', 'D', 'u', 'i', 'z', 'γ', 'δ', '0', '1', '2', '3', '4', '5', '6', '7', '8', '9']
  valued := ['f', 's', 'w']
  words := [("count", 'c'), ("repeated", 'd'), ("all-repeated", 'δ'), ("skip-fields", 'f'), ("group", 'γ'),
    ("ignore-case", 'i'), ("skip-chars", 's'), ("unique", 'u'), ("zero-terminated", 'z'), ("check-chars", 'w')]
  anywhere := true
  optional := ['γ', 'δ']

/-- Ways to set groups off, by their names. -/
def groupings : List (String × Spacing) :=
  [("prepend", .before), ("append", .after), ("separate", .between), ("both", .around)]

def repeatings : List (String × Spacing) := [("none", .absent), ("prepend", .before), ("separate", .between)]

/-- The way that an option's value names, of which a start is enough. -/
def spacing? (ways : List (String × Spacing)) (usual : Spacing) (value : Octets) : Option Spacing :=
  if value = [] then some usual else (ways.find? fun way => value.isPrefixOf way.1.toList).map Prod.snd

/-- What of a line counts. -/
def considered (options : Options) (fields : Nat) (line : Octets) : Octets :=
  let line := (Sorting.skipFields none fields line).drop ((options.number? 's').getD 0)
  let line := match options.number? 'w' with
    | some width => line.take width
    | none => line
  if options.has 'i' then line.map Char.toLower else line

/-- What is wrong with the numbers that options give. -/
def badNumber? (options : Options) : Option Octets :=
  let purposes : List (Char × String) :=
    [('f', "invalid number of fields to skip"), ('s', "invalid number of bytes to skip"),
      ('w', "invalid number of bytes to compare")]
  options.found.findSome? fun (letter, value) =>
    (purposes.lookup letter).bind fun purpose =>
      if (Format.natural? value).isNone then some (value ++ .ofText (": " ++ purpose)) else none

end Repeats

open Repeats in
/-- Prints one of each run of the same line. -/
def unique (arguments : List Octets) (state : State) : State :=
  withOptions "uniq" Repeats.usage 1 arguments state fun options state =>
    let digits := (options.found.map Prod.fst).filter Name.isDigit
    let fields := ((options.number? 'f').or (Format.natural? digits)).getD 0
    let all := options.has 'D' || options.has 'δ'
    let grouping := (options.value? 'γ').map fun value => (spacing? groupings .between value, value)
    let repeating := (options.value? 'δ').map fun value => (spacing? repeatings .absent value, value)
    match badNumber? options, grouping, repeating, options.operands with
    | some message, _, _, _ => fault "uniq" message state
    | none, some (none, value), _, _ => invalidArgument "uniq" "--group" value (groupings.map fun way => [way.1]) state
    | none, _, some (none, value), _ =>
      invalidArgument "uniq" "--all-repeated" value (repeatings.map fun way => [way.1]) state
    | none, grouping, repeating, operands =>
      let grouping := grouping.bind Prod.fst
      if grouping.isSome ∧ (options.has 'c' ∨ options.has 'd' ∨ all ∨ options.has 'u') then
        hinted "uniq" (.ofText "--group is mutually exclusive with -c/-d/-D/-u") state
      else if options.has 'c' ∧ all then
        hinted "uniq" (.ofText "printing all duplicated lines and repeat counts is meaningless") state
      else match operands.drop 2 with
        | extra :: _ => hinted "uniq" (.ofText "extra operand " ++ quoted extra) state
        | [] =>
          let delimiter := if options.has 'z' then '\x00' else '\n'
          match contentOf (operands.headD ['-']) state with
          | .error trouble => unreadable "uniq" (operands.headD ['-']) trouble state
          | .ok (content, state) =>
            let counted := considered options fields
            let found := runs (fun a b => counted a = counted b) (Sorting.linesOf delimiter content)
            let chosen := found.filter fun run =>
              (!(options.has 'd' || all) || run.length > 1) && (!options.has 'u' || run.length = 1)
            let rows : List Octets := match grouping with
              | some spacing => spaced spacing found
              | none =>
                if all then spaced ((repeating.bind Prod.fst).getD .absent) chosen
                else chosen.map fun (run : List Octets) =>
                  let count := Octets.ofNat run.length
                  let line := run.headD []
                  if options.has 'c' then List.replicate (7 - count.length) ' ' ++ count ++ ' ' :: line else line
            let shown := rows.flatMap (· ++ [delimiter])
            match operands[1]? with
            | some path =>
              if path = ['-'] then state.print shown
              else match state.write path shown with
                | .ok state => state
                | .error trouble => faultOf "uniq" path trouble.message state
            | none => state.print shown

end ComponentViews.Shell.Utility
