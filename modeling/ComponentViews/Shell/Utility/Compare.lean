import ComponentViews.Shell.Utility.Showing
import ComponentViews.Shell.Utility.Size

/-! Whether two files are the same, and where they first differ. -/

namespace ComponentViews.Shell.Utility

namespace Compare

def usage : Usage where
  alone := ['s', 'l', 'b']
  valued := ['n', 'i']
  words := [("silent", 's'), ("quiet", 's'), ("verbose", 'l'), ("print-bytes", 'b'), ("bytes", 'n'), ("ignore-initial", 'i')]
  anywhere := true

def octal (c : Char) : Octets :=
  let digits := Nat.toDigits 8 c.toNat
  List.replicate (3 - digits.length) ' ' ++ digits

def number (width value : Nat) : Octets :=
  let digits := Octets.ofNat value
  List.replicate (width - digits.length) ' ' ++ digits

/-- How much of each file is passed over. -/
def skips? (text : Octets) : Option (Nat × Nat) :=
  let first := text.takeWhile (· ≠ ':')
  match text.drop first.length with
  | [] => (size? first).map fun count => (count, count)
  | _ :: second => (size? first).bind fun count => (size? second).map (count, ·)

/-- The places where two contents differ, each with the octets there. -/
def differences : Nat → Octets → Octets → List (Nat × Char × Char)
  | place, a :: first, b :: second =>
    if a = b then differences (place + 1) first second else (place, a, b) :: differences (place + 1) first second
  | _, _, _ => []

/-- The complaint that one of two contents is the start of the other. -/
def shortMessage (name content : Octets) (all : Bool) : Octets :=
  let lines := content.count '\n'
  let place := .ofText " after byte " ++ .ofNat content.length
  .ofText "EOF on " ++ name ++
    if content = [] then .ofText " which is empty"
    else if all then place
    else if content.getLast? = some '\n' then place ++ .ofText ", line " ++ .ofNat lines
    else place ++ .ofText ", in line " ++ .ofNat (lines + 1)

/-- Tells where two contents differ. -/
def tell (options : Options) (names : Octets × Octets) (width : Nat) (first second : Octets) (state : State) : State :=
  let all := options.has 'l'
  let length := min first.length second.length
  let state := if all then
      state.print (Octets.ofLines ((differences 1 first second).map fun (place, a, b) =>
        let shown (c : Char) : Octets := if options.has 'b' then ' ' :: caretForm c else []
        let left := shown a
        let pad := if options.has 'b' then List.replicate (5 - left.length) ' ' else []
        number width place ++ ' ' :: octal a ++ left ++ pad ++ ' ' :: octal b ++ shown b))
    else state
  let same := ((first.zip second).takeWhile fun (a, b) => a = b).length
  let state := if first = second then state else state.withStatus 1
  if options.has 's' ∨ first = second then state
  else if all ∨ same = length then
    if first.length = second.length then state
    else
      let short := if first.length < second.length then names.1 else names.2
      (complain "cmp" (shortMessage short (first.take length) all) state)
  else
    match first[same]?, second[same]? with
    | some a, some b =>
      let line := (first.take same).count '\n' + 1
      let unit := if options.has 'b' then "byte " else "char "
      let octets : Octets := if options.has 'b' then
          .ofText " is " ++ octal a ++ ' ' :: caretForm a ++ ' ' :: octal b ++ ' ' :: caretForm b
        else []
      state.print (names.1 ++ ' ' :: names.2 ++ .ofText (" differ: " ++ unit) ++ .ofNat (same + 1) ++ .ofText ", line " ++
        .ofNat line ++ octets ++ ['\n'])
    | _, _ => state

end Compare

open Compare in
/-- Tells whether two files are the same, and where they first differ. -/
def compareFiles (arguments : List Octets) (state : State) : State :=
  let misused (message : Octets) (state : State) : State := helped "cmp" message state
  let invalid (option : String) (value : Octets) (state : State) : State :=
    misused (.ofText ("invalid --" ++ option ++ " value ") ++ quoted value) state
  match usage.read arguments with
  | .error misuse => misused misuse.cause state
  | .ok options =>
    let state := state.succeed
    let starts := (options.operands.drop 2).take 2
    let badSkip := (options.values 'i').find? fun value => (skips? value).isNone
    let badCount := (options.values 'n').find? fun value => (size? value).isNone
    if let some value := badSkip then invalid "ignore-initial" value state
    else if let some value := badCount then invalid "bytes" value state
    else if options.has 's' ∧ options.has 'l' then misused (.ofText "options -l and -s are incompatible") state
    else if options.operands = [] then
      misused (.ofText "missing operand after " ++ quoted (arguments.getLast?.getD (.ofText "cmp"))) state
    else if let some value := starts.find? fun value => (size? value).isNone then invalid "ignore-initial" value state
    else if let some extra := options.operands[4]? then misused (.ofText "extra operand " ++ quoted extra) state
    else
      let asked := ((options.value? 'i').bind skips?).getD (0, 0)
      let skip := (max asked.1 ((starts[0]?.bind size?).getD 0), max asked.2 ((starts[1]?.bind size?).getD 0))
      let limit := (options.value? 'n').bind size?
      let left := options.operands.headD []
      let right := (options.operands[1]?).getD ['-']
      let isThere (name : Octets) : Option Trouble :=
        if name = ['-'] ∨ state.isDirectory name then none else match state.read name with
          | .ok _ => none
          | .error trouble => some trouble
      match isThere left, isThere right with
      | some trouble, _ => (plainFaultOf "cmp" left trouble.message state).withStatus 2
      | none, some trouble => (plainFaultOf "cmp" right trouble.message state).withStatus 2
      | none, none =>
        if left = right ∧ skip.1 = skip.2 then state
        else match contentOf left state with
          | .error trouble => (plainFaultOf "cmp" left trouble.message state).withStatus 2
          | .ok (first, state) =>
            match contentOf right state with
            | .error trouble => (plainFaultOf "cmp" right trouble.message state).withStatus 2
            | .ok (second, state) =>
              let cut (content : Octets) : Octets := limit.elim content content.take
              let sized (name content : Octets) : Option Nat := if state.isFile name then some content.length else none
              let first := first.drop skip.1
              let second := second.drop skip.2
              let sizes := [sized left first, sized right second, limit].filterMap id
              let most := sizes.foldl min (Nat.pow 2 63 - 1)
              tell options (left, right) (Octets.ofNat most).length (cut first) (cut second) state

end ComponentViews.Shell.Utility
