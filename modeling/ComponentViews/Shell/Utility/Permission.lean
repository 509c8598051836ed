import ComponentViews.Shell.Utility.Tree

/-! Utilities that change the permissions of files, and to whom files belong. -/

namespace ComponentViews.Shell.Utility

def modeUsage : Usage where
  alone := ['R', 'v', 'c', 'f', 'h', 'H', 'L', 'P', 'π']
  valued := ['ρ']
  words := [("recursive", 'R'), ("verbose", 'v'), ("changes", 'c'), ("silent", 'f'), ("quiet", 'f'),
    ("reference", 'ρ'), ("preserve-root", 'π'), ("no-preserve-root", 'π')]
  anywhere := true

/-- Whether an argument takes permissions away, and is no option. -/
def takesAway (argument : Octets) : Bool :=
  match argument with
  | '-' :: c :: _ => c ∈ ['r', 'w', 'x', 'X', 's', 't', 'u', 'g', 'o', '0', '1', '2', '3', '4', '5', '6', '7', ',']
  | _ => false

/-- Paths with all below those that are directories. -/
def withBelow (state : State) : Nat → Octets → List Octets
  | 0, path => [path]
  | fuel + 1, path =>
    if state.isDirectory path ∧ (state.link? path).isNone then
      path :: (state.namesIn path).flatMap fun name => withBelow state fuel (joined path (.ofText name))
    else [path]

/-- Changes the permissions of one file. -/
def changeOne (options : Options) (change : Bool → Nat → Option Nat) (path : Octets) (state : State) : State :=
  match state.reached path with
  | .error trouble =>
    if options.has 'f' then state.withStatus 1
    else if (state.link? path).isSome then
      fault "chmod" (.ofText "cannot operate on dangling symlink " ++ named path) state
    else refuse "chmod" "cannot access" path trouble state
  | .ok (location, standing) =>
    let old := state.modeAt location
    match change (standing = .directory) old with
    | none => state
    | some mode =>
      let picture (mode : Nat) : Octets := Mode.digits 4 mode ++ [' ', '('] ++ Mode.image mode ++ [')']
      let told : Octets := if mode ≠ old then
          if options.has 'v' ∨ options.has 'c' then
            .ofText "mode of " ++ named path ++ .ofText " changed from " ++ picture old ++ .ofText " to " ++ picture mode ++ ['\n']
          else []
        else if options.has 'v' then .ofText "mode of " ++ named path ++ .ofText " retained as " ++ picture mode ++ ['\n']
        else []
      (state.setModeAt location mode).print told

def changeMode (arguments : List Octets) (state : State) : State :=
  let away := arguments.filter takesAway
  withOptions "chmod" modeUsage 1 (arguments.filter fun argument => !takesAway argument) state fun options state =>
    let reference := options.value? 'ρ'
    let (mode, operands) := match reference, away with
      | some _, _ => ([], options.operands)
      | none, [] => (options.operands.headD [], options.operands.drop 1)
      | none, away => ([','].intercalate away, options.operands)
    let change : Except Octets (Bool → Nat → Option Nat) := match reference with
      | some path =>
        match state.mode? path with
        | some mode => .ok fun _ _ => some mode
        | none => .error (.ofText "failed to get attributes of " ++ named path ++
            .ofText (": " ++ Trouble.missing.message))
      | none => .ok fun isDirectory old => Mode.changed? state.process.mask isDirectory mode old
    match change with
    | .error message => fault "chmod" message state
    | .ok change =>
      if reference.isNone ∧ mode = [] then missingOperand "chmod" state
      else if operands = [] then
        if reference.isSome then missingOperand "chmod" state
        else hinted "chmod" (.ofText "missing operand after " ++ quoted mode) state
      else if (change false 0).isNone then hinted "chmod" (.ofText "invalid mode: " ++ quoted mode) state
      else
        let paths := if options.has 'R' then operands.flatMap (withBelow state greatestDepth) else operands
        paths.foldl (fun state path => changeOne options change path state) state

/-- Gives files to somebody, which nobody notices. -/
def changeOwner (command : String) (arguments : List Octets) (state : State) : State :=
  withOptions command modeUsage 1 arguments state fun options state =>
    let operands := if options.has 'ρ' then options.operands else options.operands.drop 1
    match options.operands with
    | [] => missingOperand command state
    | [owner] =>
      if options.has 'ρ' then state else hinted command (.ofText "missing operand after " ++ quoted owner) state
    | _ => operands.foldl (fun state path =>
        match state.standing path with
        | .ok _ => state
        | .error trouble => refuse command "cannot access" path trouble state) state

end ComponentViews.Shell.Utility
