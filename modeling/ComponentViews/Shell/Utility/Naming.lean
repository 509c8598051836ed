import ComponentViews.Shell.Entry
import ComponentViews.Shell.Utility.Options

/-! Utilities that take paths apart, and the ones that resolve them. -/

namespace ComponentViews.Shell.Utility

def isSlash (c : Char) : Bool := c = '/'

/-- The last segment of a path, without a given end. -/
def lastName (ending path : Octets) : Octets :=
  let trimmed := path.dropEndWhile isSlash
  if trimmed = [] then path.take 1
  else
    let name := (trimmed.reverse.takeWhile fun c => !isSlash c).reverse
    let isEnded := ending ≠ [] ∧ ending ≠ name ∧ ending.isSuffixOf name
    if isEnded then name.take (name.length - ending.length) else name

/-- The path without its last segment. -/
def directoryOf (path : Octets) : Octets :=
  let trimmed := path.dropEndWhile isSlash
  let above := trimmed.dropEndWhile fun c => !isSlash c
  let directory := above.dropEndWhile isSlash
  if directory ≠ [] then directory
  else if above ≠ [] ∨ (trimmed = [] ∧ path ≠ []) then ['/']
  else ['.']

def basename (arguments : List Octets) (state : State) : State :=
  let usage : Usage :=
    { alone := ['a', 'z'], valued := ['s'], words := [("multiple", 'a'), ("suffix", 's')], anywhere := false }
  withOptions "basename" usage 1 arguments state fun options state =>
      let ending := options.value? 's'
      match options.operands with
      | [] => missingOperand "basename" state
      | operands =>
        if options.has 'a' ∨ ending.isSome then
          state.print (Octets.ofLines (operands.map (lastName (ending.getD []))))
        else match operands with
          | [path] => state.print (lastName [] path ++ ['\n'])
          | [path, ending] => state.print (lastName ending path ++ ['\n'])
          | _ => hinted "basename" (.ofText "extra operand " ++ quoted ((operands[2]?).getD [])) state

def dirname (arguments : List Octets) (state : State) : State :=
  withOptions "dirname" { alone := ['z'], valued := [], words := [], anywhere := true } 1 arguments state
    fun options state =>
      if options.operands = [] then missingOperand "dirname" state
      else state.print (Octets.ofLines (options.operands.map directoryOf))

/-- The path of a location. -/
def pathTo (location : Location) : Octets := .ofText (FileSystem.pathTo location).text

/-- Where a path leads when it is resolved, if its directory exists. -/
def resolved? (path : Octets) (mustExist : Bool) (state : State) : Except Trouble Octets :=
  if state.isCircular path then .error .circular
  else match state.files.locate (state.pathOf (if path.length > 1 then path.dropEndWhile isSlash else path)) with
  | .error denial => .error (.ofDenial denial)
  | .ok (.removed _) => .error .missing
  | .ok (.standing location) =>
    if (state.files.tree.get? location).isSome then .ok (pathTo location)
    else if mustExist then .error .missing
    else if state.files.tree.get? location.dropLast = some .directory then .ok (pathTo location)
    else .error .missing

/-- The path of a location as seen from a directory. -/
def relativePath (directory location : Location) : Octets :=
  let shared := ((directory.zip location).takeWhile fun (a, b) => a = b).length
  let up := (directory.drop shared).map fun _ => ".."
  .ofText (match up ++ location.drop shared with
    | [] => "."
    | names => "/".intercalate names)

/-- Where a path leads, whatever is there. -/
def imagined (path : Octets) (follow : Bool) (state : State) : Octets :=
  let state := if follow then state else { state with world := { state.world with links := .empty } }
  match state.linked? path true with
  | some location => pathTo location
  | none => path

def resolutionUsage : Usage where
  alone := ['e', 'f', 'm', 'n', 'q', 's', 'v', 'z', 'P', 'L']
  valued := ['τ', 'β']
  words := [("canonicalize", 'f'), ("canonicalize-existing", 'e'), ("canonicalize-missing", 'm'), ("no-newline", 'n'),
    ("quiet", 'q'), ("silent", 's'), ("verbose", 'v'), ("zero", 'z'), ("physical", 'P'), ("logical", 'L'),
    ("strip", 's'), ("no-symlinks", 's'), ("relative-to", 'τ'), ("relative-base", 'β')]
  anywhere := true

/-- Prints where paths lead. -/
def realpath (arguments : List Octets) (state : State) : State :=
  withOptions "realpath" resolutionUsage 1 arguments state fun options state =>
    let locationOf (path : Octets) : Location := ((path.splitOn '/').filter (· ≠ [])).map Octets.toText
    let base := (options.value? 'β').map fun path => locationOf (imagined path true state)
    let start := ((options.value? 'τ').map fun path => locationOf (imagined path true state)).or base
    let shown (path : Octets) : Octets :=
      let location := locationOf path
      let isBelow (base : Location) : Bool := (FileTree.relative? base location).isSome
      match start with
      | none => path
      | some start => if base.all isBelow then relativePath start location else path
    if options.operands = [] then missingOperand "realpath" state
    else options.operands.foldl (fun state operand =>
      let found : Except Trouble Octets :=
        if operand = [] then .error .missing
        else if options.has 'm' then .ok (imagined operand true state)
        else if options.has 's' then
          (resolved? operand (options.has 'e') state).map fun _ => imagined operand false state
        else resolved? operand (options.has 'e') state
      match found with
      | .ok path => state.print (shown path ++ [if options.has 'z' then '\x00' else '\n'])
      | .error trouble =>
        if options.has 'q' then state.withStatus 1 else faultOf "realpath" operand trouble.message state) state

/-- Prints what links stand for, or where paths lead. Nothing is said about those that lead nowhere,
unless that is asked for. -/
def readlink (arguments : List Octets) (state : State) : State :=
  withOptions "readlink" resolutionUsage 1 arguments state fun options state =>
    let ending : Octets := if options.has 'z' then ['\x00'] else if options.has 'n' ∧ options.operands.length = 1 then []
      else ['\n']
    if options.operands = [] then missingOperand "readlink" state
    else options.operands.foldl (fun state operand =>
      let found : Except Trouble Octets :=
        if options.has 'm' then .ok (imagined operand true state)
        else if options.has 'f' ∨ options.has 'e' then resolved? operand (options.has 'e') state
        else match state.link? operand with
          | some (_, target) => .ok target
          | none => .error (if (state.entry? operand).isSome then .invalid else .missing)
      match found with
      | .ok path => state.print (path ++ ending)
      | .error trouble =>
        if options.has 'v' then faultOf "readlink" operand trouble.message state else state.withStatus 1) state

def workingDirectory (state : State) : State := state.succeed.print (state.directoryName ++ ['\n'])

end ComponentViews.Shell.Utility
