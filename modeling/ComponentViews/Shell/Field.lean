import ComponentViews.Shell.Glob
import ComponentViews.Shell.Place
import ComponentViews.Shell.Wildcard

/-! The fields that words expand to: what an expansion outside quotes yields is split at
separators, and a field that is a pattern stands for the paths that fit it. -/

namespace ComponentViews.Shell

/-- A piece of an expanded word: a character, one that may separate fields, a mark that
quotes leave even around nothing, or the end of an argument. -/
inductive Item where
  | char (value : Char) (quoted : Bool)
  | loose (value : Char)
  | mark
  | cut
  deriving DecidableEq, Repr

/-- Characters with whether they are quoted. -/
abbrev Field := List (Char × Bool)

namespace Field

def octets (field : Field) : Octets := field.map Prod.fst

/-- Whether a field is a pattern, in which groups may stand or not. -/
def isPattern (groups : Bool) : Field → Bool
  | [] => false
  | (c, quoted) :: rest =>
    !quoted && (c ∈ ['*', '?', '['] || groups && c ∈ ['+', '@', '!'] && rest.head? = some ('(', false)) ||
      isPattern groups rest

/-- The segments between slashes. -/
def segments : Field → List Field
  | [] => [[]]
  | (c, quoted) :: rest =>
    if c = '/' then [] :: segments rest
    else match segments rest with
      | [] => [[(c, quoted)]]
      | segment :: others => ((c, quoted) :: segment) :: others

/-- Whether a pattern fits a name. -/
def fits (state : State) (pattern : Field) (name : Octets) : Bool :=
  if state.isExtended then Wildcard.fits (state.hasSwitch "nocaseglob") (Wildcard.parse true pattern) name
  else Glyph.fits (Glyph.parse pattern) name

/-- The names in a directory, those with a dot in front only if they are asked for. -/
def namesIn (state : State) (directory : Octets) (hidden : Bool) : List Octets :=
  let names := (state.namesIn (if directory = [] then ['.'] else directory)).map Octets.ofText
  names.filter fun name => hidden || name.head? ≠ some '.'

/-- The names in a directory that fit a pattern. Names with a dot in front have to be asked for. -/
def namesFitting (state : State) (directory : Octets) (pattern : Field) : List Octets :=
  let dotted := (pattern.head?.map Prod.fst) = some '.'
  let names := namesIn state directory (dotted || state.hasSwitch "dotglob")
  let names := if dotted && !state.isExtended then ['.'] :: ['.', '.'] :: names else names
  names.filter (fits state pattern)

/-- Whether a segment stands for directories however deep. -/
def isDeep (state : State) (segment : Field) : Bool :=
  state.hasSwitch "globstar" && segment = [('*', false), ('*', false)]

/-- The paths below a directory, which comes with a slash behind it; directories among them have one
too if only those are asked for. -/
def below (state : State) (onlyDirectories : Bool) : Nat → Octets → List Octets
  | 0, _ => []
  | depth + 1, start =>
    (namesIn state start (state.hasSwitch "dotglob")).flatMap fun name =>
      let path := start ++ name
      if state.isDirectory path then
        let deeper := below state onlyDirectories depth (path ++ ['/'])
        (if onlyDirectories then path ++ ['/'] else path) :: deeper
      else if onlyDirectories then [] else [path]

/-- How deep directories are looked through. -/
def greatestDepth : Nat := 64

/-- The paths that fit segments behind a start. -/
def pathsFrom (state : State) (start : Octets) : List Field → List Octets
  | [] => [start]
  | [last] =>
    if isDeep state last then (if start = [] then [] else [start]) ++ below state false greatestDepth start
    else if isPattern state.isExtended last then (namesFitting state start last).map (start ++ ·)
    else
      let path := start ++ octets last
      if (state.entry? path).isSome then [path] else []
  | segment :: rest =>
    if isDeep state segment then
      (start :: below state true greatestDepth start).flatMap fun directory => pathsFrom state directory rest
    else if isPattern state.isExtended segment then
      (namesFitting state start segment).flatMap fun name =>
        if state.isDirectory (start ++ name) then pathsFrom state (start ++ name ++ ['/']) rest else []
    else pathsFrom state (start ++ octets segment ++ ['/']) rest

/-- The paths that a pattern stands for, in order, if it stands for any. -/
def found (state : State) (field : Field) : List Octets :=
  (pathsFrom state [] (segments field)).mergeSort Octets.atMost

/-- Whether a field stands for paths that fit it. -/
def isExpanded (state : State) (field : Field) : Bool :=
  !state.hasOption 'f' && isPattern state.isExtended field

/-- The paths that a pattern stands for, in order; one that fits none stands for itself, unless that is
switched off. -/
def paths (state : State) (field : Field) : List Octets :=
  if !isExpanded state field then [octets field]
  else match found state field with
    | [] => if state.hasSwitch "nullglob" then [] else [octets field]
    | found => found

end Field

namespace Item

/-- The characters of a value; outside quotes they may separate fields. -/
def ofValue (quoted : Bool) (value : Octets) : List Item :=
  value.map fun c => if quoted then .char c true else .loose c

/-- Arguments as fields of their own. -/
def ofArguments (quoted : Bool) (arguments : List Octets) : List Item :=
  [Item.cut].intercalate (arguments.map fun argument => (if quoted then [.mark] else []) ++ ofValue quoted argument)

/-- Fields as they are split: the finished ones and the current one, both backwards, and
whether a blank has ended the last one, so that a separator behind it ends no other. -/
structure Splitting where
  finished : List Field
  current : Option Field
  behindBlank : Bool

namespace Splitting

def finish (splitting : Splitting) : Splitting :=
  match splitting.current with
  | some field => { finished := field.reverse :: splitting.finished, current := none, behindBlank := false }
  | none => splitting

def add (splitting : Splitting) (c : Char) (quoted : Bool) : Splitting :=
  { splitting with current := some ((c, quoted) :: splitting.current.getD []), behindBlank := false }

def isBlank (c : Char) : Bool := c = ' ' ∨ c = '\t' ∨ c = '\n'

/-- Blanks among the separators end a field that has begun; each other one ends a field. -/
def step (separators : Octets) (splitting : Splitting) : Item → Splitting
  | .char c quoted => splitting.add c quoted
  | .mark => { splitting with current := some (splitting.current.getD []), behindBlank := false }
  | .cut => { splitting.finish with behindBlank := false }
  | .loose c =>
    if !separators.contains c then splitting.add c false
    else if isBlank c then
      if splitting.current.isSome then { splitting.finish with behindBlank := true } else splitting
    else if splitting.current.isSome then splitting.finish
    else if splitting.behindBlank then { splitting with behindBlank := false }
    else { splitting with finished := [] :: splitting.finished }

end Splitting

/-- The fields of an expanded word. -/
def fields (separators : Octets) (items : List Item) : List Field :=
  let start : Splitting := { finished := [], current := none, behindBlank := false }
  (items.foldl (Splitting.step separators) start).finish.finished.reverse

/-- An expanded word as one field, in which arguments are joined. -/
def field (joint : Octets) (items : List Item) : Field := items.flatMap fun
  | .char value quoted => [(value, quoted)]
  | .loose value => [(value, false)]
  | .mark => []
  | .cut => joint.map (·, false)

def octets (joint : Octets) (items : List Item) : Octets := (field joint items).octets

end Item
end ComponentViews.Shell
