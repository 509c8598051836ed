/-! Paths as texts, read by their segments between slashes. Two paths are the
same path when their components agree: empty segments and inner `.` segments do
not count, while `..` stands for itself and is never resolved by the text alone. -/

namespace ComponentViews

structure Path where
  text : String
  deriving DecidableEq, Repr

namespace Path

instance : Inhabited Path := ⟨{ text := "" }⟩

inductive Component where
  | root
  | here
  | up
  | name (value : String)
  deriving DecidableEq, Repr

/-- The segments between slashes, one more than there are slashes. -/
def splitSlashes : List Char → List (List Char)
  | [] => [[]]
  | c :: rest =>
    if c = '/' then [] :: splitSlashes rest
    else match splitSlashes rest with
      | [] => [[c]]
      | segment :: segments => (c :: segment) :: segments

def segments (path : Path) : List String := (splitSlashes path.text.toList).map String.ofList

def isAbsolute (path : Path) : Bool := path.text.toList.head? = some '/'

def segmentComponent (segment : String) : Option Component :=
  if segment = "" ∨ segment = "." then none
  else if segment = ".." then some .up
  else some (.name segment)

/-- A `.` counts only at the start of a relative path. -/
def ofSegments : List String → List Component
  | "." :: rest => .here :: rest.filterMap segmentComponent
  | segments => segments.filterMap segmentComponent

def components (path : Path) : List Component :=
  if path.isAbsolute then .root :: path.segments.filterMap segmentComponent else ofSegments path.segments

/-- Both spell the same path. -/
def same (left right : Path) : Bool := left.components == right.components

/-- An absolute path replaces the one in front of it. -/
def join (base path : Path) : Path :=
  if path.isAbsolute then path
  else if base.text = "" ∨ base.text.toList.getLast? = some '/' then { text := base.text ++ path.text }
  else { text := base.text ++ "/" ++ path.text }

instance : HDiv Path String Path := ⟨fun base name => base.join { text := name }⟩

/-- The last component, when that is a name. -/
def fileName? (path : Path) : Option String :=
  match path.components.getLast? with
  | some (.name value) => some value
  | _ => none

/-- Segments without those at the end that stand for no component. -/
def trimEnd (segments : List String) : List String :=
  (segments.reverse.dropWhile fun segment => (segmentComponent segment).isNone).reverse

/-- The segments of a relative path without the ones at its end that stand for no component. -/
def trimRelative : List String → List String
  | "." :: rest => "." :: trimEnd rest
  | segments => trimEnd segments

def ofList (segments : List String) : String := "/".intercalate segments

/-- The path without its last component. -/
def parent? (path : Path) : Option Path :=
  if path.isAbsolute then
    match trimEnd (path.segments.drop 1) with
    | [] => none
    | segments => some { text := "/" ++ ofList (trimEnd segments.dropLast) }
  else
    match trimRelative path.segments with
    | [] => none
    | segments => some { text := ofList (trimRelative segments.dropLast) }

/-- The parts of a text before and after its last dot. -/
def splitLastDot (text : List Char) : Option (List Char × List Char) :=
  match text with
  | [] => none
  | c :: rest =>
    match splitLastDot rest with
    | some (before, after) => some (c :: before, after)
    | none => if c = '.' then some ([], rest) else none

/-- A file name's stem and extension; a dot at the start makes no extension. -/
def splitName (name : String) : String × Option String :=
  match splitLastDot name.toList with
  | some (c :: before, after) => (String.ofList (c :: before), some (String.ofList after))
  | _ => (name, none)

def extension? (path : Path) : Option String := path.fileName?.bind fun name => (splitName name).2

def stem? (path : Path) : Option String := path.fileName?.map fun name => (splitName name).1

/-- What is left of a list behind a start that it has. -/
def dropStart? {α : Type} [DecidableEq α] : List α → List α → Option (List α)
  | [], rest => some rest
  | _ :: _, [] => none
  | a :: start, b :: rest => if a = b then dropStart? start rest else none

/-- The components below a directory. -/
def below? (path directory : Path) : Option (List Component) := dropStart? directory.components path.components

def Component.name? : Component → Option String
  | .name value => some value
  | _ => none

/-- The names among components, joined by slashes. -/
def slashed (components : List Component) : String := ofList (components.filterMap Component.name?)

/-- The names of a path, joined by slashes. -/
def toSlash (path : Path) : String := slashed path.components

/-- A key without the extension of its last segment. -/
def stripExtension (key : String) : String :=
  match (splitSlashes key.toList).reverse with
  | [] => key
  | last :: front => ofList ((front.reverse.map String.ofList) ++ [(splitName (String.ofList last)).1])

/-- How a path names itself in generated code, with slashes for backslashes. -/
def toSpecifier (path : Path) : String :=
  String.ofList (path.text.toList.map fun c => if c = '\\' then '/' else c)

end Path
end ComponentViews
