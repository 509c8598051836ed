import ComponentViews.FileSystem

/-! Finding the file of a view by its name. Roots are searched in order, and in
each root a file of the name comes before an index file in a directory of the
name. The key of a view is its path below the first root that holds it. -/

namespace ComponentViews.View

/-- The extension of a view's file with its dot: the name's own, else the default. -/
def extensionOf (name defaultExtension : String) : String :=
  match Path.extension? { text := name } with
  | some extension => "." ++ extension
  | none => defaultExtension

/-- The name with an extension, its own or the default. -/
def withExtension (name defaultExtension : String) : String :=
  match Path.extension? { text := name } with
  | some _ => name
  | none => name ++ defaultExtension

/-- A text without an ending, where it has that. -/
def dropEnding (ending text : List Char) : List Char :=
  if ending.isSuffixOf text then text.take (text.length - ending.length) else text

/-- The index file that stands for a file that is not there. -/
def indexFile? (file : Path) (extension : String) : Option Path := do
  let directory ← file.parent?
  let name ← file.fileName?
  let stem := String.ofList (dropEnding extension.toList name.toList)
  pure (directory / stem / ("index" ++ extension))

/-- The paths tried for a name below one root. -/
def candidatesIn (files : FileSystem) (name defaultExtension : String) (root : Path) : List Path :=
  let file := files.absolute (root / withExtension name defaultExtension)
  file :: (indexFile? file (extensionOf name defaultExtension)).toList

def candidates (files : FileSystem) (roots : List Path) (name defaultExtension : String) : List Path :=
  roots.flatMap (candidatesIn files name defaultExtension)

/-- A path where it is a regular file, or else the index file that stands for it. -/
def resolve? (files : FileSystem) (file : Path) (extension : String) : Option Path :=
  if files.isFile file then some file
  else (indexFile? file extension).filter files.isFile

/-- What a name resolves to in the first root that has something for it. -/
def lookup? (files : FileSystem) (roots : List Path) (name defaultExtension : String) : Option Path :=
  roots.findSome? fun root =>
    resolve? files (files.absolute (root / withExtension name defaultExtension)) (extensionOf name defaultExtension)

/-- The path below the first root that holds a view, by slashes and without its
extension; outside every root the file's stem. -/
def key (roots : List Path) (view : Path) : String :=
  match roots.findSome? fun root => view.below? root with
  | some components => Path.stripExtension (Path.slashed components)
  | none => view.stem?.getD ""

end ComponentViews.View
