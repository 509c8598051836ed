import ComponentViews.Bundle.Pattern
import ComponentViews.Dict
import ComponentViews.FileSystem
import ComponentViews.ViewError

/-! The manifest of built bundles: scripts and stylesheets by key, and every
other file by its own path. A file's key is its directory and the name that the
pattern finds in its file name; earlier directories, and in one directory
earlier files, win. The public address of a file is a host, one slash, and the
file's path. -/

namespace ComponentViews.Bundle

structure Manifest where
  scripts : Dict String
  styles : Dict String
  rest : Dict String
  deriving DecidableEq

namespace Manifest

def empty : Manifest := { scripts := .empty, styles := .empty, rest := .empty }

instance : Inhabited Manifest := ⟨empty⟩

/-- The suffixes by which the two client builds of a view are named. -/
def modernSuffix : String := "-modern"
def legacySuffix : String := "-legacy"

/-- The directory part of a relative path, with the slash at its end. -/
def directoryPart (location : Location) : String :=
  if location.dropLast.isEmpty then "" else Path.ofList location.dropLast ++ "/"

/-- Files a file of a bundle directory under its key. -/
def add (pattern : Pattern) (manifest : Manifest) (location : Location) : Manifest :=
  let path := Path.ofList location
  match pattern.capture? (location.getLastD "") with
  | some capture =>
    let key := directoryPart location ++ capture.name
    match capture.extension with
    | .script => { manifest with scripts := manifest.scripts.insertNew key path }
    | .style => { manifest with styles := manifest.styles.insertNew key path }
  | none => { manifest with rest := manifest.rest.insertNew path path }

/-- Files every file below a directory; a directory that is not there holds none. -/
def addDirectory (files : FileSystem) (pattern : Pattern) (manifest : Manifest) (directory : Path) :
    Except ViewError Manifest := do
  let locations ← (files.filesBelow directory).mapError .io
  pure (locations.foldl (add pattern) manifest)

def ofDirectories (files : FileSystem) (pattern : Pattern) (directories : List Path) : Except ViewError Manifest :=
  directories.foldlM (addDirectory files pattern) empty

def build (files : FileSystem) (directories : List Path) (pattern : String) : Except ViewError Manifest := do
  let pattern ← (Pattern.ofText pattern).mapError .configuration
  ofDirectories files pattern directories

/-- The script of the modern build, or else of a build without suffix. -/
def modernScript? (manifest : Manifest) (key : String) : Option String :=
  (manifest.scripts.get? (key ++ modernSuffix)).or (manifest.scripts.get? key)

def legacyScript? (manifest : Manifest) (key : String) : Option String :=
  manifest.scripts.get? (key ++ legacySuffix)

/-- The stylesheet of a view, or else of its modern build. -/
def viewStyle? (manifest : Manifest) (key : String) : Option String :=
  (manifest.styles.get? key).or (manifest.styles.get? (key ++ modernSuffix))

end Manifest

def trimSlashesLeft (text : List Char) : List Char := text.dropWhile (· = '/')

def trimSlashesRight (text : List Char) : List Char := (text.reverse.dropWhile (· = '/')).reverse

/-- Joins a host, which may be empty, and an asset by exactly one slash. -/
def joinUrl (host asset : String) : String :=
  String.ofList (trimSlashesRight host.toList ++ '/' :: trimSlashesLeft asset.toList)

end ComponentViews.Bundle
