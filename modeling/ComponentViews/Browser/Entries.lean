import ComponentViews.Build.Request
import ComponentViews.Bundle.Manifest
import ComponentViews.Config
import ComponentViews.View.Lookup
import ComponentViews.Wrapper.Store

/-! Entries for client builds. Every view below a directory gets a script that
hydrates its wrapper, and the builds of that script are planned: one for modern
browsers, and one for older ones where that is wanted. -/

namespace ComponentViews.Browser

open Build

/-- A planned build of a client bundle. -/
structure PlannedBuild where
  /-- The manifest key of the view. -/
  key : String
  /-- The script to build. -/
  input : Path
  /-- The name of the bundle without hash and extension. -/
  outputName : String
  legacy : Bool
  request : Request
  deriving DecidableEq

structure Entries where
  /-- The absolute scratch directory. -/
  directory : Path
  extension : String
  options : Options
  /-- Whether older browsers get builds of their own. -/
  legacy : Bool
  wrappers : Wrapper.Store

namespace Entries

def new (files : FileSystem) (scratch : Path) (extension : String) (options : Options) (legacy : Bool)
    (skeletonPath : Option Path) : Entries :=
  let directory := files.absolute scratch
  { directory, extension, options, legacy, wrappers := .new files (directory / "wrappers") skeletonPath }

def files (entries : Entries) : FileSystem := entries.wrappers.files

def withFiles (entries : Entries) (files : FileSystem) : Entries :=
  { entries with wrappers := { entries.wrappers with files } }

def sourceLines (wrapper : Path) : List String := [
  "import View from \"" ++ Text.Script.escapeText wrapper.toSpecifier ++ "\";",
  "",
  "const target = document.querySelector('.view-target') || document.body;",
  "",
  "new View(\x7b",
  "    target,",
  "    hydrate: true,",
  "    props: \x7b",
  "        globalProps: window._GLOBAL_PROPS_ || \x7b\x7d,",
  "        globalStore: window._GLOBAL_STORE_ || \x7b\x7d,",
  "        globalAssets: window._GLOBAL_ASSETS_ || \x7b\x7d,",
  "        props: window._PROPS_ || \x7b\x7d,",
  "    \x7d,",
  "\x7d);"]

/-- The script that hydrates a wrapped view with the state of its page. -/
def source (wrapper : Path) : String := String.join ((sourceLines wrapper).map (· ++ "\n"))

def suffix (legacy : Bool) : String := if legacy then Bundle.Manifest.legacySuffix else Bundle.Manifest.modernSuffix

def plan (entries : Entries) (key : String) (input : Path) (legacy : Bool) : PlannedBuild :=
  let outputName := key ++ suffix legacy
  { key, input, outputName, legacy, request := .browser entries.options input outputName legacy }

def plans (entries : Entries) (key : String) (input : Path) : List PlannedBuild :=
  entries.plan key input false :: if entries.legacy then [entries.plan key input true] else []

/-- Where the entry of a key goes. -/
def inputFor (entries : Entries) (key : String) : Path := entries.directory / (key ++ ".js")

def endsWith (ending text : String) : Bool := ending.toList.isSuffixOf text.toList

/-- The views below a directory, by the end of their file names. -/
def views (entries : Entries) (directory : Path) : Except ViewError (List Path) := do
  let locations ← (entries.files.filesBelow directory).mapError .io
  let named := locations.filter fun location => endsWith entries.extension (location.getLastD "")
  pure (named.map (FileSystem.pathBelow directory))

/-- Removes everything from earlier runs. -/
def discard (entries : Entries) : Except ViewError Unit × Entries :=
  match entries.files.removeTree entries.directory with
  | (.error .refused, files) => (.error (.io entries.directory), entries.withFiles files)
  | (_, files) => (.ok (), entries.withFiles files)

/-- Makes the directory of a file. -/
def makeParent (entries : Entries) (file : Path) : Except ViewError Unit × Entries :=
  match file.parent? with
  | none => (.ok (), entries)
  | some parent =>
    match entries.files.makeDirectories parent with
    | (.error _, files) => (.error (.io parent), entries.withFiles files)
    | (.ok (), files) => (.ok (), entries.withFiles files)

/-- Writes an entry script with the directories that it needs. -/
def writeEntry (entries : Entries) (input wrapper : Path) : Except ViewError Unit × Entries :=
  match entries.makeParent input with
  | (.error error, entries) => (.error error, entries)
  | (.ok (), entries) =>
    match entries.files.write input (.text (source wrapper)) false with
    | .error _ => (.error (.io input), entries)
    | .ok files => (.ok (), entries.withFiles files)

/-- Wraps one view, writes its entry and plans its builds. -/
def addView (token : Nat → String) (directory view : Path) (entries : Entries) :
    Except ViewError (List PlannedBuild) × Entries :=
  let key := View.key [directory] view
  match entries.wrappers.create token view with
  | (.error error, wrappers) => (.error error, { entries with wrappers })
  | (.ok wrapper, wrappers) =>
    let entries := { entries with wrappers }
    let input := entries.inputFor key
    match entries.writeEntry input wrapper with
    | (.error error, entries) => (.error error, entries)
    | (.ok (), entries) => (.ok (entries.plans key input), entries)

/-- Adds views one after another until one fails. -/
def addViews (token : Nat → String) (directory : Path) :
    List Path → Entries → Except ViewError (List PlannedBuild) × Entries
  | [], entries => (.ok [], entries)
  | view :: rest, entries =>
    match entries.addView token directory view with
    | (.error error, entries) => (.error error, entries)
    | (.ok plans, entries) =>
      match addViews token directory rest entries with
      | (.error error, entries) => (.error error, entries)
      | (.ok later, entries) => (.ok (plans ++ later), entries)

/-- Starts with an empty scratch directory and adds every view below a directory. -/
def create (token : Nat → String) (viewsDirectory : Path) (entries : Entries) :
    Except ViewError (List PlannedBuild) × Entries :=
  let directory := entries.files.absolute viewsDirectory
  match entries.discard with
  | (.error error, entries) => (.error error, entries)
  | (.ok (), entries) =>
    match entries.wrappers.reset with
    | (.error error, wrappers) => (.error error, { entries with wrappers })
    | (.ok (), wrappers) =>
      let entries := { entries with wrappers }
      match entries.views directory with
      | .error error => (.error error, entries)
      | .ok views => addViews token directory views entries

end Entries
end ComponentViews.Browser
