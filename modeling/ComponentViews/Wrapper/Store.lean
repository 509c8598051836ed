import ComponentViews.Activity
import ComponentViews.FileSystem
import ComponentViews.Table
import ComponentViews.Wrapper.Skeleton

/-! The store of wrapper files: one file per view source, remembered until the
next reset. Creating a wrapper and resetting the store are activities, since
several calls may be at work on one store; each step below is atomic. -/

namespace ComponentViews.Wrapper

structure Store where
  /-- Where wrapper files go. -/
  directory : Path
  /-- A file to use for the skeleton in the stead of the built-in one. -/
  skeletonPath : Option Path
  /-- The skeleton, once a wrapper has needed it. -/
  skeleton : Option Skeleton
  /-- The wrapper of each source. -/
  memo : Table (List Path.Component) Path
  files : FileSystem
  /-- How many file names have been drawn. -/
  drawn : Nat

namespace Store

def new (files : FileSystem) (directory : Path) (skeletonPath : Option Path) : Store :=
  { directory, skeletonPath, skeleton := none, memo := .empty, files, drawn := 0 }

def find? (store : Store) (source : Path) : Option Path := store.memo.find? source.components

/-- Reads the skeleton that the store is set up with. -/
def readSkeleton (store : Store) : Except ViewError Skeleton :=
  match store.skeletonPath with
  | none => .ok .builtIn
  | some path =>
    match store.files.readText? path with
    | none => .error (.io path)
    | some source => (Skeleton.parse source).mapError .configuration

/-- Wrapper files are named by a drawn token. -/
def fileFor (store : Store) (token : Nat → String) : Path := store.directory / (token store.drawn ++ ".svelte")

inductive Creation where
  | checking (source : Path)
  | loading (source : Path)
  | writing (source : Path) (skeleton : Skeleton)
  | claiming (source own : Path)
  | discarding (own winner : Path)

namespace Creation

/-- The source whose wrapper is not yet known to be there, first looked up, then written
under a fresh name; whoever enters its file into the memo first wins, and the others
take theirs away again. -/
def step (token : Nat → String) : Creation → Store → Progress Creation (Except ViewError Path) × Store
  | .checking source, store =>
    match store.find? source with
    | some wrapper => (.finished (.ok wrapper), store)
    | none => (.running (.loading source), store)
  | .loading source, store =>
    match store.skeleton with
    | some skeleton => (.running (.writing source skeleton), store)
    | none =>
      match store.readSkeleton with
      | .ok skeleton => (.running (.writing source skeleton), { store with skeleton := some skeleton })
      | .error error => (.finished (.error error), store)
  | .writing source skeleton, store =>
    let own := store.fileFor token
    let store := { store with drawn := store.drawn + 1 }
    match store.files.write own (.text (skeleton.render source)) false with
    | .ok files => (.running (.claiming source own), { store with files })
    | .error _ => (.finished (.error (.io own)), store)
  | .claiming source own, store =>
    match store.find? source with
    | none => (.finished (.ok own), { store with memo := store.memo.insert source.components own })
    | some winner =>
      if winner.same own then (.finished (.ok winner), store) else (.running (.discarding own winner), store)
  | .discarding own winner, store =>
    match store.files.removeFile own with
    | .ok files => (.finished (.ok winner), { store with files })
    | .error _ => (.finished (.ok winner), store)

def remaining : Creation → Nat
  | .checking _ => 4
  | .loading _ => 3
  | .writing _ _ => 2
  | .claiming _ _ => 1
  | .discarding _ _ => 0

theorem remaining_step {token : Nat → String} {phase next : Creation} {store store' : Store}
    (taken : step token phase store = (.running next, store')) : next.remaining < phase.remaining := by
  cases phase <;> simp only [step] at taken <;> grind [remaining]

def activity (token : Nat → String) : Activity Store Creation (Except ViewError Path) where
  step := step token
  remaining := remaining
  decreases := remaining_step

end Creation

/-- The wrapper file of a source, made on the first request. -/
def create (token : Nat → String) (source : Path) (store : Store) : Except ViewError Path × Store :=
  (Creation.activity token).run (.checking source) store

inductive Reset where
  | forgetting
  | removing
  | recreating

namespace Reset

/-- Forgets every wrapper, then removes the directory, then makes it anew. -/
def step : Reset → Store → Progress Reset (Except ViewError Unit) × Store
  | .forgetting, store => (.running .removing, { store with memo := .empty })
  | .removing, store =>
    match store.files.removeTree store.directory with
    | (.ok (), files) => (.running .recreating, { store with files })
    | (.error .missing, files) => (.running .recreating, { store with files })
    | (.error .refused, files) => (.finished (.error (.io store.directory)), { store with files })
  | .recreating, store =>
    match store.files.makeDirectories store.directory with
    | (.ok (), files) => (.finished (.ok ()), { store with files })
    | (.error _, files) => (.finished (.error (.io store.directory)), { store with files })

def remaining : Reset → Nat
  | .forgetting => 2
  | .removing => 1
  | .recreating => 0

theorem remaining_step {phase next : Reset} {store store' : Store}
    (taken : step phase store = (.running next, store')) : next.remaining < phase.remaining := by
  cases phase <;> simp only [step] at taken <;> grind [remaining]

def activity : Activity Store Reset (Except ViewError Unit) where
  step := step
  remaining := remaining
  decreases := remaining_step

end Reset

/-- Forgets every wrapper and starts with an empty directory. -/
def reset (store : Store) : Except ViewError Unit × Store := Reset.activity.run .forgetting store

end Store
end ComponentViews.Wrapper
