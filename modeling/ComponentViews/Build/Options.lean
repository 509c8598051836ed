import ComponentViews.Dict

/-! Options of a build, and what an environment's name implies for them. -/

namespace ComponentViews.Build

structure Options where
  env : String
  dev : Bool
  cache : Bool
  hydratable : Bool
  /-- Texts to replace in sources, by what they replace. -/
  replace : Dict String
  /-- Preprocessors by name, in their order. -/
  preprocess : List String
  /-- Packages to link once, besides those of the framework. -/
  dedupe : List String
  deriving DecidableEq

def defaultEnv : String := "development"

def isDevEnv (env : String) : Bool := env == "development" || env == "testing"

/-- Development and testing build for debugging; anything else caches what it builds. -/
def Options.forEnv (env : String) : Options :=
  { env, dev := isDevEnv env, cache := !isDevEnv env, hydratable := true, replace := .empty, preprocess := [],
    dedupe := [] }

/-- The packages of the framework, which must be linked once. -/
def frameworkPackages : List String :=
  ["svelte", "svelte/animate", "svelte/easing", "svelte/internal", "svelte/motion", "svelte/store",
    "svelte/transition"]

/-- Adds a package that is not listed yet. -/
def addPackage (packages : List String) (package : String) : List String :=
  if packages.contains package then packages else packages ++ [package]

/-- The packages of the framework and then the others, each once. -/
def dedupeList (extra : List String) : List String := extra.foldl addPackage frameworkPackages

end ComponentViews.Build
