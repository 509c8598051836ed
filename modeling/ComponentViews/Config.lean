import ComponentViews.Build.Options
import ComponentViews.Bundle.Pattern
import ComponentViews.FileSystem
import ComponentViews.Json.Decode
import ComponentViews.ViewError

/-! The configuration of an engine and its JSON form. Every field may be left out.
What depends on the environment's name is derived when it is asked for. -/

namespace ComponentViews

open Json (Document Record)

structure Config where
  /-- Where views are looked for, in order. -/
  viewsDirs : List Path
  /-- The extension of views whose name has none. -/
  extension : String
  /-- Where client bundles are, earlier ones first. -/
  bundlesDirs : List Path
  bundlesPattern : String
  /-- The public address of the bundles. -/
  bundlesHost : String
  /-- The environment's name, else the process environment decides. -/
  env : Option String
  dev : Option Bool
  cache : Option Bool
  hydratable : Bool
  /-- Whether there are bundles for older browsers. -/
  legacy : Bool
  replace : Dict String
  preprocess : List String
  dedupe : List String
  templatePath : Option Path
  wrapperTemplatePath : Option Path
  scratchDir : Path
  deriving DecidableEq

namespace Config

def defaultExtension : String := ".svelte"
def defaultScratchDir : String := ".svelte-view-engine"

def ofDefaults : Config where
  viewsDirs := [{ text := "views" }]
  extension := defaultExtension
  bundlesDirs := [{ text := "public/dist" }]
  bundlesPattern := Bundle.Pattern.defaultText
  bundlesHost := ""
  env := none
  dev := none
  cache := none
  hydratable := true
  legacy := true
  replace := .empty
  preprocess := []
  dedupe := []
  templatePath := none
  wrapperTemplatePath := none
  scratchDir := { text := defaultScratchDir }

instance : Inhabited Config := ⟨ofDefaults⟩

/-- The configured environment, or else that of the process, if it names one. -/
def envName (config : Config) (processEnv : Option String) : String :=
  match config.env, processEnv with
  | some env, _ => env
  | none, some env => if env = "" then Build.defaultEnv else env
  | none, none => Build.defaultEnv

def isDev (config : Config) (processEnv : Option String) : Bool :=
  config.dev.getD (Build.isDevEnv (config.envName processEnv))

/-- The options of every build, unless a call overrides them. -/
def buildDefaults (config : Config) (processEnv : Option String) : Build.Options where
  env := config.envName processEnv
  dev := config.isDev processEnv
  cache := config.cache.getD !config.isDev processEnv
  hydratable := config.hydratable
  replace := config.replace
  preprocess := config.preprocess
  dedupe := config.dedupe

/-- Where wrappers for the server go. -/
def serverScratch (config : Config) : Path := config.scratchDir / "server"

/-- Where entries for browsers go. -/
def browserScratch (config : Config) : Path := config.scratchDir / "browser"

def fieldNames : List String :=
  ["viewsDirs", "extension", "bundlesDirs", "bundlesPattern", "bundlesHost", "env", "dev", "cache", "hydratable",
    "legacy", "replace", "preprocess", "dedupe", "templatePath", "wrapperTemplatePath", "scratchDir"]

def pathsToJson (paths : List Path) : Json := .ofTexts (paths.map Path.text)

def toJson (config : Config) : Json :=
  .object [("viewsDirs", pathsToJson config.viewsDirs), ("extension", .text config.extension),
    ("bundlesDirs", pathsToJson config.bundlesDirs), ("bundlesPattern", .text config.bundlesPattern),
    ("bundlesHost", .text config.bundlesHost), ("env", .ofText? config.env), ("dev", .ofFlag? config.dev),
    ("cache", .ofFlag? config.cache), ("hydratable", .bool config.hydratable), ("legacy", .bool config.legacy),
    ("replace", .ofTextDict config.replace), ("preprocess", .ofTexts config.preprocess),
    ("dedupe", .ofTexts config.dedupe), ("templatePath", .ofText? (config.templatePath.map Path.text)),
    ("wrapperTemplatePath", .ofText? (config.wrapperTemplatePath.map Path.text)),
    ("scratchDir", .text config.scratchDir.text)]

def path? (document : Document) : Option Path := document.text?.map fun text => { text }

def decode? (document : Document) : Option Config := do
  let record ← Record.ofDocument? fieldNames document
  let viewsDirs ← record.default? "viewsDirs" (Document.list? path?) ofDefaults.viewsDirs
  let extension ← record.default? "extension" Document.text? ofDefaults.extension
  let bundlesDirs ← record.default? "bundlesDirs" (Document.list? path?) ofDefaults.bundlesDirs
  let bundlesPattern ← record.default? "bundlesPattern" Document.text? ofDefaults.bundlesPattern
  let bundlesHost ← record.default? "bundlesHost" Document.text? ofDefaults.bundlesHost
  let env ← record.default? "env" (Document.optional? Document.text?) ofDefaults.env
  let dev ← record.default? "dev" (Document.optional? Document.bool?) ofDefaults.dev
  let cache ← record.default? "cache" (Document.optional? Document.bool?) ofDefaults.cache
  let hydratable ← record.default? "hydratable" Document.bool? ofDefaults.hydratable
  let legacy ← record.default? "legacy" Document.bool? ofDefaults.legacy
  let replace ← record.default? "replace" (Document.dict? Document.text?) ofDefaults.replace
  let preprocess ← record.default? "preprocess" Document.texts? ofDefaults.preprocess
  let dedupe ← record.default? "dedupe" Document.texts? ofDefaults.dedupe
  let templatePath ← record.default? "templatePath" (Document.optional? path?) ofDefaults.templatePath
  let wrapperTemplatePath ←
    record.default? "wrapperTemplatePath" (Document.optional? path?) ofDefaults.wrapperTemplatePath
  let scratchDir ← record.default? "scratchDir" path? ofDefaults.scratchDir
  pure {
    viewsDirs, extension, bundlesDirs, bundlesPattern, bundlesHost, env, dev, cache, hydratable, legacy, replace,
    preprocess, dedupe, templatePath, wrapperTemplatePath, scratchDir }

/-- The configuration that a JSON text writes. -/
def ofText (source : String) : Except ViewError Config :=
  match (Document.read? source.toList).bind decode? with
  | some config => .ok config
  | none => .error (.configuration .unreadable)

/-- The configuration that a file writes. -/
def ofFile (files : FileSystem) (path : Path) : Except ViewError Config :=
  match files.readText? path with
  | some source => ofText source
  | none => .error (.io path)

end Config
end ComponentViews
