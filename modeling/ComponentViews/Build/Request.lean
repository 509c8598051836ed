import ComponentViews.Build.AppModules
import ComponentViews.Build.Options
import ComponentViews.Json.Decode
import ComponentViews.Json.Writer
import ComponentViews.Path

/-! Requests to the toolchain and their JSON form. A server request asks for a
module that renders, a browser request for a script that hydrates. -/

namespace ComponentViews.Build

open Json (Document Record)

inductive Target where
  | server
  | browser
  deriving DecidableEq, Repr

/-- Module formats of a built chunk. -/
inductive Format where
  | cjs
  | esm
  | iife
  deriving DecidableEq, Repr

namespace Target

def name : Target → String
  | .server => "server"
  | .browser => "browser"

def toJson (target : Target) : Json := .text target.name

def decode? : Document → Option Target := Document.choice? [("server", .server), ("browser", .browser)]

/-- What the component compiler generates for a target. -/
def generate : Target → String
  | .server => "ssr"
  | .browser => "dom"

end Target

namespace Format

def name : Format → String
  | .cjs => "cjs"
  | .esm => "esm"
  | .iife => "iife"

def toJson (format : Format) : Json := .text format.name

def decode? : Document → Option Format := Document.choice? [("cjs", .cjs), ("esm", .esm), ("iife", .iife)]

end Format

/-- Options of the component compiler. -/
structure ComponentOptions where
  generate : String
  hydratable : Bool
  dev : Bool
  preserveComments : Bool
  preserveWhitespace : Bool
  css : Bool
  deriving DecidableEq, Repr

namespace ComponentOptions

/-- Comments and blanks are kept for debugging, and styles are never injected by components. -/
def forTarget (target : Target) (dev hydratable : Bool) : ComponentOptions :=
  { generate := target.generate, hydratable, dev, preserveComments := dev, preserveWhitespace := dev, css := false }

def toJson (options : ComponentOptions) : Json :=
  .object [("generate", .text options.generate), ("hydratable", .bool options.hydratable), ("dev", .bool options.dev),
    ("preserveComments", .bool options.preserveComments), ("preserveWhitespace", .bool options.preserveWhitespace),
    ("css", .bool options.css)]

def fieldNames : List String := ["generate", "hydratable", "dev", "preserveComments", "preserveWhitespace", "css"]

def decode? (document : Document) : Option ComponentOptions := do
  let record ← Record.ofDocument? fieldNames document
  let generate ← record.required? "generate" Document.text?
  let hydratable ← record.required? "hydratable" Document.bool?
  let dev ← record.required? "dev" Document.bool?
  let preserveComments ← record.required? "preserveComments" Document.bool?
  let preserveWhitespace ← record.required? "preserveWhitespace" Document.bool?
  let css ← record.required? "css" Document.bool?
  pure { generate, hydratable, dev, preserveComments, preserveWhitespace, css }

end ComponentOptions

structure Request where
  entry : Path
  target : Target
  format : Format
  replace : Dict String
  preprocess : List String
  component : ComponentOptions
  dedupe : List String
  /-- Modules that no file holds, by the name under which they are imported. -/
  virtualModules : Dict String
  sourcemap : Bool
  /-- The name of a browser build's file, without its extension. -/
  outputName : Option String
  /-- Build for older browsers. -/
  legacy : Bool
  deriving DecidableEq

namespace Request

def browserKey : String := "process.browser"
def envKey : String := "process.env.NODE_ENV"

/-- The flag for the side and the name of the environment; configured replacements win. -/
def replacements (options : Options) (browser : Bool) : Dict String :=
  (Dict.ofList [(browserKey, AppModules.flag browser), (envKey, "'" ++ options.env ++ "'")]).overlay options.replace

def server (options : Options) (entry : Path) : Request where
  entry := entry
  target := .server
  format := .cjs
  replace := replacements options false
  preprocess := options.preprocess
  component := .forTarget .server options.dev options.hydratable
  dedupe := dedupeList options.dedupe
  virtualModules := AppModules.modules options.env false
  sourcemap := options.dev
  outputName := none
  legacy := false

def browser (options : Options) (entry : Path) (outputName : String) (legacy : Bool) : Request where
  entry := entry
  target := .browser
  format := .iife
  replace := replacements options true
  preprocess := options.preprocess
  component := .forTarget .browser options.dev true
  dedupe := dedupeList options.dedupe
  virtualModules := AppModules.modules options.env true
  sourcemap := options.dev
  outputName := some outputName
  legacy := legacy

/-- A field that is left out where there is no value. -/
def optionalField (name : String) : Option String → List (String × Json)
  | some value => [(name, .text value)]
  | none => []

def toJson (request : Request) : Json :=
  .object ([("entry", .text request.entry.text), ("target", request.target.toJson), ("format", request.format.toJson),
    ("replace", .ofTextDict request.replace), ("preprocess", .ofTexts request.preprocess),
    ("svelte", request.component.toJson), ("dedupe", .ofTexts request.dedupe),
    ("virtualModules", .ofTextDict request.virtualModules), ("sourcemap", .bool request.sourcemap)] ++
    optionalField "outputName" request.outputName ++ [("legacy", .bool request.legacy)])

def fieldNames : List String :=
  ["entry", "target", "format", "replace", "preprocess", "svelte", "dedupe", "virtualModules", "sourcemap",
    "outputName", "legacy"]

def decode? (document : Document) : Option Request := do
  let record ← Record.ofDocument? fieldNames document
  let entry ← record.required? "entry" Document.text?
  let target ← record.required? "target" Target.decode?
  let format ← record.required? "format" Format.decode?
  let replace ← record.required? "replace" (Document.dict? Document.text?)
  let preprocess ← record.required? "preprocess" Document.texts?
  let component ← record.required? "svelte" ComponentOptions.decode?
  let dedupe ← record.required? "dedupe" Document.texts?
  let virtualModules ← record.required? "virtualModules" (Document.dict? Document.text?)
  let sourcemap ← record.required? "sourcemap" Document.bool?
  let outputName ← record.default? "outputName" (Document.optional? Document.text?) none
  let legacy ← record.default? "legacy" Document.bool? false
  pure {
    entry := { text := entry }, target, format, replace, preprocess, component, dedupe, virtualModules,
    sourcemap, outputName, legacy }

end Request
end ComponentViews.Build
