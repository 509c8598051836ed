import ComponentViews.Compile.Collaborators
import ComponentViews.Json.Writer
import ComponentViews.External.Command

/-! An evaluator that is an external program, which runs a bootstrap script: the
script reads a module as JSON from standard input and links it. Loading a module
only checks that it can be linked; rendering links it anew and prints what its
component renders. -/

namespace ComponentViews.External

open Build Compile

structure Evaluator where
  program : Path
  sourceMaps : Bool
  deriving DecidableEq, Repr

namespace Evaluator

def preludeLines : List String := [
  "",
  "function loadComponent(code, filename) \x7b",
  "    const Module = require('module');",
  "    const mod = new Module(filename, module);",
  "    mod.filename = filename;",
  "    mod.paths = Module._nodeModulePaths(require('path').dirname(filename));",
  "    mod._compile(code, filename);",
  "    const component = mod.exports.default || mod.exports;",
  "    if (!component || typeof component.render !== 'function') \x7b",
  "        throw new Error('compiled module does not export a render function');",
  "    \x7d",
  "    return component;",
  "\x7d",
  "function withInput(run) \x7b",
  "    const chunks = [];",
  "    process.stdin.on('data', (chunk) => chunks.push(chunk));",
  "    process.stdin.on('end', () => run(JSON.parse(Buffer.concat(chunks).toString('utf8'))));",
  "\x7d"]

def loadLines : List String := [
  "",
  "withInput((\x7b code, filename \x7d) => \x7b",
  "    loadComponent(code, filename);",
  "    process.stdout.write('\x7b\x7d');",
  "\x7d);"]

def renderLines : List String := [
  "",
  "withInput((\x7b code, filename, context \x7d) => \x7b",
  "    const out = loadComponent(code, filename).render(context);",
  "    const css = out.css && typeof out.css === 'object' ? out.css.code : out.css;",
  "    process.stdout.write(JSON.stringify(\x7b html: out.html || '', head: out.head || '', css: css || '' \x7d));",
  "\x7d);"]

def script (lines : List String) : String := String.join ((preludeLines ++ lines).map (· ++ "\n"))

def loadScript : String := script loadLines

def renderScript : String := script renderLines

/-- What the script reads: the module, and the context to render it with. -/
def invocation (module : ModuleSource) (context : Option Render.Context) : Json :=
  .object ([("code", .text module.code), ("filename", .text module.path.text)] ++
    match context with
    | some context => [("context", context.toJson)]
    | none => [])

def command (evaluator : Evaluator) (script : String) (module : ModuleSource) (context : Option Render.Context) :
    Command where
  program := evaluator.program
  arguments := (if evaluator.sourceMaps then ["--enable-source-maps"] else []) ++ ["-e", script]
  directory := none
  input := (invocation module context).toText

/-- What a completion prints; without one the program has not been started. -/
def outcome (evaluator : Evaluator) : Option Completion → Except Failure (List UInt8)
  | none => .error (.ofSystem ("failed to spawn '" ++ evaluator.program.text ++ "'"))
  | some completion => completion.outcome "node"

/-- How messages name a format. -/
def formatName : Format → String
  | .cjs => "Cjs"
  | .esm => "Esm"
  | .iife => "Iife"

/-- A module that has been loaded, with the settings that it is rendered with. -/
structure Loaded where
  evaluator : Evaluator
  module : ModuleSource
  deriving DecidableEq, Repr

/-- Loads a module. -/
def evaluate {State : Type} (evaluator : Evaluator) (runner : Runner State) (module : ModuleSource) (state : State) :
    Except Failure Loaded × State :=
  if module.format = .cjs then
    let (completion, state) := runner (evaluator.command loadScript module none) state
    match evaluator.outcome completion with
    | .ok _ => (.ok { evaluator, module }, state)
    | .error failure => (.error (failure.within "failed to load compiled module"), state)
  else
    (.error (.ofMessage ("node evaluator only loads CommonJS modules, got " ++ formatName module.format)), state)

namespace Loaded

def decodeOutput (output : List UInt8) : Except Failure Render.Output :=
  match (Json.Document.ofBytes? output).bind Render.Output.decode? with
  | some output => .ok output
  | none => .error (.ofSystem "invalid render output JSON")

/-- Renders a loaded module. -/
def render {State : Type} (loaded : Loaded) (runner : Runner State) (context : Render.Context) (state : State) :
    Except Failure Render.Output × State :=
  let (completion, state) := runner (loaded.evaluator.command renderScript loaded.module (some context)) state
  (loaded.evaluator.outcome completion >>= decodeOutput, state)

end Loaded
end Evaluator
end ComponentViews.External
