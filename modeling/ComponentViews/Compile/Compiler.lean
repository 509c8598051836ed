import ComponentViews.Activity
import ComponentViews.Build.Output
import ComponentViews.Compile.Collaborators
import ComponentViews.Table
import ComponentViews.ViewError

/-! Compiling wrapped views, with a cache of what was compiled. A compilation is
an activity with one step for the cache lookup, the build, the evaluation and
the cache entry each, so that several may run interleaved on one compiler. -/

namespace ComponentViews.Compile

open Build

/-- What identifies a cached view: its wrapper's path, however spelled, and the one
option that may differ between calls. -/
structure Key where
  path : List Path.Component
  hydratable : Bool
  deriving DecidableEq, Repr

/-- A component that can render, and the styles collected while it was built. -/
structure CompiledView where
  component : Component
  css : String
  deriving DecidableEq, Repr

structure Compiler where
  cache : Table Key CompiledView
  /-- Whether the evaluator has been told to use source maps. -/
  sourceMaps : Bool
  journal : Journal

/-- What one call asks to have compiled, and how. -/
structure Job where
  path : Path
  options : Options

namespace Job

def key (job : Job) : Key := { path := job.path.components, hydratable := job.options.hydratable }

def request (job : Job) : Request := .server job.options job.path

/-- The code of a chunk, with its source map inside while developing. -/
def code (job : Job) (code : String) (map : Option String) : String :=
  match map with
  | some map => if job.options.dev then SourceMap.appendInline code map else code
  | none => code

end Job

/-- A build has to deliver one chunk and nothing else: its code and source map. -/
def singleChunk : List Artifact → Except CompileError (String × Option String)
  | [.chunk _ code map] => .ok (code, map)
  | [.asset fileName _] => .error (.outputType fileName)
  | artifacts => .error (.outputLength artifacts.length)

namespace Compiler

def new : Compiler := { cache := .empty, sourceMaps := false, journal := [] }

instance : Inhabited Compiler := ⟨new⟩

def find? (compiler : Compiler) (key : Key) : Option CompiledView := compiler.cache.find? key

def size (compiler : Compiler) : Nat := compiler.cache.size

/-- Forgets every compiled view. -/
def clear (compiler : Compiler) : Compiler := { compiler with cache := .empty }

/-- The first job in development has the evaluator use source maps. -/
def prepare (compiler : Compiler) (dev : Bool) : Compiler :=
  if dev ∧ !compiler.sourceMaps then
    { compiler with sourceMaps := true, journal := .sourceMapsInstalled :: compiler.journal }
  else compiler

inductive Phase where
  | consulting (job : Job)
  | building (job : Job)
  | evaluating (job : Job) (module : ModuleSource) (css : String)
  | storing (job : Job) (compiled : CompiledView)

namespace Phase

/-- Only a job that caches looks into the cache and adds to it. -/
def step (collaborators : Collaborators) :
    Phase → Compiler → Progress Phase (Except CompileError CompiledView) × Compiler
  | .consulting job, compiler =>
    match if job.options.cache then compiler.find? job.key else none with
    | some compiled => (.finished (.ok compiled), compiler)
    | none => (.running (.building job), compiler)
  | .building job, compiler =>
    let (outcome, journal) := collaborators.built job.request compiler.journal
    let compiler := { compiler with journal }
    match outcome with
    | .error failure => (.finished (.error (.toolchain failure)), compiler)
    | .ok output =>
      match singleChunk output.artifacts with
      | .error error => (.finished (.error error), compiler)
      | .ok (code, map) =>
        let module := { path := job.path, code := job.code code map, format := job.request.format }
        (.running (.evaluating job module output.css), compiler.prepare job.options.dev)
  | .evaluating job module css, compiler =>
    let (outcome, journal) := collaborators.evaluated module compiler.journal
    let compiler := { compiler with journal }
    match outcome with
    | .error failure => (.finished (.error (.evaluate failure)), compiler)
    | .ok component => (.running (.storing job { component, css }), compiler)
  | .storing job compiled, compiler =>
    if job.options.cache then
      (.finished (.ok compiled), { compiler with cache := compiler.cache.insert job.key compiled })
    else (.finished (.ok compiled), compiler)

def remaining : Phase → Nat
  | .consulting _ => 3
  | .building _ => 2
  | .evaluating _ _ _ => 1
  | .storing _ _ => 0

theorem remaining_step {collaborators : Collaborators} {phase next : Phase} {compiler compiler' : Compiler}
    (taken : step collaborators phase compiler = (.running next, compiler')) :
    next.remaining < phase.remaining := by
  cases phase <;> simp only [step] at taken <;> grind [remaining]

def activity (collaborators : Collaborators) : Activity Compiler Phase (Except CompileError CompiledView) where
  step := step collaborators
  remaining := remaining
  decreases := remaining_step

end Phase

/-- The compiled form of a wrapper, from the cache if the options allow it. -/
def compile (collaborators : Collaborators) (job : Job) (compiler : Compiler) :
    Except CompileError CompiledView × Compiler :=
  (Phase.activity collaborators).run (.consulting job) compiler

end Compiler
end ComponentViews.Compile
