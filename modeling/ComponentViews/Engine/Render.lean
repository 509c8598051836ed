import ComponentViews.Engine.Install
import ComponentViews.Host
import ComponentViews.Render.Globals

/-! Rendering a view to a page: the view is looked up, wrapped, compiled and rendered,
and the template is filled. A call is an activity that works on the engine, one
step at a time; the first stage that fails ends it. -/

namespace ComponentViews.Engine

/-- The stages of a call, in their order. -/
inductive Stage where
  | lookup
  | wrap
  | compile
  | render
  | template
  | send
  deriving DecidableEq, Repr

namespace Stage

def name : Stage → String
  | .lookup => "lookup"
  | .wrap => "wrap"
  | .compile => "compile"
  | .render => "render"
  | .template => "template"
  | .send => "send"

def all : List Stage := [.lookup, .wrap, .compile, .render, .template, .send]

end Stage

/-- What a call gives for one rendering. -/
structure RenderOptions where
  props : Json
  globalProps : Locals
  globalStore : Locals
  /-- Overrides the engine's use of the compile cache. -/
  cache : Option Bool
  /-- Overrides whether pages are hydrated. -/
  hydratable : Option Bool
  /-- The source of a template to use in the stead of the installed one. -/
  template : Option String

/-- A call for a view by its name. -/
structure Call where
  name : String
  options : RenderOptions
  scopes : Scopes

namespace Call

/-- The engine's build options with the overrides of the call. -/
def buildOptions (call : Call) (defaults : Build.Options) : Build.Options :=
  { defaults with
    cache := call.options.cache.getD defaults.cache
    hydratable := call.options.hydratable.getD defaults.hydratable }

/-- What the component is given. -/
def context (call : Call) (assets : Render.GlobalAssets) : Render.Context where
  globalAssets := assets
  globalProps := .ofDict (Render.Globals.merge Render.Globals.propsKey call.scopes call.options.globalProps)
  globalStore := .ofDict (Render.Globals.merge Render.Globals.storeKey call.scopes call.options.globalStore)
  props := call.options.props

end Call

/-- How far a call has come: the candidates left to look at, the wrapper or the
compilation under way, or what is needed to render and to fill the template. -/
inductive Rendering where
  | looking (call : Call) (candidates : List Path)
  | wrapping (call : Call) (view : Path) (phase : Wrapper.Store.Creation)
  | compiling (call : Call) (view wrapper : Path) (phase : Compile.Compiler.Phase)
  | rendering (call : Call) (view wrapper : Path) (compiled : Compile.CompiledView)
  | templating (call : Call) (view : Path) (collected : String) (output : Render.Output)

/-- The page of a rendered view. -/
def page (engine : Engine) (call : Call) (view : Path) (collected : String) (output : Render.Output) :
    Except ViewError String := do
  let hydratable := (call.buildOptions engine.defaults).hydratable
  let data := engine.site.data (engine.key view) output collected (call.context engine.globalAssets) hydratable
  match call.options.template with
  | none => pure (engine.template.render data)
  | some source => do
    let template ← (Page.Template.parse source).mapError .template
    pure (template.render data)

namespace Rendering

/-- A call before its first step. -/
def start (engine : Engine) (call : Call) : Rendering :=
  .looking call (View.candidates engine.wrappers.files engine.roots call.name engine.config.extension)

def step (collaborators : Compile.Collaborators) (token : Nat → String) :
    Rendering → Engine → Progress Rendering (Except ViewError String) × Engine
  | .looking call [], engine => (.finished (.error (.lookup call.name engine.roots)), engine)
  | .looking call (candidate :: rest), engine =>
    if engine.wrappers.files.isFile candidate then
      (.running (.wrapping call candidate (.checking candidate)), engine)
    else (.running (.looking call rest), engine)
  | .wrapping call view phase, engine =>
    let (progress, wrappers) := phase.step token engine.wrappers
    let engine := { engine with wrappers }
    match progress with
    | .running phase => (.running (.wrapping call view phase), engine)
    | .finished (.error error) => (.finished (.error error), engine)
    | .finished (.ok wrapper) =>
      let job := { path := wrapper, options := call.buildOptions engine.defaults }
      (.running (.compiling call view wrapper (.consulting job)), engine)
  | .compiling call view wrapper phase, engine =>
    let (progress, compiler) := phase.step collaborators engine.compiler
    let engine := { engine with compiler }
    match progress with
    | .running phase => (.running (.compiling call view wrapper phase), engine)
    | .finished (.error error) => (.finished (.error (.compile wrapper error)), engine)
    | .finished (.ok compiled) => (.running (.rendering call view wrapper compiled), engine)
  | .rendering call view _ compiled, engine =>
    let context := call.context engine.globalAssets
    let (outcome, journal) := collaborators.rendered compiled.component context engine.compiler.journal
    let engine := { engine with compiler := { engine.compiler with journal } }
    match outcome with
    | .error failure => (.finished (.error (.render call.name failure)), engine)
    | .ok output => (.running (.templating call view compiled.css output), engine)
  | .templating call view collected output, engine => (.finished (engine.page call view collected output), engine)

def remaining : Rendering → Nat
  | .looking _ candidates => candidates.length + 12
  | .wrapping _ _ phase => phase.remaining + 7
  | .compiling _ _ _ phase => phase.remaining + 2
  | .rendering _ _ _ _ => 1
  | .templating _ _ _ _ => 0

theorem remaining_step {collaborators : Compile.Collaborators} {token : Nat → String} {phase next : Rendering}
    {engine engine' : Engine} (taken : step collaborators token phase engine = (.running next, engine')) :
    next.remaining < phase.remaining := by
  cases phase with
  | looking call candidates =>
    cases candidates <;> simp only [step] at taken <;> grind [remaining, Wrapper.Store.Creation.remaining]
  | wrapping call view phase =>
    simp only [step] at taken
    split at taken
    next inner moved =>
      have less := Wrapper.Store.Creation.remaining_step (Prod.ext moved rfl)
      grind [remaining]
    · simp at taken
    · grind [remaining, Compile.Compiler.Phase.remaining]
  | compiling call view wrapper phase =>
    simp only [step] at taken
    split at taken
    next inner moved =>
      have less := Compile.Compiler.Phase.remaining_step (Prod.ext moved rfl)
      grind [remaining]
    · simp at taken
    · grind [remaining]
  | rendering call view wrapper compiled => simp only [step] at taken; grind [remaining]
  | templating call view collected output => simp [step] at taken

def activity (collaborators : Compile.Collaborators) (token : Nat → String) :
    Activity Engine Rendering (Except ViewError String) where
  step := step collaborators token
  remaining := remaining
  decreases := remaining_step

end Rendering

/-- Renders a view to a page. -/
def render (collaborators : Compile.Collaborators) (token : Nat → String) (call : Call) (engine : Engine) :
    Except ViewError String × Engine :=
  (Rendering.activity collaborators token).run (.start engine call) engine

/-- Renders a view for a host, which is sent the page or handed the error. -/
def renderView {State : Type} (collaborators : Compile.Collaborators) (token : Nat → String) (host : Host State)
    (name : String) (options : RenderOptions) (state : State) (engine : Engine) : State × Engine :=
  match engine.render collaborators token { name, options, scopes := host.scopes state } with
  | (.ok body, engine) => (host.send body state, engine)
  | (.error error, engine) => (host.forwardError error state, engine)

end ComponentViews.Engine
