import ComponentViews.Compile.Compiler
import ComponentViews.Config
import ComponentViews.Page.Site
import ComponentViews.View.Lookup
import ComponentViews.Wrapper.Store

/-! An installed engine: what installation settled, the wrappers made since, and the
compiler. Installing builds the bundle manifest, empties the scratch directory
and reads the page template, in this order; the first failure ends it. -/

namespace ComponentViews

structure Engine where
  config : Config
  /-- The absolute view roots, in lookup order. -/
  roots : List Path
  defaults : Build.Options
  site : Page.Site
  template : Page.Template
  wrappers : Wrapper.Store
  compiler : Compile.Compiler

namespace Engine

def readTemplate (files : FileSystem) : Option Path → Except ViewError Page.Template
  | none => .ok .builtIn
  | some path =>
    match files.readText? path with
    | none => .error (.io path)
    | some source => (Page.Template.parse source).mapError .template

/-- Installs an engine; `processEnv` is the environment's name that the process has. -/
def install (config : Config) (processEnv : Option String) (files : FileSystem) : Except ViewError Engine := do
  let manifest ← Bundle.Manifest.build files (config.bundlesDirs.map files.absolute) config.bundlesPattern
  let store := Wrapper.Store.new files (files.absolute config.serverScratch) config.wrapperTemplatePath
  match store.reset with
  | (.error error, _) => .error error
  | (.ok (), wrappers) =>
    let template ← readTemplate wrappers.files config.templatePath
    pure {
      config, template, wrappers
      roots := config.viewsDirs.map files.absolute
      defaults := config.buildDefaults processEnv
      site := { host := config.bundlesHost, manifest, legacy := config.legacy }
      compiler := .new }

/-- The manifest key of a view. -/
def key (engine : Engine) (view : Path) : String := View.key engine.roots view

/-- What every component can see of the site. -/
def globalAssets (engine : Engine) : Render.GlobalAssets where
  host := engine.site.host
  scripts := engine.site.manifest.scripts
  styles := engine.site.manifest.styles

end Engine
end ComponentViews
