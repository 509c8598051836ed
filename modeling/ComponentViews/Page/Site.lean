import ComponentViews.Bundle.Manifest
import ComponentViews.Page.Hydration
import ComponentViews.Page.Template
import ComponentViews.Render.Output

/-! What the pages of one site share, and the template values of a rendered view. A
page that is not hydrated carries neither state nor scripts. -/

namespace ComponentViews.Page

structure Site where
  /-- The public address of the bundles. -/
  host : String
  manifest : Bundle.Manifest
  /-- Whether pages offer bundles for older browsers. -/
  legacy : Bool

namespace Site

def address (site : Site) (asset : String) : String := Bundle.joinUrl site.host asset

/-- The address of an asset, empty where there is none. -/
def addressOf (site : Site) : Option String → String
  | some asset => site.address asset
  | none => ""

def modernAddress (site : Site) (key : String) : String := site.addressOf (site.manifest.modernScript? key)

def legacyAddress (site : Site) (key : String) : String :=
  if site.legacy then site.addressOf (site.manifest.legacyScript? key) else ""

def stylesheetTag (address : String) : String :=
  "<link rel=\"stylesheet\" href=\"" ++ Text.Markup.escapeText address ++ "\">"

/-- The link to the view's stylesheet. -/
def stylesheet (site : Site) (key : String) : String :=
  match site.manifest.viewStyle? key with
  | some asset => stylesheetTag (site.address asset)
  | none => ""

/-- Styles of the component and of the build, on lines of their own. -/
def inlineCss (rendered collected : String) : String := "\n".intercalate ([rendered, collected].filter (· ≠ ""))

def inlineStyle (css : String) : String := if css = "" then "" else "<style>" ++ css ++ "</style>"

def style (site : Site) (key rendered collected : String) : String :=
  site.stylesheet key ++ inlineStyle (inlineCss rendered collected)

/-- The values of a page without state and scripts. -/
def staticData (site : Site) (key : String) (output : Render.Output) (collected : String) : Data where
  head := output.head
  style := site.style key output.css collected
  html := output.html
  globalProps := ""
  globalStore := ""
  props := ""
  script := ""
  scriptModern := ""
  scriptLegacy := ""
  hydratable := false

/-- The values of a page that its client takes over. -/
def hydratedData (site : Site) (key : String) (output : Render.Output) (collected : String)
    (context : Render.Context) : Data where
  head := output.head
  style := site.style key output.css collected
  html := output.html
  globalProps := context.globalProps.toScriptText
  globalStore := context.globalStore.toScriptText
  props := context.props.toScriptText
  script := Hydration.script context (site.modernAddress key) (site.legacyAddress key)
  scriptModern := site.modernAddress key
  scriptLegacy := site.legacyAddress key
  hydratable := true

def data (site : Site) (key : String) (output : Render.Output) (collected : String) (context : Render.Context)
    (hydratable : Bool) : Data :=
  if hydratable then site.hydratedData key output collected context else site.staticData key output collected

end Site
end ComponentViews.Page
