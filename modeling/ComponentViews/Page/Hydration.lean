import ComponentViews.Json.Writer
import ComponentViews.Render.Context
import ComponentViews.Text.Markup

/-! What a page carries for its client: an inline script that publishes the render
context, and the tags that load the client bundles of the view. -/

namespace ComponentViews.Page.Hydration

/-- Publishes a value under a global name. -/
def assignment (name : String) (value : Json) : String := "window." ++ name ++ " = " ++ value.toScriptText ++ ";"

/-- The inline script that publishes a context. -/
def state (context : Render.Context) : String :=
  "<script>" ++ assignment "_GLOBAL_PROPS_" context.globalProps ++ assignment "_GLOBAL_STORE_" context.globalStore ++
    assignment "_GLOBAL_ASSETS_" context.globalAssets.toJson ++ assignment "_PROPS_" context.props ++ "</script>"

/-- A script tag with some attributes in front of its address. -/
def scriptTag (attributes address : String) : String :=
  "<script " ++ attributes ++ " src=\"" ++ Text.Markup.escapeText address ++ "\"></script>"

/-- The tags of the client bundles. With two bundles the browser picks one; an empty
address stands for no bundle. -/
def bundleTags (modern legacy : String) : String :=
  match modern.isEmpty, legacy.isEmpty with
  | false, false => scriptTag "type=\"module\"" modern ++ scriptTag "nomodule" legacy
  | false, true => scriptTag "defer" modern
  | true, false => scriptTag "defer" legacy
  | true, true => ""

/-- The state and then the bundles that read it. -/
def script (context : Render.Context) (modern legacy : String) : String := state context ++ bundleTags modern legacy

end ComponentViews.Page.Hydration
