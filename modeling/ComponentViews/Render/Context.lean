import ComponentViews.Json.Decode

/-! What a component is given to render, and its JSON form: the assets of the
page, the global props and store, and the props of the view. -/

namespace ComponentViews.Render

open Json (Document Record)

/-- Assets that every view can ask for: the public address and the bundles by key. -/
structure GlobalAssets where
  host : String
  scripts : Dict String
  styles : Dict String
  deriving DecidableEq

namespace GlobalAssets

def toJson (assets : GlobalAssets) : Json :=
  .object [("host", .text assets.host), ("scripts", .ofTextDict assets.scripts), ("styles", .ofTextDict assets.styles)]

def fieldNames : List String := ["host", "scripts", "styles"]

def decode? (document : Document) : Option GlobalAssets := do
  let record ← Record.ofDocument? fieldNames document
  let host ← record.required? "host" Document.text?
  let scripts ← record.required? "scripts" (Document.dict? Document.text?)
  let styles ← record.required? "styles" (Document.dict? Document.text?)
  pure { host, scripts, styles }

end GlobalAssets

structure Context where
  globalAssets : GlobalAssets
  globalProps : Json
  globalStore : Json
  props : Json

namespace Context

/-- The fields by the names under which a component finds them. -/
def fields (context : Context) : List (String × Json) :=
  [("globalAssets", context.globalAssets.toJson), ("globalProps", context.globalProps),
    ("globalStore", context.globalStore), ("props", context.props)]

def toJson (context : Context) : Json := .object context.fields

def fieldNames : List String := ["globalAssets", "globalProps", "globalStore", "props"]

/-- Values inside a context nest one level less than a whole text may. -/
def value? : Document → Option Json := Document.value? (Json.greatestDepth - 1)

def decode? (document : Document) : Option Context := do
  let record ← Record.ofDocument? fieldNames document
  let globalAssets ← record.required? "globalAssets" GlobalAssets.decode?
  let globalProps ← record.required? "globalProps" value?
  let globalStore ← record.required? "globalStore" value?
  let props ← record.required? "props" value?
  pure { globalAssets, globalProps, globalStore, props }

end Context
end ComponentViews.Render
