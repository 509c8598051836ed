import ComponentViews.Json.Decode

/-! What a component renders, and its JSON form. Only the markup of the body has
to be there. -/

namespace ComponentViews.Render

open Json (Document Record)

structure Output where
  html : String
  head : String
  css : String
  deriving DecidableEq, Repr

namespace Output

def toJson (output : Output) : Json :=
  .object [("html", .text output.html), ("head", .text output.head), ("css", .text output.css)]

def fieldNames : List String := ["html", "head", "css"]

def decode? (document : Document) : Option Output := do
  let record ← Record.ofDocument? fieldNames document
  let html ← record.required? "html" Document.text?
  let head ← record.default? "head" Document.text? ""
  let css ← record.default? "css" Document.text? ""
  pure { html, head, css }

end Output
end ComponentViews.Render
