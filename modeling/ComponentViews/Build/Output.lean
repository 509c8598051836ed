import ComponentViews.Json.Decode
import ComponentViews.Text.Base64

/-! What a toolchain delivers, and its JSON form: the emitted files, and the
styles collected while compiling. A source map may travel inside the code that
it describes, as a last line of comment. -/

namespace ComponentViews.Build

open Json (Document Record)

/-- An emitted file: a module that can run, or an asset that cannot. -/
inductive Artifact where
  | chunk (fileName code : String) (map : Option String)
  | asset (fileName source : String)
  deriving DecidableEq, Repr

namespace Artifact

def fileName : Artifact → String
  | .chunk fileName _ _ => fileName
  | .asset fileName _ => fileName

def toJson : Artifact → Json
  | .chunk fileName code map =>
    .object [("type", .text "chunk"), ("fileName", .text fileName), ("code", .text code), ("map", .ofText? map)]
  | .asset fileName source =>
    .object [("type", .text "asset"), ("fileName", .text fileName), ("source", .text source)]

def chunkFields : List String := ["fileName", "code", "map"]
def assetFields : List String := ["fileName", "source"]

def decodeChunk? (document : Document) : Option Artifact := do
  let record ← Record.ofDocument? chunkFields document
  let fileName ← record.required? "fileName" Document.text?
  let code ← record.required? "code" Document.text?
  let map ← record.default? "map" (Document.optional? Document.text?) none
  pure (.chunk fileName code map)

def decodeAsset? (document : Document) : Option Artifact := do
  let record ← Record.ofDocument? assetFields document
  let fileName ← record.required? "fileName" Document.text?
  let source ← record.required? "source" Document.text?
  pure (.asset fileName source)

def decodeTagged? (tag : Document) (document : Document) : Option Artifact :=
  match tag with
  | .text (some "chunk") => decodeChunk? document
  | .text (some "asset") => decodeAsset? document
  | _ => none

def isTag (field : Option String × Document) : Bool := field.1 = some "type"

/-- An artifact by its tag, which stands among the fields of an object or in front of
those of an array. -/
def untag? : Document → Option Artifact
  | .object fields =>
    match fields.filter isTag with
    | [(_, tag)] => decodeTagged? tag (.object (fields.filter fun field => !isTag field))
    | _ => none
  | .array (tag :: items) => decodeTagged? tag (.array items)
  | _ => none

/-- The arrays and objects around an artifact. -/
def outerDepth : Nat := 2

/-- The tag may come last, so an artifact is read as a value before it is decoded. -/
def decode? (document : Document) : Option Artifact := do
  let _ ← document.value? (Json.greatestDepth - outerDepth)
  untag? document

end Artifact

structure Output where
  artifacts : List Artifact
  css : String
  deriving DecidableEq, Repr

namespace Output

def toJson (output : Output) : Json :=
  .object [("output", .array (output.artifacts.map Artifact.toJson)), ("css", .text output.css)]

def fieldNames : List String := ["output", "css"]

def decode? (document : Document) : Option Output := do
  let record ← Record.ofDocument? fieldNames document
  let artifacts ← record.required? "output" (Document.list? Artifact.decode?)
  let css ← record.default? "css" Document.text? ""
  pure { artifacts, css }

end Output

namespace SourceMap

/-- The start of the comment, up to the encoded map. -/
def commentStart : String := "//# sourceMappingURL=data:application/json;charset=utf-8;base64,"

/-- Code followed by its map on a line of its own. -/
def appendInline (code map : String) : String := code ++ "\n" ++ commentStart ++ Text.Base64.encodeText map

end SourceMap
end ComponentViews.Build
