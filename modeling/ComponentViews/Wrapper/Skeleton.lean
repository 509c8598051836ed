import ComponentViews.Build.AppModules
import ComponentViews.ViewError

/-! The source of wrapper components: a skeleton with exactly one slot, into
which go the imports of the view that the component wraps. -/

namespace ComponentViews.Wrapper

open Build

/-- The marker of the slot. -/
def slot : String := "/* @view-import */"

/-- What stands in front of and behind the first occurrence of a marker. -/
def cutAt? (marker : List Char) : List Char → Option (List Char × List Char)
  | [] => if marker.isEmpty then some ([], []) else none
  | c :: rest =>
    if marker.isPrefixOf (c :: rest) then some ([], (c :: rest).drop marker.length)
    else (cutAt? marker rest).map fun (before, after) => (c :: before, after)

/-- A skeleton by its text on both sides of the slot. -/
structure Skeleton where
  prelude : String
  epilogue : String
  deriving DecidableEq, Repr

namespace Skeleton

/-- The skeleton of a source in which the slot occurs exactly once. -/
def parse (source : String) : Except Misconfiguration Skeleton :=
  match cutAt? slot.toList source.toList with
  | none => .error (.slotMissing slot)
  | some (before, after) =>
    match cutAt? slot.toList after with
    | none => .ok { prelude := String.ofList before, epilogue := String.ofList after }
    | some _ => .error (.slotRepeated slot)

/-- The statements that import a view: its default export and all its exports. -/
def imports (view : Path) : String :=
  let specifier := Text.Script.escapeText view.toSpecifier
  "import component from \"" ++ specifier ++ "\";\n    import * as ComponentStatic from \"" ++ specifier ++ "\";"

/-- The wrapper of a view. -/
def render (skeleton : Skeleton) (view : Path) : String := skeleton.prelude ++ imports view ++ skeleton.epilogue

def preludeLines : List String := [
    "<script>",
    "    import \x7b setContext \x7d from 'svelte';",
    "    "]

def epilogueLines : List String := [
    "",
    "",
    "    export let globalProps = \x7b\x7d;",
    "    export let globalStore = \x7b\x7d;",
    "    export let globalAssets = \x7b\x7d;",
    "    export let props = \x7b\x7d;",
    "",
    "    setContext('" ++ AppModules.propsKey ++ "', globalProps);",
    "    setContext('" ++ AppModules.storeKey ++ "', globalStore);",
    "    setContext('" ++ AppModules.assetsKey ++ "', globalAssets);",
    "    setContext('" ++ AppModules.allyKey ++ "', \x7b\x7d);",
    "</script>",
    "",
    "<svelte:component this=\x7bcomponent\x7d \x7b...props\x7d />",
    ""]

/-- The skeleton that is used unless another is configured: it publishes the global
context and then shows the view. -/
def builtIn : Skeleton where
  prelude := "\n".intercalate preludeLines
  epilogue := "\n".intercalate epilogueLines

/-- The source of the built-in skeleton. -/
def builtInSource : String := builtIn.prelude ++ slot ++ builtIn.epilogue

end Skeleton
end ComponentViews.Wrapper
