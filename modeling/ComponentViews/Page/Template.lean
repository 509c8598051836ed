import ComponentViews.Text.Blank
import ComponentViews.ViewError

/-! Templates of pages: text with placeholders such as `${html}`, blanks allowed
around the name. A template has a placeholder for the markup of the body. Values
are put in as they are and never read for further placeholders. -/

namespace ComponentViews.Page

open Text

inductive Piece where
  | literal (value : Char)
  | placeholder (name : String)
  deriving DecidableEq, Repr

def isNameStart (c : Char) : Bool := ('A' ≤ c ∧ c ≤ 'Z') ∨ ('a' ≤ c ∧ c ≤ 'z') ∨ c = '_'

def isNameChar (c : Char) : Bool := isNameStart c ∨ ('0' ≤ c ∧ c ≤ '9')

/-- A name is an identifier of ASCII characters. -/
def isName (name : List Char) : Bool := name.head?.any isNameStart ∧ name.all isNameChar

/-- The name of the placeholder at the start of a text, and the text behind it. -/
def placeholder? : List Char → Option (String × List Char)
  | '$' :: '{' :: rest =>
    let inner := rest.dropWhile isBlank
    let name := inner.takeWhile isNameChar
    match (inner.dropWhile isNameChar).dropWhile isBlank with
    | '}' :: after => if isName name then some (String.ofList name, after) else none
    | _ => none
  | _ => none

theorem length_placeholder? {text after : List Char} {name : String} (found : placeholder? text = some (name, after)) :
    after.length < text.length := by
  unfold placeholder? at found
  split at found
  next rest =>
    simp only at found
    split at found
    next closed =>
      split at found
      · simp only [Option.some.injEq, Prod.mk.injEq] at found
        have short := congrArg List.length closed
        have outer := (List.dropWhile_sublist isBlank (l := (rest.dropWhile isBlank).dropWhile isNameChar)).length_le
        have middle := (List.dropWhile_sublist isNameChar (l := rest.dropWhile isBlank)).length_le
        have inner := (List.dropWhile_sublist isBlank (l := rest)).length_le
        simp only [List.length_cons] at short ⊢
        rw [← found.2]
        omega
      · simp at found
    · simp at found
  · simp at found

/-- Splits a text into placeholders and the characters between them. -/
def Piece.parse : List Char → List Piece
  | [] => []
  | c :: rest =>
    match _found : placeholder? (c :: rest) with
    | some (name, after) => .placeholder name :: parse after
    | none => .literal c :: parse rest
termination_by text => text.length
decreasing_by
  · exact length_placeholder? _found
  · simp

/-- How a piece is written in a source. -/
def Piece.source : Piece → List Char
  | .literal value => [value]
  | .placeholder name => '$' :: '{' :: name.toList ++ ['}']

/-- The placeholder that every template has. -/
def Piece.html : Piece := .placeholder "html"

structure Template where
  pieces : List Piece
  html_mem : Piece.html ∈ pieces

namespace Template

/-- The template of a source, unless that has no place for the body. -/
def parse (source : String) : Except TemplateProblem Template :=
  let pieces := Piece.parse source.toList
  if html_mem : Piece.html ∈ pieces then .ok { pieces, html_mem } else .error .noHtmlPlaceholder

def literal (text : String) : List Piece := text.toList.map .literal

def builtInPieces : List Piece :=
  literal "<!DOCTYPE html>\n<html>\n<head>\n    <meta charset=\"utf-8\">\n" ++
  literal "    <meta name=\"viewport\" content=\"width=device-width, initial-scale=1\">\n    " ++
  [.placeholder "head"] ++ literal "\n    " ++ [.placeholder "style"] ++
  literal "\n</head>\n<body>\n    <div class=\"view-target\">" ++ [.html] ++ literal "</div>\n    " ++
  [.placeholder "script"] ++ literal "\n</body>\n</html>\n"

/-- The template that is used unless another is configured. -/
def builtIn : Template := { pieces := builtInPieces, html_mem := by simp [builtInPieces] }

/-- The source of the built-in template. -/
def builtInSource : String := String.ofList (builtInPieces.flatMap Piece.source)

end Template

/-- Values for the placeholders. State and scripts come ready to stand in a page. -/
structure Data where
  head : String
  style : String
  html : String
  globalProps : String
  globalStore : String
  props : String
  script : String
  scriptModern : String
  scriptLegacy : String
  hydratable : Bool
  deriving DecidableEq, Repr

namespace Data

def flag (value : Bool) : String := if value then "true" else "false"

/-- The value for a name; unknown names have none. -/
def value? (data : Data) : String → Option String
  | "head" => some data.head
  | "style" => some data.style
  | "html" => some data.html
  | "globalProps" => some data.globalProps
  | "globalStore" => some data.globalStore
  | "props" => some data.props
  | "script" => some data.script
  | "scriptModern" => some data.scriptModern
  | "scriptLegacy" => some data.scriptLegacy
  | "hydratable" => some (flag data.hydratable)
  | _ => none

end Data

namespace Template

/-- What a piece becomes in a page. -/
def fill (data : Data) : Piece → List Char
  | .literal value => [value]
  | .placeholder name => ((data.value? name).getD "").toList

def render (template : Template) (data : Data) : String := String.ofList (template.pieces.flatMap (fill data))

end Template
end ComponentViews.Page
