import ComponentViews.ViewError

/-! Patterns of bundle file names. A pattern is literal text around one name,
at most one hash of eight characters, and the extension at its end, so a file
name fits it in at most one way. -/

namespace ComponentViews.Bundle

/-- What a pattern's text spells out: characters and placeholders. -/
inductive Piece where
  | char (value : Char)
  | name
  | hash
  | extension
  deriving DecidableEq, Repr

def Piece.parse : List Char → List Piece
  | [] => []
  | '[' :: 'n' :: 'a' :: 'm' :: 'e' :: ']' :: rest => .name :: parse rest
  | '[' :: 'h' :: 'a' :: 's' :: 'h' :: ']' :: rest => .hash :: parse rest
  | '[' :: 'e' :: 'x' :: 't' :: 'n' :: 'a' :: 'm' :: 'e' :: ']' :: rest => .extension :: parse rest
  | c :: rest => .char c :: parse rest

/-- The parts of a file name whose length is fixed. -/
inductive Fixed where
  | char (value : Char)
  | hash
  deriving DecidableEq, Repr

def Piece.fixed? : Piece → Option Fixed
  | .char value => some (.char value)
  | .hash => some .hash
  | _ => none

/-- Bundles are scripts or stylesheets. -/
inductive Extension where
  | script
  | style
  deriving DecidableEq, Repr

def Extension.text : Extension → String
  | .script => ".js"
  | .style => ".css"

/-- A pattern by what stands before the name, and between the name and the extension. -/
structure Pattern where
  front : List Fixed
  back : List Fixed
  deriving DecidableEq, Repr

/-- What the placeholders of a pattern stand for in a file name. -/
structure Capture where
  name : String
  hash : Option String
  extension : Extension
  deriving DecidableEq, Repr

namespace Pattern

def defaultText : String := "[name]-[hash][extname]"

/-- The pattern of pieces in front of the extension: one name and at most one hash. -/
def ofPieces? (pieces : List Piece) : Option Pattern := do
  let front ← (pieces.takeWhile (· ≠ .name)).mapM Piece.fixed?
  let back ← ((pieces.dropWhile (· ≠ .name)).drop 1).mapM Piece.fixed?
  if (front ++ back).count .hash ≤ 1 then some { front, back } else none

def ofText (text : String) : Except Misconfiguration Pattern :=
  let pieces := Piece.parse text.toList
  if .name ∉ pieces then .error (.patternWithoutName text)
  else if pieces.getLast? ≠ some .extension then .error (.patternWithoutExtension text)
  else match ofPieces? pieces.dropLast with
    | some pattern => .ok pattern
    | none => .error (.patternInvalid text)

def hashLength : Nat := 8

def isHashChar (c : Char) : Bool := ('a' ≤ c ∧ c ≤ 'z') ∨ ('0' ≤ c ∧ c ≤ '9')

def isHash (text : List Char) : Bool := text.length = hashLength ∧ text.all isHashChar

def width : List Fixed → Nat
  | [] => 0
  | .char _ :: rest => width rest + 1
  | .hash :: rest => width rest + hashLength

/-- The hash and the rest of a text that starts as the fixed parts say. -/
def readFixed : List Fixed → List Char → Option (Option (List Char) × List Char)
  | [], text => some (none, text)
  | .char _ :: _, [] => none
  | .char value :: parts, c :: text => if value = c then readFixed parts text else none
  | .hash :: parts, text =>
    if isHash (text.take hashLength) then
      (readFixed parts (text.drop hashLength)).map fun (_, rest) => (some (text.take hashLength), rest)
    else none

/-- Names are not empty and stay on one line. -/
def isName (text : List Char) : Bool := !text.isEmpty ∧ '\n' ∉ text

/-- The name and the hash of a file name without its extension. -/
def readStem (pattern : Pattern) (stem : List Char) : Option (List Char × Option (List Char)) := do
  let (early, rest) ← readFixed pattern.front stem
  let name := rest.take (rest.length - width pattern.back)
  let (late, unread) ← readFixed pattern.back (rest.drop name.length)
  if isName name ∧ unread = [] then some (name, early.or late) else none

/-- The stem of a file name with a given extension. -/
def stemOf? (extension : Extension) (fileName : List Char) : Option (List Char) :=
  if extension.text.toList.isSuffixOf fileName then
    some (fileName.take (fileName.length - extension.text.toList.length))
  else none

def captureWith? (pattern : Pattern) (fileName : List Char) (extension : Extension) : Option Capture := do
  let stem ← stemOf? extension fileName
  let (name, hash) ← pattern.readStem stem
  pure { name := String.ofList name, hash := hash.map String.ofList, extension }

/-- How a file name fits the pattern. -/
def capture? (pattern : Pattern) (fileName : String) : Option Capture :=
  (pattern.captureWith? fileName.toList .script).or (pattern.captureWith? fileName.toList .style)

end Pattern
end ComponentViews.Bundle
