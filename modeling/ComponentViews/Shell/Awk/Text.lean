import ComponentViews.Shell.Awk.Value
import ComponentViews.Shell.Regex

/-! Cutting texts into records and fields, and replacing parts of them. -/

namespace ComponentViews.Shell.Awk

/-- What stands between the parts of a text. -/
inductive Separator where
  /-- Blanks and newlines, which count for nothing at the ends. -/
  | blanks
  /-- Nothing at all: each octet is a part. -/
  | empty
  | matching (regex : Regex)

namespace Separator

/-- The separator that a text stands for: a single character for itself unless it is a
blank, a longer text as an expression. -/
def ofText (text : Octets) : Except Regex.Fault Separator :=
  match text with
  | [] => .ok .empty
  | [' '] => .ok .blanks
  | [c] => .ok (.matching (.char c))
  | text => (Regex.parse .escaped text).map fun (regex, _) => .matching regex

/-- The parts of a text from some position on between matches that are not empty. -/
def partsFrom (regex : Regex) (text : Array Char) : Nat → Nat → Nat → List Octets
  | 0, start, _ => [Regex.part text start text.size]
  | fuel + 1, start, position =>
    match regex.find? text position with
    | none => [Regex.part text start text.size]
    | some found =>
      if found.first < found.last then
        Regex.part text start found.first :: partsFrom regex text fuel found.last found.last
      else if found.last < text.size then partsFrom regex text fuel start (found.last + 1)
      else [Regex.part text start text.size]

/-- The parts of a text. Where records end at empty lines, newlines separate too. -/
def split (separator : Separator) (byLine : Bool) (text : Octets) : List Octets :=
  if text = [] then []
  else match separator with
    | .blanks => ((text.map fun c => if Value.isSpace c then ' ' else c).splitOn ' ').filter (· ≠ [])
    | .empty => text.map fun c => [c]
    | .matching regex =>
      let regex := if byLine then .either (.char '\n') regex else regex
      partsFrom regex text.toArray (text.length + 1) 0 0

end Separator

/-- The lines up to an empty one, and what stands behind that. -/
def paragraph : Octets → Octets × Octets
  | [] => ([], [])
  | '\n' :: '\n' :: rest => ([], rest.dropWhile (· = '\n'))
  | c :: rest =>
    let (lines, rest) := paragraph rest
    (c :: lines, rest)

/-- The first record of a text, and the rest. Records end at a character, at empty lines, or
where an expression matches. -/
def nextRecord? (ending text : Octets) : Option (Octets × Octets) :=
  match ending with
  | [] =>
    match text.dropWhile (· = '\n') with
    | [] => none
    | text =>
      let (lines, rest) := paragraph text
      some (if rest = [] then lines.dropEndWhile (· = '\n') else lines, rest)
  | [c] =>
    let record := text.takeWhile (· ≠ c)
    if text = [] then none else some (record, text.drop (record.length + 1))
  | ending =>
    if text = [] then none
    else match (Regex.parse .escaped ending).toOption.bind fun (regex, _) => regex.find? text.toArray 0 with
      | some found => if found.last = 0 then some (text, []) else some (text.take found.first, text.drop found.last)
      | none => some (text, [])

/-- What a replacement comes to for a matched text, which an ampersand stands for. -/
def replacement (matched : Octets) : Octets → Octets
  | [] => []
  | '\\' :: '&' :: rest => '&' :: replacement matched rest
  | '\\' :: '\\' :: rest => '\\' :: replacement matched rest
  | '&' :: rest => matched ++ replacement matched rest
  | c :: rest => c :: replacement matched rest

/-- Replaces the first match from a position on, or all of them: the text from there, and how
many there were. An empty match right behind another one does not count. -/
def replaceFrom (regex : Regex) (template : Octets) (all : Bool) (text : Array Char) :
    Nat → Nat → Option Nat → Octets × Nat
  | 0, start, _ => (Regex.part text start text.size, 0)
  | fuel + 1, start, behind =>
    match regex.find? text start with
    | none => (Regex.part text start text.size, 0)
    | some found =>
      let isEmpty := found.first = found.last
      let counts := !(isEmpty && behind = some found.first)
      let value := if counts then replacement (Regex.part text found.first found.last) template else []
      let next := if isEmpty then found.last + 1 else found.last
      let (rest, more) :=
        if next > text.size then ([], 0)
        else if all || !counts then
          replaceFrom regex template all text fuel next (if isEmpty then none else some next)
        else (Regex.part text next text.size, 0)
      (Regex.part text start found.first ++ value ++ Regex.part text found.last next ++ rest,
        if counts then more + 1 else more)

def replace (regex : Regex) (template : Octets) (all : Bool) (text : Octets) : Octets × Nat :=
  replaceFrom regex template all text.toArray (2 * text.length + 2) 0 none

end ComponentViews.Shell.Awk
