import ComponentViews.Shell.CharSet

/-! Patterns for texts: an asterisk stands for any characters, a question mark for one,
and brackets for one of a set. Quoted characters stand for themselves. -/

namespace ComponentViews.Shell

inductive Glyph where
  | char (value : Char)
  | one
  | any
  | oneOf (set : CharSet)
  deriving DecidableEq, Repr

namespace Glyph

/-- The glyphs of characters, each with whether it is quoted. -/
def parseFrom : Nat → List (Char × Bool) → List Glyph
  | 0, _ => []
  | _ + 1, [] => []
  | fuel + 1, ('*', false) :: rest => .any :: parseFrom fuel rest
  | fuel + 1, ('?', false) :: rest => .one :: parseFrom fuel rest
  | fuel + 1, ('[', false) :: rest =>
    match CharSet.read? '!' rest with
    | some (set, after) => .oneOf set :: parseFrom fuel after
    | none => .char '[' :: parseFrom fuel rest
  | fuel + 1, ('\\', false) :: (c, _) :: rest => .char c :: parseFrom fuel rest
  | fuel + 1, (c, _) :: rest => .char c :: parseFrom fuel rest

def parse (input : List (Char × Bool)) : List Glyph := parseFrom (input.length + 1) input

def admits (c : Char) : Glyph → Bool
  | .char value => c = value
  | .one => true
  | .any => true
  | .oneOf set => set.contains c

/-- What may still have to come: the glyphs themselves, or those behind an asterisk. -/
def reachable : List Glyph → List (List Glyph)
  | .any :: rest => (.any :: rest) :: reachable rest
  | glyphs => [glyphs]

/-- Adds what may still have to come; remainders of one pattern differ in length. -/
def merge (remainders : List (List Glyph)) (found : List (List Glyph)) : List (List Glyph) :=
  found.foldl (fun found glyphs => if found.any (·.length = glyphs.length) then found else glyphs :: found) remainders

/-- What may still have to come behind a character. -/
def behind (remainders : List (List Glyph)) (c : Char) : List (List Glyph) :=
  remainders.foldl (fun found glyphs =>
    match glyphs with
    | [] => found
    | .any :: rest => merge found (reachable (.any :: rest))
    | glyph :: rest => if glyph.admits c then merge found (reachable rest) else found) []

/-- Whether glyphs match a whole text. -/
def fits (glyphs : List Glyph) (text : Octets) : Bool := (text.foldl behind (reachable glyphs)).any List.isEmpty

/-- How long the starts of a text are that fit, shortest first. -/
def lengthsFrom (length : Nat) (remainders : List (List Glyph)) : Octets → List Nat
  | [] => if remainders.any List.isEmpty then [length] else []
  | c :: text =>
    let later := if remainders.isEmpty then [] else lengthsFrom (length + 1) (behind remainders c) text
    if remainders.any List.isEmpty then length :: later else later

def fittingLengths (glyphs : List Glyph) (text : Octets) : List Nat := lengthsFrom 0 (reachable glyphs) text

/-- How much of a text fits, at most or at least, nothing if no start of it does. -/
def fittingLength (most : Bool) (glyphs : List Glyph) (text : Octets) : Nat :=
  let lengths := fittingLengths glyphs text
  ((if most then lengths.getLast? else lengths.head?)).getD 0

/-- A text without the start that fits. -/
def trimStart (most : Bool) (glyphs : List Glyph) (text : Octets) : Octets :=
  text.drop (fittingLength most glyphs text)

/-- A text without the end that fits, which is the start of the text read backwards. -/
def trimEnd (most : Bool) (glyphs : List Glyph) (text : Octets) : Octets :=
  (trimStart most glyphs.reverse text.reverse).reverse

end Glyph
end ComponentViews.Shell
