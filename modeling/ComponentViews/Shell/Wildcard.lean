import ComponentViews.Shell.CharSet

/-! Patterns of the extended dialect, in which groups of patterns may stand: for any one of them, for
one or none, for one after another, or for what none of them fits. A pattern is matched against
all starts of a text at once, as far as they differ in what they leave over. -/

namespace ComponentViews.Shell

inductive Wildcard where
  | char (value : Char)
  | one
  | any
  | oneOf (set : CharSet)
  | group (sign : Char) (alternatives : List (List Wildcard))

namespace Wildcard

mutual

/-- The pattern that characters make up, each with whether it is quoted; within a group up to where
a part of it ends. -/
def parseFrom (groups : Bool) : Nat → Bool → List (Char × Bool) → List Wildcard × List (Char × Bool)
  | 0, _, input => ([], input)
  | _ + 1, _, [] => ([], [])
  | fuel + 1, inside, (c, quoted) :: rest =>
    let goOn (first : Wildcard) (rest : List (Char × Bool)) : List Wildcard × List (Char × Bool) :=
      let (later, rest) := parseFrom groups fuel inside rest
      (first :: later, rest)
    let opens := groups && !quoted && c ∈ ['?', '*', '+', '@', '!'] && rest.head? = some ('(', false)
    match if opens then alternativesFrom groups fuel (rest.drop 1) else none with
    | some (alternatives, rest) => goOn (.group c alternatives) rest
    | none =>
      if quoted then goOn (.char c) rest
      else if inside && (c = '|' || c = ')') then ([], (c, quoted) :: rest)
      else match c, rest with
        | '*', rest => goOn .any rest
        | '?', rest => goOn .one rest
        | '[', rest =>
          match (CharSet.read? '!' rest).orElse fun () => CharSet.read? '^' rest with
          | some (set, after) =>
            let negated := (rest.head?.map Prod.fst) = some '^'
            goOn (.oneOf (if negated then ((CharSet.read? '^' rest).map Prod.fst).getD set else set)) after
          | none => goOn (.char '[') rest
        | '\\', (c, _) :: rest => goOn (.char c) rest
        | c, rest => goOn (.char c) rest

/-- The patterns of a group, up to and with its end. -/
def alternativesFrom (groups : Bool) : Nat → List (Char × Bool) → Option (List (List Wildcard) × List (Char × Bool))
  | 0, _ => none
  | fuel + 1, input =>
    let (first, rest) := parseFrom groups fuel true input
    match rest with
    | ('|', _) :: rest => (alternativesFrom groups fuel rest).map fun (later, rest) => (first :: later, rest)
    | (_, _) :: rest => some ([first], rest)
    | [] => none

end

/-- The pattern that characters make up, with groups or without. -/
def parse (groups : Bool) (input : List (Char × Bool)) : List Wildcard :=
  (parseFrom groups (2 * input.length + 2) false input).1

/-- What a start of a text leaves over, with its length. -/
abbrev Remainder := Nat × Octets

/-- Remainders without those that are there twice, the longest first. -/
def distinct (remainders : List Remainder) : List Remainder :=
  let ordered := remainders.mergeSort fun a b => decide (a.1 ≥ b.1)
  (ordered.foldl (fun found remainder =>
    if found.head?.any (·.1 = remainder.1) then found else remainder :: found) []).reverse

def admits (folds : Bool) (c : Char) (accepts : Char → Bool) : Bool :=
  accepts c || folds && (accepts c.toLower || accepts c.toUpper)

/-- Remainders behind a character that is accepted. -/
def behind (folds : Bool) (accepts : Char → Bool) (remainders : List Remainder) : List Remainder :=
  remainders.filterMap fun
    | (length + 1, c :: rest) => if admits folds c accepts then some (length, rest) else none
    | _ => none

/-- All ends of a text. -/
def tails : Octets → List Remainder
  | [] => [(0, [])]
  | c :: rest => (rest.length + 1, c :: rest) :: tails rest

mutual

/-- What is left over behind a pattern. -/
def followAll (folds : Bool) : Nat → List Wildcard → List Remainder → List Remainder
  | 0, _, _ => []
  | _ + 1, [], remainders => remainders
  | fuel + 1, wildcard :: rest, remainders =>
    if remainders = [] then [] else followAll folds fuel rest (follow folds fuel wildcard remainders)

def follow (folds : Bool) : Nat → Wildcard → List Remainder → List Remainder
  | 0, _, _ => []
  | _ + 1, .char value, remainders => behind folds (· = value) remainders
  | _ + 1, .one, remainders => behind false (fun _ => true) remainders
  | _ + 1, .oneOf set, remainders => behind folds set.contains remainders
  | _ + 1, .any, remainders => ((distinct remainders).head?.map fun longest => tails longest.2).getD []
  | fuel + 1, .group sign alternatives, remainders =>
    let once := followAny folds fuel alternatives remainders
    match sign with
    | '?' => distinct (remainders ++ once)
    | '*' => distinct (remainders ++ repeated folds fuel alternatives once)
    | '+' => repeated folds fuel alternatives once
    | '!' => distinct (remainders.flatMap fun remainder =>
      let fitting := (followAny folds fuel alternatives [remainder]).map Prod.fst
      (tails remainder.2).filter fun rest => !fitting.contains rest.1)
    | _ => once

def followAny (folds : Bool) : Nat → List (List Wildcard) → List Remainder → List Remainder
  | 0, _, _ => []
  | fuel + 1, alternatives, remainders =>
    distinct (alternatives.flatMap fun alternative => followAll folds fuel alternative remainders)

/-- What is left over behind one alternative and then any number of them. -/
def repeated (folds : Bool) : Nat → List (List Wildcard) → List Remainder → List Remainder
  | 0, _, remainders => remainders
  | fuel + 1, alternatives, remainders =>
    let further := (followAny folds fuel alternatives remainders).filter fun remainder =>
      !remainders.any (·.1 = remainder.1)
    if further = [] then remainders else distinct (remainders ++ repeated folds fuel alternatives further)

end

/-- How much there may be to follow in a pattern and a text. -/
def bound (pattern : List Wildcard) (text : Octets) : Nat := 64 * (pattern.length + 2) + 4 * text.length

/-- What the starts of a text that fit leave over, the most first. -/
def remainders (folds : Bool) (pattern : List Wildcard) (text : Octets) : List Remainder :=
  distinct (followAll folds (bound pattern text) pattern [(text.length, text)])

/-- Whether a pattern fits a whole text, perhaps without regard to case. -/
def fits (folds : Bool) (pattern : List Wildcard) (text : Octets) : Bool :=
  (remainders folds pattern text).any (·.1 = 0)

/-- A text without the start that fits, the longest or the shortest. -/
def trimStart (most : Bool) (pattern : List Wildcard) (text : Octets) : Octets :=
  let left := remainders false pattern text
  ((if most then left.getLast? else left.head?).map Prod.snd).getD text

/-- A text without the end that fits, the longest or the shortest. -/
def trimEnd (most : Bool) (pattern : List Wildcard) (text : Octets) : Octets :=
  let ends := (tails text).filter fun tail => fits false pattern tail.2
  match if most then ends.head? else ends.getLast? with
  | some (length, _) => text.take (text.length - length)
  | none => text

/-- The length of the longest start of a text that fits. -/
def longest? (folds : Bool) (pattern : List Wildcard) (text : Octets) : Option Nat :=
  (remainders folds pattern text).getLast?.map fun remainder => text.length - remainder.1

/-- A text in which what fits gives way: the first such part, or all of them. -/
def replace (folds every : Bool) (pattern : List Wildcard) (image : Octets → Octets) : Nat → Octets → Octets
  | 0, text => text
  | _ + 1, [] => []
  | fuel + 1, c :: rest =>
    match (longest? folds pattern (c :: rest)).filter (· > 0) with
    | some length =>
      let behind := (c :: rest).drop length
      image ((c :: rest).take length) ++ (if every then replace folds every pattern image fuel behind else behind)
    | none => c :: replace folds every pattern image fuel rest

/-- A text in which its start or its end gives way if it fits. -/
def replaceAt (folds atStart : Bool) (pattern : List Wildcard) (image : Octets → Octets) (text : Octets) : Octets :=
  if atStart then
    match longest? folds pattern text with
    | some length => image (text.take length) ++ text.drop length
    | none => text
  else
    match (tails text).find? fun tail => fits folds pattern tail.2 with
    | some (length, tail) => text.take (text.length - length) ++ image tail
    | none => text

end Wildcard
end ComponentViews.Shell
