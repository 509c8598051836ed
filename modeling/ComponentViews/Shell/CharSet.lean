import ComponentViews.Shell.Octets

/-! Sets of characters between brackets: single ones, ranges and classes by their names. -/

namespace ComponentViews.Shell

structure CharSet where
  negated : Bool
  ranges : List (Char × Char)
  deriving DecidableEq, Repr

namespace CharSet

def contains (set : CharSet) (c : Char) : Bool :=
  (set.ranges.any fun range => range.1 ≤ c ∧ c ≤ range.2) != set.negated

def ofList (members : List Char) : CharSet := { negated := false, ranges := members.map fun c => (c, c) }

/-- The ranges of a class. -/
def named? (name : String) : Option (List (Char × Char)) :=
  match name with
  | "lower" => some [('a', 'z')]
  | "upper" => some [('A', 'Z')]
  | "alpha" => some [('a', 'z'), ('A', 'Z')]
  | "digit" => some [('0', '9')]
  | "alnum" => some [('a', 'z'), ('A', 'Z'), ('0', '9')]
  | "xdigit" => some [('a', 'f'), ('A', 'F'), ('0', '9')]
  | "blank" => some [(' ', ' '), ('\t', '\t')]
  | "space" => some [(' ', ' '), ('\t', '\x0d')]
  | "punct" => some [('!', '/'), (':', '@'), ('[', '`'), ('\x7b', '~')]
  | "print" => some [(' ', '~')]
  | "graph" => some [('!', '~')]
  | "cntrl" => some [('\x00', '\x1f'), ('\x7f', '\x7f')]
  | _ => none

/-- The class at the start of a text behind its opening sign, and the rest. -/
def readClass (input : List (Char × Bool)) : Option (List (Char × Char) × List (Char × Bool)) :=
  let name := input.takeWhile fun c => c.1 ≠ ':'
  match input.drop name.length with
  | (':', _) :: (']', _) :: rest => (named? (String.ofList (name.map Prod.fst))).map (·, rest)
  | _ => none

/-- The ranges up to the closing bracket, and the rest behind it. Characters come with
whether they are quoted. -/
def readRanges : Nat → List (Char × Bool) → Option (List (Char × Char) × List (Char × Bool))
  | 0, _ => none
  | _ + 1, [] => none
  | _ + 1, (']', false) :: rest => some ([], rest)
  | fuel + 1, (low, quoted) :: rest =>
    match if low = '[' ∧ !quoted ∧ (rest.head?.map Prod.fst) = some ':' then readClass (rest.drop 1) else none with
    | some (ranges, rest) => (readRanges fuel rest).map fun (later, rest) => (ranges ++ later, rest)
    | none =>
      match rest with
      | ('-', false) :: (high, quoted) :: after =>
        if high = ']' ∧ !quoted then some ([(low, low), ('-', '-')], after)
        else (readRanges fuel after).map fun (later, rest) => ((low, high) :: later, rest)
      | rest => (readRanges fuel rest).map fun (later, rest) => ((low, low) :: later, rest)

/-- A set behind its opening bracket, and the rest behind the closing one. A sign negates
it, and a closing bracket in the first place is a member. -/
def read? (negation : Char) (input : List (Char × Bool)) : Option (CharSet × List (Char × Bool)) :=
  let (negated, input) := match input with
    | (c, false) :: rest => if c = negation then (true, rest) else (false, input)
    | input => (false, input)
  let input := match input with
    | (']', _) :: rest => (']', true) :: rest
    | input => input
  (readRanges (input.length + 1) input).map fun (ranges, rest) => ({ negated, ranges }, rest)

end CharSet
end ComponentViews.Shell
