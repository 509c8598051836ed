import ComponentViews.Shell.CharSet
import ComponentViews.Shell.Format

/-! Patterns whose ways to match are tried in order, so that the first one counts and not the
longest. They look ahead and back, and repeat as often or as seldom as they can. -/

namespace ComponentViews.Shell

inductive Pattern where
  | empty
  /-- Nothing matches. -/
  | never
  | oneOf (set : CharSet)
  | start
  | stop
  /-- A border of a word is here, or is not. -/
  | border (holds : Bool)
  | group (number : Nat) (body : Pattern)
  /-- The text that a group stands for, once more, perhaps in letters of the other case. -/
  | again (number : Nat) (ignoringCase : Bool)
  | sequence (first second : Pattern)
  | either (first second : Pattern)
  | repeated (body : Pattern) (least : Nat) (most : Option Nat) (greedy : Bool)
  /-- Only the first way to match counts, whatever follows. -/
  | settled (body : Pattern)
  /-- What is ahead matches, or does not. -/
  | ahead (holds : Bool) (body : Pattern)
  /-- What has so many characters and stands in front matches. -/
  | behind (length : Nat) (body : Pattern)
  /-- What is in front does not match. -/
  | notBehind (length : Nat) (body : Pattern)
  /-- The match is said to begin here. -/
  | fresh
  deriving DecidableEq, Repr

namespace Pattern

inductive Fault where
  | openGroup
  | closedGroup
  | openSet
  | nothingRepeated
  | disorderedCounts
  | unboundedBehind
  | lastBackslash
  | unknownGroup
  | unknownEscape
  | unknownClass
  | disorderedRange
  | classOutside
  | reference
  deriving DecidableEq, Repr

def Fault.message : Fault → String
  | .openGroup => "missing closing parenthesis"
  | .closedGroup => "unmatched closing parenthesis"
  | .openSet => "missing terminating ] for character class"
  | .nothingRepeated => "quantifier does not follow a repeatable item"
  | .disorderedCounts => "numbers out of order in \x7b\x7d quantifier"
  | .unboundedBehind => "lookbehind assertion is not fixed length"
  | .lastBackslash => "\\ at end of pattern"
  | .unknownGroup => "unrecognized character after (? or (?-"
  | .unknownEscape => "unrecognized character follows \\"
  | .unknownClass => "unknown POSIX class name"
  | .disorderedRange => "range out of order in character class"
  | .classOutside => "POSIX named classes are supported only within a class"
  | .reference => "reference to non-existent subpattern"

/-! ### Sets -/

abbrev Ranges := List (Char × Char)

/-- All octets that are not in some ranges. -/
def outside (ranges : Ranges) : Ranges :=
  let set : CharSet := { negated := true, ranges }
  (((List.range 256).map Char.ofNat).filter set.contains).map fun c => (c, c)

def wordRanges : Ranges := [('a', 'z'), ('A', 'Z'), ('0', '9'), ('_', '_')]

/-- The ranges of a property by its name. -/
def propertyRanges? (name : String) : Option Ranges :=
  match name with
  | "L" => some [('a', 'z'), ('A', 'Z')]
  | "Lu" => some [('A', 'Z')]
  | "Ll" => some [('a', 'z')]
  | "N" => some [('0', '9')]
  | "Nd" => some [('0', '9')]
  | "P" => some [('!', '#'), ('%', '*'), (',', '/'), (':', ';'), ('?', '@'), ('[', ']'), ('_', '_'), ('\x7b', '\x7b'),
    ('\x7d', '\x7d')]
  | "S" => some [('$', '$'), ('+', '+'), ('<', '>'), ('^', '^'), ('\x60', '\x60'), ('|', '|'), ('~', '~')]
  | "Z" => some [(' ', ' '), ('\xa0', '\xa0')]
  | "Zs" => some [(' ', ' '), ('\xa0', '\xa0')]
  | _ => none

/-- The ranges that a letter behind a backslash stands for. -/
def letterRanges? (letter : Char) : Option Ranges :=
  match letter with
  | 'd' => some [('0', '9')]
  | 'w' => some wordRanges
  | 's' => some [(' ', ' '), ('\t', '\x0d')]
  | 'h' => some [(' ', ' '), ('\t', '\t'), ('\xa0', '\xa0')]
  | 'v' => some [('\n', '\x0d'), ('\x85', '\x85')]
  | 'D' => some (outside [('0', '9')])
  | 'W' => some (outside wordRanges)
  | 'S' => some (outside [(' ', ' '), ('\t', '\x0d')])
  | 'H' => some (outside [(' ', ' '), ('\t', '\t'), ('\xa0', '\xa0')])
  | 'V' => some (outside [('\n', '\x0d'), ('\x85', '\x85')])
  | 'N' => some (outside [('\n', '\n')])
  | _ => none

def setOf (ranges : Ranges) : CharSet := { negated := false, ranges }

/-- A character, in either case if that does not count. -/
def charSet (ignoringCase : Bool) (c : Char) : CharSet :=
  if ignoringCase then .ofList [c.toLower, c.toUpper] else .ofList [c]

/-- Ranges with the letters of the other case added. -/
def folded (ranges : Ranges) : Ranges :=
  let set := setOf ranges
  ranges ++ ((List.range 26).map fun index => Char.ofNat ('a'.toNat + index)).flatMap fun lower =>
    if set.contains lower ∨ set.contains lower.toUpper then
      [(lower, lower), (lower.toUpper, lower.toUpper)]
    else []

/-! ### Reading -/

/-- What counts from some place on. -/
structure Manner where
  ignoringCase : Bool
  /-- Blanks and remarks do not count. -/
  spaced : Bool
  /-- A point stands for line ends too. -/
  dotsAll : Bool

structure Reading where
  rest : Octets
  groups : Nat
  names : List (Octets × Nat)
  manner : Manner

def hexValue? (c : Char) : Option Nat :=
  if Name.isDigit c then some (c.toNat - '0'.toNat)
  else if 'a' ≤ c ∧ c ≤ 'f' then some (c.toNat - 'a'.toNat + 10)
  else if 'A' ≤ c ∧ c ≤ 'F' then some (c.toNat - 'A'.toNat + 10)
  else none

def hexNumber (digits : Octets) : Nat := digits.foldl (fun value c => value * 16 + (hexValue? c).getD 0) 0

/-- The character that an escape in a text stands for, and the rest. -/
def escapedChar? (input : Octets) : Option (Char × Octets) :=
  match input with
  | 'x' :: '\x7b' :: rest =>
    let digits := rest.takeWhile (· ≠ '\x7d')
    some (Char.ofNat (hexNumber digits % 256), rest.drop (digits.length + 1))
  | 'x' :: rest =>
    let digits := (rest.take 2).takeWhile fun c => (hexValue? c).isSome
    some (Char.ofNat (hexNumber digits), rest.drop digits.length)
  | 't' :: rest => some ('\t', rest)
  | 'n' :: rest => some ('\n', rest)
  | 'r' :: rest => some ('\x0d', rest)
  | 'f' :: rest => some ('\x0c', rest)
  | 'e' :: rest => some ('\x1b', rest)
  | 'a' :: rest => some ('\x07', rest)
  | '0' :: rest =>
    let (value, rest) := Format.readOctal 2 0 rest
    some (Format.octet value, rest)
  | 'c' :: c :: rest => some (Char.ofNat (c.toUpper.toNat ^^^ 64), rest)
  | c :: rest => if ('a' ≤ c.toLower ∧ c.toLower ≤ 'z') ∨ Name.isDigit c then none else some (c, rest)
  | [] => none

/-- The ranges of a property behind its letter, and the rest. -/
def property? (input : Octets) : Option (Ranges × Octets) :=
  let (name, rest) := match input with
    | '\x7b' :: rest =>
      let name := rest.takeWhile (· ≠ '\x7d')
      (name, rest.drop (name.length + 1))
    | c :: rest => ([c], rest)
    | [] => ([], [])
  match name with
  | '^' :: name => (propertyRanges? (String.ofList name)).map fun ranges => (outside ranges, rest)
  | name => (propertyRanges? (String.ofList name)).map (·, rest)

/-- A member of a set: a character, or ranges by a name; and the rest. -/
def readMember (input : Octets) : Except Fault ((Char ⊕ Ranges) × Octets) :=
  match input with
  | '[' :: ':' :: rest =>
    let name := rest.takeWhile (· ≠ ':')
    match rest.drop name.length with
    | ':' :: ']' :: after =>
      let negated := name.head? = some '^'
      match CharSet.named? (String.ofList (if negated then name.drop 1 else name)) with
      | some ranges => .ok (.inr (if negated then outside ranges else ranges), after)
      | none => if name = ['w', 'o', 'r', 'd'] then .ok (.inr wordRanges, after) else .error .unknownClass
    | _ => .ok (.inl '[', ':' :: rest)
  | '\\' :: 'b' :: rest => .ok (.inl '\x08', rest)
  | '\\' :: 'p' :: rest => ((property? rest).map fun (ranges, rest) => (.inr ranges, rest)).elim (.error .unknownEscape) .ok
  | '\\' :: c :: rest =>
    match letterRanges? c, escapedChar? (c :: rest) with
    | some ranges, _ => .ok (.inr ranges, rest)
    | none, some (c, rest) => .ok (.inl c, rest)
    | none, none => .error .unknownEscape
  | c :: rest => .ok (.inl c, rest)
  | [] => .error .openSet

/-- The ranges of a set up to its closing bracket, and the rest behind it. -/
def readMembers : Nat → Bool → Octets → Except Fault (Ranges × Octets)
  | 0, _, _ => .error .openSet
  | _ + 1, _, [] => .error .openSet
  | _ + 1, false, ']' :: rest => .ok ([], rest)
  | fuel + 1, _, input => do
    let (member, rest) ← readMember input
    let (ranges, rest) ← match member, rest with
      | .inl low, '-' :: c :: after =>
        if c = ']' then pure ([(low, low)], rest)
        else do
          let (high, after) ← readMember (c :: after)
          match high with
          | .inl high => if high < low then .error .disorderedRange else pure ([(low, high)], after)
          | .inr ranges => pure ([(low, low), ('-', '-')] ++ ranges, after)
      | .inl c, rest => pure ([(c, c)], rest)
      | .inr ranges, rest => pure (ranges, rest)
    let (later, rest) ← readMembers fuel false rest
    pure (ranges ++ later, rest)

/-- A set behind its opening bracket. -/
def readSet (manner : Manner) (input : Octets) : Except Fault (CharSet × Octets) := do
  let negated := input.head? = some '^'
  let members := if negated then input.drop 1 else input
  let (ranges, rest) ← readMembers (members.length + 1) true members
  pure ({ negated, ranges := if manner.ignoringCase then folded ranges else ranges }, rest)

/-- How often something is repeated: the least and the greatest number, and the rest. -/
def counts? (input : Octets) : Option ((Nat × Option Nat) × Octets) :=
  match input with
  | '*' :: rest => some ((0, none), rest)
  | '+' :: rest => some ((1, none), rest)
  | '?' :: rest => some ((0, some 1), rest)
  | '\x7b' :: rest =>
    let number (digits : Octets) : Nat := digits.foldl (fun value c => value * 10 + (c.toNat - '0'.toNat)) 0
    let least := rest.takeWhile Name.isDigit
    if least = [] then none
    else match rest.drop least.length with
      | '\x7d' :: rest => some ((number least, some (number least)), rest)
      | ',' :: rest =>
        let most := rest.takeWhile Name.isDigit
        match rest.drop most.length with
        | '\x7d' :: rest => some ((number least, if most = [] then none else some (number most)), rest)
        | _ => none
      | _ => none
  | _ => none

/-- The repetition behind a pattern, and the rest. -/
def readRepetition (body : Pattern) (input : Octets) : Except Fault (Pattern × Octets) :=
  match counts? input with
  | none => .ok (body, input)
  | some ((least, most), rest) =>
    if most.any (· < least) then .error .disorderedCounts
    else match rest with
      | '?' :: rest => .ok (.repeated body least most false, rest)
      | '+' :: rest => .ok (.settled (.repeated body least most true), rest)
      | rest => .ok (.repeated body least most true, rest)

/-- How long what matches is, if that is always the same. -/
def length? : Pattern → Option Nat
  | .oneOf _ => some 1
  | .group _ body => body.length?
  | .again _ _ => none
  | .sequence first second => do
    let first ← first.length?
    let second ← second.length?
    pure (first + second)
  | .either first second =>
    match first.length?, second.length? with
    | some first, some second => if first = second then some first else none
    | _, _ => none
  | .repeated body least most _ =>
    if most = some least then body.length?.map (· * least) else none
  | .settled body => body.length?
  | _ => some 0

/-- The patterns that bars separate at the top. -/
def branches : Pattern → List Pattern
  | .either first second => first :: second.branches
  | pattern => [pattern]

/-- A look back at a pattern: each of its branches has a length of its own. -/
def lookingBack (holds : Bool) (body : Pattern) : Except Fault Pattern := do
  let parts ← body.branches.mapM fun branch =>
    match branch.length? with
    | some length => .ok (if holds then .behind length branch else .notBehind length branch)
    | none => .error .unboundedBehind
  pure (if holds then parts.foldr .either .never else parts.foldr .sequence .empty)

/-- What an opening sign begins. -/
inductive Opening where
  | plain
  | counted (name : Octets)
  | looking (ahead holds : Bool)
  | settled
  /-- Letters that change what counts, for a group of their own or for what follows. -/
  | manner (letters : Octets) (alone : Bool)
  | remark

/-- What stands behind an opening parenthesis, and the rest. -/
def readOpening (input : Octets) : Except Fault (Opening × Octets) :=
  let named (closing : Char) (rest : Octets) : Except Fault (Opening × Octets) :=
    let name := rest.takeWhile (· ≠ closing)
    .ok (.counted name, rest.drop (name.length + 1))
  match input with
  | '?' :: ':' :: rest => .ok (.plain, rest)
  | '?' :: '|' :: rest => .ok (.plain, rest)
  | '?' :: '=' :: rest => .ok (.looking true true, rest)
  | '?' :: '!' :: rest => .ok (.looking true false, rest)
  | '?' :: '<' :: '=' :: rest => .ok (.looking false true, rest)
  | '?' :: '<' :: '!' :: rest => .ok (.looking false false, rest)
  | '?' :: '>' :: rest => .ok (.settled, rest)
  | '?' :: '#' :: rest => .ok (.remark, rest)
  | '?' :: '<' :: rest => named '>' rest
  | '?' :: 'P' :: '<' :: rest => named '>' rest
  | '?' :: '\'' :: rest => named '\'' rest
  | '?' :: rest =>
    let letters := rest.takeWhile fun c => c = '-' ∨ c = '^' ∨ c ∈ ['i', 'm', 's', 'x', 'J', 'U', 'n']
    match rest.drop letters.length with
    | ')' :: rest => .ok (.manner letters true, rest)
    | ':' :: rest => .ok (.manner letters false, rest)
    | _ => .error .unknownGroup
  | rest => .ok (.counted [], rest)

/-- What counts after some letters have changed it. -/
def Manner.changed (manner : Manner) (letters : Octets) : Manner :=
  let on := letters.takeWhile (· ≠ '-')
  let off := letters.drop on.length
  let set (letter : Char) (before : Bool) : Bool := on.contains letter || (before && !off.contains letter)
  { ignoringCase := set 'i' manner.ignoringCase, spaced := set 'x' manner.spaced, dotsAll := set 's' manner.dotsAll }

/-- What a backslash and what follows stand for, and the rest. -/
def readEscape (reading : Reading) (input : Octets) : Except Fault (Pattern × Octets) :=
  let again (number : Nat) (rest : Octets) : Except Fault (Pattern × Octets) :=
    if number ≤ reading.groups then .ok (.again number reading.manner.ignoringCase, rest) else .error .reference
  let called (closing : Char) (rest : Octets) : Except Fault (Pattern × Octets) :=
    let name := rest.takeWhile (· ≠ closing)
    match reading.names.lookup name with
    | some number => again number (rest.drop (name.length + 1))
    | none => .error .reference
  let number (digits : Octets) : Nat := digits.foldl (fun value c => value * 10 + (c.toNat - '0'.toNat)) 0
  match input with
  | [] => .error .lastBackslash
  | 'b' :: rest => .ok (.border true, rest)
  | 'B' :: rest => .ok (.border false, rest)
  | 'A' :: rest => .ok (.start, rest)
  | 'G' :: rest => .ok (.start, rest)
  | 'z' :: rest => .ok (.stop, rest)
  | 'Z' :: rest => .ok (.stop, rest)
  | 'K' :: rest => .ok (.fresh, rest)
  | 'R' :: rest => .ok (.oneOf (setOf [('\n', '\x0d'), ('\x85', '\x85')]), rest)
  | 'E' :: rest => .ok (.empty, rest)
  | 'Q' :: rest =>
    let literal (c : Char) : Pattern := .oneOf (charSet reading.manner.ignoringCase c)
    let text := upToEnd (rest.length + 1) rest
    .ok (text.foldr (fun c pattern => .sequence (literal c) pattern) .empty, rest.drop (text.length + 2))
  | 'p' :: rest => ((property? rest).map fun (ranges, rest) => (.oneOf (setOf ranges), rest)).elim (.error .unknownEscape) .ok
  | 'P' :: rest => ((property? rest).map fun (ranges, rest) => (.oneOf { negated := true, ranges }, rest)).elim
    (.error .unknownEscape) .ok
  | 'k' :: '<' :: rest => called '>' rest
  | 'k' :: '\x7b' :: rest => called '\x7d' rest
  | 'k' :: '\'' :: rest => called '\'' rest
  | 'g' :: '\x7b' :: rest =>
    let name := rest.takeWhile (· ≠ '\x7d')
    if name.all Name.isDigit then again (number name) (rest.drop (name.length + 1))
    else if name.head? = some '-' then again (reading.groups + 1 - number (name.drop 1)) (rest.drop (name.length + 1))
    else called '\x7d' rest
  | 'g' :: rest =>
    let digits := rest.takeWhile Name.isDigit
    again (number digits) (rest.drop digits.length)
  | c :: rest =>
    if '1' ≤ c ∧ c ≤ '9' then
      let digits := (c :: rest).takeWhile Name.isDigit
      again (number digits) ((c :: rest).drop digits.length)
    else match letterRanges? c, escapedChar? (c :: rest) with
      | some ranges, _ => .ok (.oneOf (setOf ranges), rest)
      | none, some (c, rest) => .ok (.oneOf (charSet reading.manner.ignoringCase c), rest)
      | none, none => .error .unknownEscape
where
  /-- A text in front of the sign that ends it. -/
  upToEnd : Nat → Octets → Octets
    | 0, _ => []
    | _ + 1, [] => []
    | _ + 1, '\\' :: 'E' :: _ => []
    | fuel + 1, c :: rest => c :: upToEnd fuel rest

mutual

/-- Branches with bars between them. -/
def readEither : Nat → Reading → Except Fault (Pattern × Reading)
  | 0, _ => .error .openGroup
  | fuel + 1, reading => do
    let (first, reading) ← readBranch fuel reading
    match reading.rest with
    | '|' :: rest =>
      let (second, reading) ← readEither fuel { reading with rest }
      pure (.either first second, reading)
    | _ => pure (first, reading)

/-- What stands up to a bar or the end of a group. -/
def readBranch : Nat → Reading → Except Fault (Pattern × Reading)
  | 0, _ => .error .openGroup
  | fuel + 1, reading =>
    let followed (atom : Pattern) (reading : Reading) : Except Fault (Pattern × Reading) := do
      let (atom, rest) ← readRepetition atom reading.rest
      let (second, reading) ← readBranch fuel { reading with rest }
      pure (.sequence atom second, reading)
    match reading.rest with
    | [] => .ok (.empty, reading)
    | '|' :: _ => .ok (.empty, reading)
    | ')' :: _ => .ok (.empty, reading)
    | '(' :: rest => do
      let (opening, rest) ← readOpening rest
      let inner (groups : Nat) (names : List (Octets × Nat)) (manner : Manner) :
          Except Fault (Pattern × Reading) := do
        let (body, after) ← readEither fuel { rest, groups, names, manner }
        match after.rest with
        | ')' :: rest => pure (body, { after with rest, manner := reading.manner })
        | _ => .error .openGroup
      match opening with
      | .remark => readBranch fuel { reading with rest := (rest.dropWhile (· ≠ ')')).drop 1 }
      | .manner letters true => readBranch fuel { reading with rest, manner := reading.manner.changed letters }
      | .manner letters false => do
        let (body, reading) ← inner reading.groups reading.names (reading.manner.changed letters)
        followed body reading
      | .plain => do
        let (body, reading) ← inner reading.groups reading.names reading.manner
        followed body reading
      | .settled => do
        let (body, reading) ← inner reading.groups reading.names reading.manner
        followed (.settled body) reading
      | .looking true holds => do
        let (body, reading) ← inner reading.groups reading.names reading.manner
        followed (.ahead holds body) reading
      | .looking false holds => do
        let (body, reading) ← inner reading.groups reading.names reading.manner
        let body ← lookingBack holds body
        followed body reading
      | .counted name => do
        let number := reading.groups + 1
        let names := if name = [] then reading.names else (name, number) :: reading.names
        let (body, reading) ← inner number names reading.manner
        followed (.group number body) reading
    | '^' :: rest => followed .start { reading with rest }
    | '$' :: rest => followed .stop { reading with rest }
    | '.' :: rest =>
      let point : Pattern := .oneOf { negated := true, ranges := if reading.manner.dotsAll then [] else [('\n', '\n')] }
      followed point { reading with rest }
    | '[' :: ':' :: rest => do
      let name := rest.takeWhile (· ≠ ':')
      if [':', ']'].isPrefixOf (rest.drop name.length) ∧ name.all Name.isInner then .error .classOutside
      else
        let (set, rest) ← readSet reading.manner (':' :: rest)
        followed (.oneOf set) { reading with rest }
    | '[' :: rest => do
      let (set, rest) ← readSet reading.manner rest
      followed (.oneOf set) { reading with rest }
    | '\\' :: rest => do
      let (atom, rest) ← readEscape reading rest
      followed atom { reading with rest }
    | c :: rest =>
      if (counts? (c :: rest)).isSome then .error .nothingRepeated
      else if reading.manner.spaced ∧ (Name.isBlank c ∨ c = '\n') then readBranch fuel { reading with rest }
      else if reading.manner.spaced ∧ c = '#' then readBranch fuel { reading with rest := rest.dropWhile (· ≠ '\n') }
      else followed (.oneOf (charSet reading.manner.ignoringCase c)) { reading with rest }

end

/-- The pattern that a text spells out. -/
def parse (ignoringCase : Bool) (source : Octets) : Except Fault Pattern := do
  let manner : Manner := { ignoringCase, spaced := false, dotsAll := false }
  let (pattern, reading) ← readEither (4 * (source.length + 2)) { rest := source, groups := 0, names := [], manner }
  if reading.rest = [] then pure pattern else .error .closedGroup

/-- A pattern that stands for whole words, or for whole lines. -/
def whole (words lines : Bool) (pattern : Pattern) : Pattern :=
  let isWord : Pattern := .oneOf (setOf wordRanges)
  let pattern := if words then .sequence (.notBehind 1 isWord) (.sequence pattern (.ahead false isWord)) else pattern
  if lines then .sequence .start (.sequence pattern .stop) else pattern

/-! ### Matching -/

/-- How far a try has come: the place it has reached, where the match is said to begin, and
what groups stand for. -/
structure Trail where
  position : Nat
  first : Nat
  groups : List (Nat × Nat × Nat)

def isBorder (text : Array Char) (position : Nat) : Bool :=
  let isWord (index : Nat) : Bool := text[index]?.any Name.isInner
  (position > 0 && isWord (position - 1)) != isWord position

/-- Whether a text stands at a position. -/
def standsAt (text : Array Char) (ignoringCase : Bool) (origin length position : Nat) : Bool :=
  let seen (index : Nat) : Option Char := text[index]?.map fun c => if ignoringCase then c.toLower else c
  position + length ≤ text.size && (List.range length).all fun index => seen (origin + index) = seen (position + index)

/-- How many characters of a set there are from a position on, but no more than some. -/
def run (text : Array Char) (set : CharSet) : Nat → Nat → Nat
  | 0, _ => 0
  | most + 1, position => if text[position]?.any set.contains then run text set most (position + 1) + 1 else 0

/-- Goes on behind one of so many counts of characters: the first that leads somewhere. -/
def firstCount (next : Trail → Option Trail) (trail : Trail) : List Nat → Option Trail
  | [] => none
  | count :: counts =>
    match next { trail with position := trail.position + count } with
    | some found => some found
    | none => firstCount next trail counts

/-- Repeats what one try does, and goes on from there. A repetition that reaches nothing new is
not tried again. -/
def tryTimes (one : Trail → (Trail → Option Trail) → Option Trail) (least : Nat) (most : Option Nat) (greedy : Bool) :
    Nat → Nat → Trail → (Trail → Option Trail) → Option Trail
  | 0, _, trail, next => next trail
  | fuel + 1, count, trail, next =>
    let further (_ : Unit) : Option Trail :=
      if most.any (· ≤ count) then none
      else one trail fun reached =>
        if reached.position = trail.position ∧ least ≤ count then none
        else tryTimes one least most greedy fuel (count + 1) reached next
    let onward (_ : Unit) : Option Trail := if least ≤ count then next trail else none
    if greedy then
      match further () with
      | some found => some found
      | none => onward ()
    else
      match onward () with
      | some found => some found
      | none => further ()

/-- Tries a match, and goes on from where it ends. -/
def tryMatch (text : Array Char) : Pattern → Trail → (Trail → Option Trail) → Option Trail
  | .empty, trail, next => next trail
  | .never, _, _ => none
  | .oneOf set, trail, next =>
    if text[trail.position]?.any set.contains then next { trail with position := trail.position + 1 } else none
  | .start, trail, next => if trail.position = 0 then next trail else none
  | .stop, trail, next => if trail.position = text.size then next trail else none
  | .border holds, trail, next => if isBorder text trail.position = holds then next trail else none
  | .group number body, trail, next =>
    tryMatch text body trail fun reached =>
      next { reached with groups := (number, trail.position, reached.position) :: reached.groups }
  | .again number ignoringCase, trail, next =>
    match trail.groups.lookup number with
    | some (first, last) =>
      if standsAt text ignoringCase first (last - first) trail.position then
        next { trail with position := trail.position + (last - first) }
      else none
    | none => none
  | .sequence first second, trail, next => tryMatch text first trail fun reached => tryMatch text second reached next
  | .either first second, trail, next =>
    match tryMatch text first trail next with
    | some found => some found
    | none => tryMatch text second trail next
  | .repeated (.oneOf set) least most greedy, trail, next =>
    let extent := run text set (min (most.getD text.size) text.size) trail.position
    let counts := (List.range (extent + 1)).drop least
    firstCount next trail (if greedy then counts.reverse else counts)
  | .repeated body least most greedy, trail, next =>
    tryTimes (tryMatch text body) least most greedy (text.size + least + 1) 0 trail next
  | .settled body, trail, next => (tryMatch text body trail some).bind next
  | .ahead holds body, trail, next =>
    match tryMatch text body trail some, holds with
    | some found, true => next { found with position := trail.position }
    | none, false => next trail
    | _, _ => none
  | .behind length body, trail, next =>
    if trail.position < length then none
    else
      let back := { trail with position := trail.position - length }
      (tryMatch text body back some).bind fun found => next { found with position := trail.position }
  | .notBehind length body, trail, next =>
    let back := { trail with position := trail.position - length }
    if length ≤ trail.position ∧ (tryMatch text body back some).isSome then none else next trail
  | .fresh, trail, next => next { trail with first := trail.position }

/-- The first match from a position on: where it begins and where it ends. -/
def find? (pattern : Pattern) (text : Array Char) (position : Nat) : Option (Nat × Nat) :=
  ((List.range (text.size + 1)).drop position).findSome? fun position =>
    (tryMatch text pattern { position, first := position, groups := [] } some).map fun trail =>
      (trail.first, trail.position)

end Pattern
end ComponentViews.Shell
