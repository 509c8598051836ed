import ComponentViews.Shell.CharSet
import ComponentViews.Shell.Format

/-! Regular expressions of the basic and the extended kind. Of all matches in a text the
leftmost one counts, and of those the longest. Where an expression can match up to is
computed for sets of positions at once; what its groups stand for is found by trying,
the most repetitions first. -/

namespace ComponentViews.Shell

inductive Regex where
  | empty
  | char (value : Char)
  | any
  | oneOf (set : CharSet)
  | start
  | stop
  /-- A border of a word: where one begins, where one ends, either, or neither. -/
  | border (begins ends : Bool)
  /-- No character of a word stands in front, or behind. -/
  | apart (inFront : Bool)
  | group (number : Nat) (body : Regex)
  /-- The text that a group stands for, once more. -/
  | again (number : Nat)
  | sequence (first second : Regex)
  | either (first second : Regex)
  | repeated (body : Regex) (least : Nat) (most : Option Nat)
  deriving DecidableEq, Repr

namespace Regex

/-- How expressions are spelled. -/
inductive Dialect where
  /-- Operators stand behind backslashes. -/
  | basic
  /-- Operators stand for themselves. -/
  | extended
  /-- As extended, and operators that have no meaning where they stand do no harm. -/
  | lenient
  /-- As extended, and backslashes mean in sets and elsewhere what they mean in texts. -/
  | escaped
  deriving DecidableEq, Repr

inductive Fault where
  | openGroup
  | closedGroup
  | openBracket
  | openInterval
  | interval
  | nothingRepeated
  | lastBackslash
  | reference
  | missingSet
  | className
  | rangeEnd
  | collation
  | tooBig
  deriving DecidableEq, Repr

def Fault.message : Fault → String
  | .openGroup => "Unmatched ( or \\("
  | .closedGroup => "Unmatched ) or \\)"
  | .openBracket => "Unmatched [, [^, [:, [., or [="
  | .openInterval => "Unmatched \\\x7b"
  | .interval => "Invalid content of \\\x7b\\\x7d"
  | .nothingRepeated => "Invalid preceding regular expression"
  | .lastBackslash => "Trailing backslash"
  | .reference => "Invalid back reference"
  | .missingSet => "Invalid regular expression"
  | .className => "Invalid character class name"
  | .rangeEnd => "Invalid range end"
  | .collation => "Invalid collation character"
  | .tooBig => "Regular expression too big"

/-! ### Reading -/

inductive Sign where
  | atom (regex : Regex)
  | opening
  | closing
  | bar
  | repetition (least : Nat) (most : Option Nat)
  | caret
  | dollar
  | backslash
  /-- What cannot be read. -/
  | broken (fault : Fault)
  deriving DecidableEq, Repr

def wordRanges : List (Char × Char) := [('a', 'z'), ('A', 'Z'), ('0', '9'), ('_', '_')]

def blankRanges : List (Char × Char) := [(' ', ' '), ('\t', '\x0d')]

/-- Two numbers in front of a closing sign: the interval and the rest. -/
def readInterval (closing : Octets) (input : Octets) : Option ((Nat × Option Nat) × Octets) :=
  let number (digits : Octets) : Nat := digits.foldl (fun value c => value * 10 + (c.toNat - '0'.toNat)) 0
  let least := input.takeWhile Name.isDigit
  let behind := input.drop least.length
  let most := (behind.drop 1).takeWhile Name.isDigit
  let ended (rest : Octets) (interval : Nat × Option Nat) : Option ((Nat × Option Nat) × Octets) :=
    if closing.isPrefixOf rest then some (interval, rest.drop closing.length) else none
  if behind.head? = some ',' then
    ended (behind.drop (1 + most.length)) (number least, if most = [] then none else some (number most))
  else if least = [] then none
  else ended behind (number least, some (number least))

/-- How often something may be repeated at most if a number says it. -/
def mostTimes : Nat := 32767

/-- The sign of an interval in front of a closing sign, and the rest. -/
def interval (closing input : Octets) : Sign × Octets :=
  match readInterval closing input with
  | some ((least, most), rest) =>
    let sign : Sign := if most.any (· < least) then .broken .interval
      else if least > mostTimes ∨ most.any (· > mostTimes) then .broken .tooBig
      else .repetition least most
    (sign, rest)
  | none =>
    let isClosed := (List.range input.length).any fun index => closing.isPrefixOf (input.drop index)
    (.broken (if isClosed then .interval else .openInterval), input)

/-- What a backslash and a character stand for in expressions of both kinds. -/
def readEscape (c : Char) : Sign :=
  match c with
  | 'w' => .atom (.oneOf { negated := false, ranges := wordRanges })
  | 'W' => .atom (.oneOf { negated := true, ranges := wordRanges })
  | 's' => .atom (.oneOf { negated := false, ranges := blankRanges })
  | 'S' => .atom (.oneOf { negated := true, ranges := blankRanges })
  | '<' => .atom (.border true false)
  | '>' => .atom (.border false true)
  | 'b' => .atom (.border true true)
  | 'B' => .atom (.border false false)
  | '`' => .atom .start
  | '\'' => .atom .stop
  | c =>
    if '1' ≤ c ∧ c ≤ '9' then .atom (.again (c.toNat - '0'.toNat))
    else .atom (.char c)

/-- The end of a set behind its first member: what stands up to the closing bracket, and
the rest. Backslashes keep characters from closing it if they count. -/
def splitSet (escapes : Bool) : Nat → Octets → Option (Octets × Octets)
  | 0, _ => none
  | _ + 1, [] => none
  | _ + 1, ']' :: rest => some ([], rest)
  | fuel + 1, '[' :: mark :: rest =>
    if mark = ':' ∨ (!escapes ∧ (mark = '.' ∨ mark = '=')) then
      let name := rest.takeWhile (· ≠ mark)
      (splitSet escapes fuel (rest.drop (name.length + 2))).map fun (inner, rest) =>
        ('[' :: mark :: name ++ [mark, ']'] ++ inner, rest)
    else (splitSet escapes fuel (mark :: rest)).map fun (inner, behind) => ('[' :: inner, behind)
  | fuel + 1, c :: rest =>
    let length := if escapes ∧ c = '\\' then 2 else 1
    (splitSet escapes fuel (rest.drop (length - 1))).map fun (inner, behind) =>
      ((c :: rest).take length ++ inner, behind)

/-- What stands between brackets behind the opening one, and the rest. -/
def readSet (escapes : Bool) (input : Octets) : Option (Octets × Octets) :=
  let start := if input.head? = some '^' then 1 else 0
  let first := if (input.drop start).head? = some ']' then start + 1 else start
  (splitSet escapes (input.length + 1) (input.drop first)).map fun (inner, rest) => (input.take first ++ inner, rest)

/-- The character behind a backslash in a text, and the rest. -/
def readCharacter (input : Octets) : Option (Char × Octets) :=
  match input with
  | [] => none
  | c :: rest =>
    match Format.letterEscape? c, Format.octalDigit? c with
    | some value, _ => some (value, rest)
    | none, some _ =>
      let (value, rest) := Format.readOctal 3 0 input
      some (Format.octet value, rest)
    | none, none => some (c, rest)

/-- Members of a set, each with whether a backslash stands in front of it. -/
def escapedMembers : Nat → Octets → List (Char × Bool)
  | 0, _ => []
  | _ + 1, [] => []
  | fuel + 1, '\\' :: rest =>
    match readCharacter rest with
    | some (c, rest) => (c, true) :: escapedMembers fuel rest
    | none => [('\\', true)]
  | fuel + 1, c :: rest => (c, false) :: escapedMembers fuel rest

/-- Members of a set in which single characters may have brackets of their own. -/
def plainMembers : Nat → Octets → Except Fault (List (Char × Bool))
  | 0, _ => .ok []
  | _ + 1, [] => .ok []
  | fuel + 1, '[' :: mark :: rest =>
    if mark = '.' ∨ mark = '=' then
      let name := rest.takeWhile (· ≠ mark)
      match name with
      | [c] => (plainMembers fuel (rest.drop 3)).map ((c, true) :: ·)
      | _ => .error .collation
    else if mark = ':' then
      let name := rest.takeWhile (· ≠ ':')
      if (CharSet.named? (String.ofList name)).isNone then .error .className
      else
        (plainMembers fuel (rest.drop (name.length + 2))).map
          ((('[' :: ':' :: name ++ [':', ']']).map (·, false)) ++ ·)
    else (plainMembers fuel (mark :: rest)).map (('[', false) :: ·)
  | fuel + 1, c :: rest => (plainMembers fuel rest).map ((c, false) :: ·)

/-- The set behind an opening bracket, and the rest behind the closing one. -/
def readRanges (dialect : Dialect) (input : Octets) : Except Fault (CharSet × Octets) := do
  match readSet (dialect = .escaped) input with
  | none => .error (if dialect ≠ .escaped ∧ (input = [] ∨ input = ['^']) then .missingSet else .openBracket)
  | some (inner, rest) =>
    let members ← if dialect = .escaped then pure (escapedMembers (inner.length + 1) inner)
      else plainMembers (inner.length + 1) inner
    match CharSet.read? '^' (members ++ [(']', false)]) with
    | none => .error .openBracket
    | some (set, _) =>
      let isDisordered := dialect ≠ .escaped && set.ranges.any fun (low, high) => high < low
      if isDisordered then .error .rangeEnd else pure (set, rest)

/-- The sign at the start of an expression, and the rest. -/
def sign? (dialect : Dialect) (input : Octets) : Option (Sign × Octets) :=
  match input with
  | [] => none
  | '\\' :: [] => some (.backslash, [])
  | '\\' :: c :: rest =>
    match dialect with
    | .extended => some (readEscape c, rest)
    | .lenient => some (readEscape c, rest)
    | .escaped => (readCharacter (c :: rest)).map fun (c, rest) => (.atom (.char c), rest)
    | .basic => match c with
      | '(' => some (.opening, rest)
      | ')' => some (.closing, rest)
      | '|' => some (.bar, rest)
      | '+' => some (.repetition 1 none, rest)
      | '?' => some (.repetition 0 (some 1), rest)
      | '\x7b' => some (interval ['\\', '\x7d'] rest)
      | c => some (readEscape c, rest)
  | '.' :: rest => some (.atom .any, rest)
  | '*' :: rest => some (.repetition 0 none, rest)
  | '^' :: rest => some (.caret, rest)
  | '$' :: rest => some (.dollar, rest)
  | '[' :: rest =>
    match readRanges dialect rest with
    | .ok (set, rest) => some (.atom (.oneOf set), rest)
    | .error fault => some (.broken fault, rest)
  | c :: rest =>
    if dialect ≠ .basic then
      match c with
      | '(' => some (.opening, rest)
      | ')' => some (.closing, rest)
      | '|' => some (.bar, rest)
      | '+' => some (.repetition 1 none, rest)
      | '?' => some (.repetition 0 (some 1), rest)
      | '\x7b' =>
        if (readInterval ['\x7d'] rest).isSome then some (interval ['\x7d'] rest) else some (.atom (.char c), rest)
      | c => some (.atom (.char c), rest)
    else some (.atom (.char c), rest)

/-- Whether an expression ends in front of some input, so that a dollar sign means the end. -/
def endsBranch (dialect : Dialect) (input : Octets) : Bool :=
  match sign? dialect input with
  | none => true
  | some (.closing, _) => true
  | some (.bar, _) => true
  | _ => false

/-- What is left to be read, and how many groups have been opened. -/
structure Reading where
  rest : Octets
  groups : Nat

/-- The repetitions behind an atom. -/
def readRepetitions (dialect : Dialect) : Nat → Regex → Octets → Regex × Octets
  | 0, regex, rest => (regex, rest)
  | fuel + 1, regex, input =>
    match sign? dialect input with
    | some (.repetition least most, rest) => readRepetitions dialect fuel (.repeated regex least most) rest
    | _ => (regex, input)

mutual

/-- Branches with bars between them. -/
def readEither (dialect : Dialect) : Nat → Nat → Reading → Except Fault (Regex × Reading)
  | 0, _, _ => .error .openGroup
  | fuel + 1, depth, reading => do
    let (first, reading) ← readBranch dialect fuel depth true reading
    match sign? dialect reading.rest with
    | some (.bar, rest) =>
      let (second, reading) ← readEither dialect fuel depth { reading with rest }
      pure (.either first second, reading)
    | _ => pure (first, reading)

/-- A branch from its start, or from inside it. -/
def readBranch (dialect : Dialect) : Nat → Nat → Bool → Reading → Except Fault (Regex × Reading)
  | 0, _, _, _ => .error .openGroup
  | fuel + 1, depth, atStart, reading =>
    let followed (atom : Regex) (reading : Reading) : Except Fault (Regex × Reading) := do
      let (atom, rest) := readRepetitions dialect (reading.rest.length + 1) atom reading.rest
      let (second, reading) ← readBranch dialect fuel depth false { reading with rest }
      pure (.sequence atom second, reading)
    match sign? dialect reading.rest with
    | none => .ok (.empty, reading)
    | some (.bar, _) => .ok (.empty, reading)
    | some (.closing, rest) =>
      if depth > 0 then .ok (.empty, reading)
      else if dialect = .escaped ∨ dialect = .lenient then followed (.char ')') { reading with rest }
      else .error .closedGroup
    | some (.opening, rest) => do
      let number := reading.groups + 1
      let (body, inner) ← readEither dialect fuel (depth + 1) { rest, groups := number }
      match sign? dialect inner.rest with
      | some (.closing, rest) => followed (.group number body) { inner with rest }
      | _ => .error .openGroup
    | some (.caret, rest) =>
      if dialect = .lenient then do
        let (second, reading) ← readBranch dialect fuel depth true { reading with rest }
        pure (.sequence .start second, reading)
      else if dialect ≠ .basic then followed .start { reading with rest }
      else if atStart then do
        let (second, reading) ← readBranch dialect fuel depth true { reading with rest }
        pure (.sequence .start second, reading)
      else followed (.char '^') { reading with rest }
    | some (.dollar, rest) =>
      if dialect ≠ .basic || endsBranch dialect rest then followed .stop { reading with rest }
      else followed (.char '$') { reading with rest }
    | some (.repetition _ _, rest) =>
      if dialect = .lenient then readBranch dialect fuel depth false { reading with rest }
      else if atStart ∧ dialect ≠ .escaped ∧ reading.rest.head? = some '*' then
        followed (.char '*') { reading with rest := reading.rest.drop 1 }
      else .error .nothingRepeated
    | some (.backslash, _) => .error .lastBackslash
    | some (.broken fault, _) => .error fault
    | some (.atom regex, rest) =>
      match regex with
      | .again number => if number ≤ reading.groups then followed regex { reading with rest } else .error .reference
      | regex => followed regex { reading with rest }

end

/-- The expression that a text spells out, and how many groups it has. -/
def parse (dialect : Dialect) (source : Octets) : Except Fault (Regex × Nat) :=
  match readEither dialect (4 * (source.length + 2)) 0 { rest := source, groups := 0 } with
  | .ok (regex, reading) => .ok (regex, reading.groups)
  | .error fault => .error fault

/-- An expression whose operators for repetition stand for themselves, with backslashes in front
of them as the basic spelling has it, and the other way round. -/
def freed : Nat → Octets → Octets
  | 0, _ => []
  | _ + 1, [] => []
  | fuel + 1, '\\' :: c :: rest =>
    if c ∈ ['+', '?', '\x7b', '\x7d'] then c :: freed fuel rest else '\\' :: c :: freed fuel rest
  | fuel + 1, '[' :: rest =>
    match readSet false rest with
    | some (inner, behind) => '[' :: inner ++ ']' :: freed fuel behind
    | none => '[' :: freed fuel rest
  | fuel + 1, c :: rest =>
    if c = '+' ∨ c = '?' then '\\' :: c :: freed fuel rest else c :: freed fuel rest

/-- An expression for a text itself. -/
def ofText : Octets → Regex
  | [] => .empty
  | c :: rest => .sequence (.char c) (ofText rest)

/-- Lets letters stand for their other case too. -/
def ignoringCase : Regex → Regex
  | .char c => .oneOf (.ofList [c.toLower, c.toUpper])
  | .oneOf set =>
    let folded := ((List.range 26).map fun index => Char.ofNat ('a'.toNat + index)).flatMap fun lower =>
      let holds := { set with negated := false : CharSet }
      if holds.contains lower ∨ holds.contains lower.toUpper then
        [(lower, lower), (lower.toUpper, lower.toUpper)]
      else []
    .oneOf { set with ranges := set.ranges ++ folded }
  | .group number body => .group number body.ignoringCase
  | .sequence first second => .sequence first.ignoringCase second.ignoringCase
  | .either first second => .either first.ignoringCase second.ignoringCase
  | .repeated body least most => .repeated body.ignoringCase least most
  | regex => regex

/-! ### Matching -/

def isWordAt (text : Array Char) (position : Nat) : Bool := text[position]?.any Name.isInner

/-- Whether a border of the kind asked for lies in front of a position. -/
def isBorder (text : Array Char) (begins ends : Bool) (position : Nat) : Bool :=
  let before := position > 0 && isWordAt text (position - 1)
  let behind := isWordAt text position
  if begins ∨ ends then begins && !before && behind || ends && before && !behind else before == behind

def isApart (text : Array Char) (inFront : Bool) (position : Nat) : Bool :=
  if inFront then position = 0 || !isWordAt text (position - 1) else !isWordAt text position

/-- Merges positions in order, each of them once. -/
def mergePositions : List Nat → List Nat → List Nat
  | [], right => right
  | left, [] => left
  | a :: left, b :: right =>
    if a < b then a :: mergePositions left (b :: right)
    else if b < a then b :: mergePositions (a :: left) right
    else a :: mergePositions left right

/-- Positions that are not among others, both in order. -/
def newPositions : List Nat → List Nat → List Nat
  | [], _ => []
  | found, [] => found
  | a :: found, b :: known =>
    if a < b then a :: newPositions found (b :: known)
    else if b < a then newPositions (a :: found) known
    else newPositions found known

/-- Takes a step at least so many times. -/
def stepTimes (step : List Nat → List Nat) : Nat → List Nat → List Nat
  | 0, positions => positions
  | count + 1, positions => stepTimes step count (step positions)

/-- All that some steps reach, the start included. -/
def closure (step : List Nat → List Nat) : Nat → List Nat → List Nat → List Nat
  | 0, reached, _ => reached
  | fuel + 1, reached, latest =>
    match newPositions (step latest) reached with
    | [] => reached
    | found => closure step fuel (mergePositions reached found) found

/-- Where matches that begin at some positions end. A group's text, asked for once more,
is not looked at here. -/
def ends (text : Array Char) : Regex → List Nat → List Nat
  | .empty, positions => positions
  | .char value, positions => (positions.filter fun position => text[position]? = some value).map (· + 1)
  | .any, positions => (positions.filter fun position => position < text.size).map (· + 1)
  | .oneOf set, positions => (positions.filter fun position => text[position]?.any set.contains).map (· + 1)
  | .start, positions => positions.filter (· = 0)
  | .stop, positions => positions.filter (· = text.size)
  | .border begins ends, positions => positions.filter (isBorder text begins ends)
  | .apart inFront, positions => positions.filter (isApart text inFront)
  | .group _ body, positions => ends text body positions
  | .again _, positions => positions
  | .sequence first second, positions => ends text second (ends text first positions)
  | .either first second, positions => mergePositions (ends text first positions) (ends text second positions)
  | .repeated body least most, positions =>
    let step := ends text body
    let reached := stepTimes step least positions
    closure step ((most.map (· - least)).getD (text.size + 1)) reached reached

def hasAgain : Regex → Bool
  | .again _ => true
  | .group _ body => body.hasAgain
  | .sequence first second => first.hasAgain || second.hasAgain
  | .either first second => first.hasAgain || second.hasAgain
  | .repeated body _ _ => body.hasAgain
  | _ => false

/-- What groups stand for: their numbers, and from where to where they reach. -/
abbrev Groups := List (Nat × Nat × Nat)

/-- Repeats what one try does, the most times first, and goes on from there. A repetition
that reaches nothing new is not tried again. -/
def tryTimes (one : Nat → Groups → (Nat → Groups → Option (Nat × Groups)) → Option (Nat × Groups))
    (least : Nat) (most : Option Nat) :
    Nat → Nat → Nat → Groups → (Nat → Groups → Option (Nat × Groups)) → Option (Nat × Groups)
  | 0, _, position, groups, next => next position groups
  | fuel + 1, count, position, groups, next =>
    let further := if most.any (· ≤ count) then none
      else one position groups fun reached groups =>
        if reached = position ∧ least ≤ count then none
        else tryTimes one least most fuel (count + 1) reached groups next
    match further with
    | some found => some found
    | none => if least ≤ count then next position groups else none

/-- Whether a text stands at a position. -/
def standsAt (text : Array Char) (origin length position : Nat) : Bool :=
  (List.range length).all fun index => text[origin + index]? = text[position + index]?

/-- Tries a match from a position, and goes on from where it ends. -/
def tryMatch (text : Array Char) :
    Regex → Nat → Groups → (Nat → Groups → Option (Nat × Groups)) → Option (Nat × Groups)
  | .empty, position, groups, next => next position groups
  | .char value, position, groups, next => if text[position]? = some value then next (position + 1) groups else none
  | .any, position, groups, next => if position < text.size then next (position + 1) groups else none
  | .oneOf set, position, groups, next =>
    if text[position]?.any set.contains then next (position + 1) groups else none
  | .start, position, groups, next => if position = 0 then next position groups else none
  | .stop, position, groups, next => if position = text.size then next position groups else none
  | .border begins ends, position, groups, next =>
    if isBorder text begins ends position then next position groups else none
  | .apart inFront, position, groups, next => if isApart text inFront position then next position groups else none
  | .group number body, position, groups, next =>
    tryMatch text body position groups fun reached groups => next reached ((number, position, reached) :: groups)
  | .again number, position, groups, next =>
    match groups.lookup number with
    | some (first, last) =>
      if position + (last - first) ≤ text.size ∧ standsAt text first (last - first) position then
        next (position + (last - first)) groups
      else none
    | none => none
  | .sequence first second, position, groups, next =>
    tryMatch text first position groups fun reached groups => tryMatch text second reached groups next
  | .either first second, position, groups, next =>
    match tryMatch text first position groups next with
    | some found => some found
    | none => tryMatch text second position groups next
  | .repeated body least most, position, groups, next =>
    tryTimes (tryMatch text body) least most (text.size + least + 1) 0 position groups next

/-- A match: where it begins and ends, and what its groups stand for. -/
structure Match where
  first : Nat
  last : Nat
  groups : Groups

/-- The match at a position, if there is one. -/
def matchAt? (text : Array Char) (regex : Regex) (position : Nat) : Option Match :=
  if regex.hasAgain then
    (tryMatch text regex position [] fun reached groups => some (reached, groups)).map fun (last, groups) =>
      { first := position, last, groups }
  else
    match (ends text regex [position]).getLast? with
    | none => none
    | some last =>
      let found := tryMatch text regex position [] fun reached groups =>
        if reached = last then some (reached, groups) else none
      some { first := position, last, groups := (found.map Prod.snd).getD [] }

/-- The first match from a position on. -/
def find? (regex : Regex) (text : Array Char) (position : Nat) : Option Match :=
  let positions := (List.range (text.size + 1)).drop position
  if (ends text regex positions).isEmpty then none else positions.findSome? (matchAt? text regex)

def isIn (regex : Regex) (text : Octets) : Bool := (regex.find? text.toArray 0).isSome

/-- A part of a text. -/
def part (text : Array Char) (first last : Nat) : Octets := (text.extract first last).toList

/-- The text of a group, empty for one that took no part. -/
def Match.group (found : Match) (text : Array Char) (number : Nat) : Octets :=
  if number = 0 then part text found.first found.last
  else match found.groups.lookup number with
    | some (first, last) => part text first last
    | none => []

end Regex
end ComponentViews.Shell
