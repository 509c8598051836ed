import ComponentViews.Shell.Name
import ComponentViews.Shell.Real
import ComponentViews.Shell.Utility.Options

/-! The order of lines: by keys in them, or as wholes, and files merged in that order. Among
names with versions in them digits count as numbers, a tilde comes before the end, and letters
come before other signs. -/

namespace ComponentViews.Shell.Version

def isLetter (c : Char) : Bool := 'a' ≤ c && c ≤ 'z' || 'A' ≤ c && c ≤ 'Z'

/-- The rank of what a text begins with, where no number is compared. -/
def rank : Octets → Int
  | [] => -1
  | c :: _ =>
    if Name.isDigit c then 0
    else if isLetter c then c.toNat
    else if c = '~' then -2
    else c.toNat + 256

/-- How many characters in front of a number have to be compared one by one. -/
def comparePlain : Nat → Octets → Octets → Except Ordering (Octets × Octets)
  | 0, left, right => .ok (left, right)
  | fuel + 1, left, right =>
    let isPlain (text : Octets) : Bool := text.head?.any fun c => !Name.isDigit c
    if isPlain left || isPlain right then
      match compare (rank left) (rank right) with
      | .eq => comparePlain fuel (left.drop 1) (right.drop 1)
      | ordering => .error ordering
    else .ok (left, right)

/-- Compares numbers written with digits: the longer one is greater. -/
def compareDigits (left right : Octets) : Ordering :=
  (compare left.length right.length).then (compare (left.map Char.toNat) (right.map Char.toNat))

/-- Compares texts, stretches without digits and numbers in turns. -/
def compareParts : Nat → Octets → Octets → Ordering
  | 0, _, _ => .eq
  | fuel + 1, left, right =>
    if left = [] ∧ right = [] then .eq
    else match comparePlain (left.length + right.length + 1) left right with
      | .error ordering => ordering
      | .ok (left, right) =>
        let digits (text : Octets) : Octets := (text.takeWhile Name.isDigit).dropWhile (· = '0')
        (compareDigits (digits left) (digits right)).then
          (compareParts fuel (left.dropWhile Name.isDigit) (right.dropWhile Name.isDigit))

def compareTexts (left right : Octets) : Ordering := compareParts (left.length + right.length + 1) left right

/-- A name's endings, such as `.tar.gz`, from some place on, if nothing else stands there. -/
def isEnding : Nat → Octets → Bool
  | _, [] => true
  | 0, _ => false
  | fuel + 1, '.' :: c :: rest =>
    (isLetter c || c = '~') && isEnding fuel (rest.dropWhile fun c => isLetter c || Name.isDigit c || c = '~')
  | _ + 1, _ => false

/-- A name without its endings. -/
def stem (name : Octets) : Octets :=
  name.take (((List.range (name.length + 1)).find? fun length =>
    (length > 0 || name = []) && isEnding (name.length + 1) (name.drop length)).getD name.length)

/-- Compares names: hidden ones come first, and endings count only where nothing else differs. -/
def compareNames (left right : Octets) : Ordering :=
  let place (name : Octets) : Nat :=
    if name = [] then 0 else if name = ['.'] then 1 else if name = ['.', '.'] then 2
    else if name.head? = some '.' then 3 else 4
  ((compare (place left) (place right)).then (compareTexts (stem left) (stem right))).then (compareTexts left right)

end ComponentViews.Shell.Version

namespace ComponentViews.Shell.Utility

def orderBy (atMost : Octets → Octets → Bool) (left right : Octets) : Ordering :=
  if atMost left right then if atMost right left then .eq else .lt else .gt

def turnedIf (reverse : Bool) (ordering : Ordering) : Ordering := if reverse then ordering.swap else ordering

namespace Sorting

/-! ### Ways to compare -/

/-- What two texts are compared as. -/
inductive Measure where
  | text
  | number
  | general
  | sized
  | month
  | version
  | scattered
  deriving DecidableEq, Repr

structure Order where
  /-- Letters that ask for ways to compare, in order. -/
  letters : List Char

namespace Order

def measures (order : Order) : List Measure :=
  let ways : List (Char × Measure) :=
    [('n', .number), ('g', .general), ('h', .sized), ('M', .month), ('V', .version), ('R', .scattered)]
  ways.filterMap fun (letter, measure) => if order.letters.contains letter then some measure else none

def measure (order : Order) : Measure := order.measures.headD .text

def isReversed (order : Order) : Bool := order.letters.contains 'r'

/-- Whether anything but the direction is asked for. -/
def isSpecial (order : Order) : Bool := order.letters.any fun letter => letter ≠ 'r'

/-- Whether several ways to compare are asked for at once. -/
def isConfused (order : Order) : Bool :=
  let ignoring := order.letters.contains 'd' || order.letters.contains 'i'
  let loose := ['V', 'R'].any order.letters.contains || ignoring
  let strict := order.measures.filter fun measure => measure ≠ .version && measure ≠ .scattered
  strict.length + (if loose then 1 else 0) > 1

/-- The letters of ways to compare that do not go together. -/
def confusion (order : Order) : Octets :=
  ['d', 'f', 'g', 'h', 'i', 'M', 'n', 'R', 'V'].filter order.letters.contains

end Order

def isBlank (c : Char) : Bool := c = ' ' || c = '\t' || c = '\n'

/-- The number at the start of a text, to compare by: its sign, whole part and fraction. -/
def leadingNumber (text : Octets) : Bool × Nat × Octets :=
  let text := text.dropWhile isBlank
  let (negative, text) := match text with
    | '-' :: rest => (true, rest)
    | rest => (false, rest)
  let whole := Numeral.digitsValue (text.takeWhile Name.isDigit)
  let fraction := match text.dropWhile Name.isDigit with
    | '.' :: rest => Octets.dropEndWhile (rest.takeWhile Name.isDigit) (· = '0')
    | _ => []
  (negative && (whole > 0 || fraction ≠ []), whole, fraction)

def compareNumbers (left right : Octets) : Ordering :=
  let (leftNegative, leftWhole, leftFraction) := leadingNumber left
  let (rightNegative, rightWhole, rightFraction) := leadingNumber right
  match leftNegative, rightNegative with
  | true, false => .lt
  | false, true => .gt
  | negative, _ => turnedIf negative
    ((compare leftWhole rightWhole).then (orderBy Octets.atMost leftFraction rightFraction))

/-- How great the unit behind a number is, below zero for numbers that are. -/
def unitRank (text : Octets) : Int :=
  let text := text.dropWhile isBlank
  let (negative, text) := match text with
    | '-' :: rest => (true, rest)
    | rest => (false, rest)
  let behind := text.dropWhile Name.isDigit
  let (digits, behind) := match behind with
    | '.' :: rest => (text.takeWhile Name.isDigit ++ rest.takeWhile Name.isDigit, rest.dropWhile Name.isDigit)
    | behind => (text.takeWhile Name.isDigit, behind)
  if digits.all (· = '0') then 0
  else
    let unit := (behind.head?.map fun c => if c = 'k' then 'K' else c).getD ' '
    let rank : Int := match ['K', 'M', 'G', 'T', 'P', 'E', 'Z', 'Y', 'R', 'Q'].idxOf? unit with
      | some index => index + 1
      | none => 0
    if negative then -rank else rank

/-- What a text is as a number of any form: nothing, no number, or one between two ends. -/
def generalOf (text : Octets) : Nat × Real :=
  let text := text.dropWhile isBlank
  let negative := text.head? = some '-'
  let word := ((if negative || text.head? = some '+' then text.drop 1 else text).map Char.toLower).take 3
  match Real.read? text with
  | some (number, _) => (3, number)
  | none =>
    if word = ['n', 'a', 'n'] then (1, .zero)
    else if word = ['i', 'n', 'f'] then (if negative then 2 else 4, .zero)
    else (0, .zero)

def compareGeneral (left right : Octets) : Ordering :=
  let (leftKind, leftNumber) := generalOf left
  let (rightKind, rightNumber) := generalOf right
  (compare leftKind rightKind).then
    (if leftNumber.isLess rightNumber then .lt else if rightNumber.isLess leftNumber then .gt else .eq)

def months : List String :=
  ["jan", "feb", "mar", "apr", "may", "jun", "jul", "aug", "sep", "oct", "nov", "dec"]

/-- The number of the month that a text begins with, or zero. -/
def monthOf (text : Octets) : Nat :=
  let word := String.ofList (((text.dropWhile isBlank).take 3).map Char.toLower)
  ((months.idxOf? word).map (· + 1)).getD 0

/-- A number that shows no order, the same for the same text. -/
def scatter (text : Octets) : Nat :=
  text.foldl (fun value c => (value * 6364136223846793005 + c.toNat + 1442695040888963407) % 18446744073709551616) 7

namespace Order

/-- A text without what does not count. -/
def prepared (order : Order) (text : Octets) : Octets :=
  let isWord (c : Char) : Bool := Version.isLetter c || Name.isDigit c || isBlank c
  let text := if order.letters.contains 'd' then text.filter isWord
    else if order.letters.contains 'i' then text.filter fun c => ' ' ≤ c && c ≤ '~'
    else text
  if order.letters.contains 'f' then text.map Char.toUpper else text

def compare (order : Order) (left right : Octets) : Ordering :=
  let (first, second) := (order.prepared left, order.prepared right)
  turnedIf order.isReversed (match order.measure with
    | .text => orderBy Octets.atMost first second
    | .number => compareNumbers left right
    | .general => compareGeneral left right
    | .sized => (Ord.compare (unitRank left) (unitRank right)).then (compareNumbers left right)
    | .month => Ord.compare (monthOf left) (monthOf right)
    | .version => Version.compareNames first second
    | .scattered => (Ord.compare (scatter first) (scatter second)).then (orderBy Octets.atMost first second))

end Order

/-! ### Keys -/

/-- A place in a line: a field, a character in it, and whether blanks in front do not count. -/
structure Spot where
  field : Nat
  character : Nat
  blanks : Bool

/-- A key: from where on, up to where, and how it is compared. -/
structure Key where
  first : Spot
  last : Option Spot
  letters : List Char

/-- What is wrong with a key. -/
inductive KeyFault where
  | count (place : String) (rest : Octets)
  | specification (reason : String)

def KeyFault.message (key : Octets) : KeyFault → Octets
  | .count place rest => .ofText (place ++ ": invalid count at start of ") ++ quoted rest
  | .specification reason => .ofText (reason ++ ": invalid field specification ") ++ quoted key

/-- A number at the start of a text, and the rest. -/
def readCount (place : String) (text : Octets) : Except KeyFault (Nat × Octets) :=
  let digits := text.takeWhile Name.isDigit
  if digits = [] then .error (.count place text) else .ok (Numeral.digitsValue digits, text.drop digits.length)

def keyLetters : List Char := ['b', 'd', 'f', 'g', 'h', 'i', 'M', 'n', 'R', 'r', 'V']

/-- A place with the letters behind it, and the rest. -/
def readSpot (place point : String) (text : Octets) : Except KeyFault (Spot × List Char × Bool × Octets) := do
  let (field, rest) ← readCount place text
  let (character, given, rest) ← match rest with
    | '.' :: rest => do
      let (character, rest) ← readCount point rest
      pure (character, true, rest)
    | rest => pure (0, false, rest)
  let letters := rest.takeWhile keyLetters.contains
  pure ({ field, character, blanks := letters.contains 'b' }, letters, given, rest.drop letters.length)

/-- A key such as `2`, `2,3` or `2.1,2n`. -/
def readKey (text : Octets) : Except KeyFault Key := do
  let (first, letters, given, rest) ← readSpot "invalid number at field start" "invalid number after '.'" text
  if first.field = 0 then .error (.specification "field number is zero")
  else if given ∧ first.character = 0 then .error (.specification "character offset is zero")
  else match rest with
    | [] => pure { first, last := none, letters }
    | ',' :: rest => do
      let (last, more, _, rest) ← readSpot "invalid number after ','" "invalid number after '.'" rest
      if last.field = 0 then .error (.specification "field number is zero")
      else if rest ≠ [] then .error (.specification "stray character in field spec")
      else pure { first, last := some last, letters := letters ++ more }
    | _ => .error (.specification "stray character in field spec")

/-- What is left of a line behind some fields. -/
def skipFields (separator : Option Char) : Nat → Octets → Octets
  | 0, text => text
  | count + 1, text =>
    match separator with
    | some separator => skipFields (some separator) count ((text.dropWhile (· ≠ separator)).drop 1)
    | none => skipFields none count ((text.dropWhile isBlank).dropWhile fun c => !isBlank c)

/-- How many characters of a line are in front of the end of a key. -/
def extent (separator : Option Char) (spot : Spot) (line : Octets) : Nat :=
  if spot.character = 0 then
    let behind := skipFields separator (spot.field - 1) line
    let field := match separator with
      | some separator => behind.takeWhile (· ≠ separator)
      | none => behind.takeWhile isBlank ++ (behind.dropWhile isBlank).takeWhile fun c => !isBlank c
    line.length - behind.length + field.length
  else
    let behind := skipFields separator (spot.field - 1) line
    let behind := if spot.blanks then behind.dropWhile isBlank else behind
    min line.length (line.length - behind.length + spot.character)

/-- The part of a line that a key names. -/
def Key.part (separator : Option Char) (key : Key) (line : Octets) : Octets :=
  let behind := skipFields separator (key.first.field - 1) line
  let behind := if key.first.blanks then behind.dropWhile isBlank else behind
  let start := min line.length (line.length - behind.length + (key.first.character - 1))
  match key.last with
  | none => line.drop start
  | some last => (line.take (max start (extent separator last line))).drop start

/-! ### Lines -/

/-- How lines are sorted. -/
structure Plan where
  separator : Option Char
  keys : List Key
  /-- How wholes are compared, and keys that do not say how. -/
  whole : Order
  stable : Bool
  unique : Bool
  delimiter : Char

namespace Plan

/-- Compares lines by keys; the first that tells them apart counts. -/
def compareKeys (plan : Plan) (left right : Octets) : Ordering :=
  if plan.keys.isEmpty then
    if plan.whole.isSpecial then
      let skipped (line : Octets) : Octets := if plan.whole.letters.contains 'b' then line.dropWhile isBlank else line
      plan.whole.compare (skipped left) (skipped right)
    else .eq
  else plan.keys.foldl (fun ordering key =>
    ordering.then (
      let order : Order := if key.letters.isEmpty then plan.whole else { letters := key.letters }
      let blanks := key.letters.isEmpty && plan.whole.letters.contains 'b'
      let spot (spot : Spot) : Spot := { spot with blanks := spot.blanks || blanks }
      let key : Key := { key with first := spot key.first, last := key.last.map spot }
      order.compare (key.part plan.separator left) (key.part plan.separator right))) .eq

def hasKeys (plan : Plan) : Bool := !plan.keys.isEmpty || plan.whole.isSpecial

/-- Compares lines by keys, and then as they are. -/
def compareLines (plan : Plan) (left right : Octets) : Ordering :=
  let final := turnedIf plan.whole.isReversed (orderBy Octets.atMost left right)
  if !plan.hasKeys then final
  else (plan.compareKeys left right).then (if plan.stable || plan.unique then .eq else final)

/-- Leaves one of neighbours that count as the same. -/
def withoutRepeats (plan : Plan) : List Octets → List Octets
  | a :: b :: rest =>
    if plan.compareLines a b == .eq then plan.withoutRepeats (a :: rest) else a :: plan.withoutRepeats (b :: rest)
  | short => short
termination_by lines => lines.length

/-- Merges two files that are sorted already. -/
def mergeTwo (plan : Plan) : List Octets → List Octets → List Octets
  | [], right => right
  | left, [] => left
  | a :: left, b :: right =>
    if plan.compareLines a b == .gt then b :: plan.mergeTwo (a :: left) right else a :: plan.mergeTwo left (b :: right)
termination_by left right => left.length + right.length

/-- The sorted lines of some files. -/
def sorted (plan : Plan) (merging : Bool) (files : List (List Octets)) : List Octets :=
  let lines := if merging then files.foldl plan.mergeTwo []
    else files.flatten.mergeSort fun left right => plan.compareLines left right != .gt
  if plan.unique then plan.withoutRepeats lines else lines

/-- The first line that is out of order, with its number. -/
def disorder? (plan : Plan) : Nat → List Octets → Option (Nat × Octets)
  | number, a :: b :: rest =>
    let ordering := plan.compareLines a b
    if ordering == .gt || (plan.unique && ordering == .eq) then some (number + 1, b)
    else plan.disorder? (number + 1) (b :: rest)
  | _, _ => none

end Plan

/-- The lines of a content. -/
def linesOf (delimiter : Char) (content : Octets) : List Octets :=
  let parts := content.splitOn delimiter
  if parts.getLast? = some [] then parts.dropLast else parts

/-! ### The utility -/

def usage : Usage where
  alone := ['b', 'c', 'C', 'd', 'f', 'g', 'h', 'i', 'm', 'M', 'n', 'r', 'R', 's', 'u', 'V', 'z', 'χ', 'α']
  valued := ['k', 'o', 'S', 't', 'T', 'β', 'σ', 'π', 'φ']
  words := [("ignore-leading-blanks", 'b'), ("dictionary-order", 'd'), ("ignore-case", 'f'),
    ("general-numeric-sort", 'g'), ("human-numeric-sort", 'h'), ("ignore-nonprinting", 'i'), ("merge", 'm'),
    ("month-sort", 'M'), ("numeric-sort", 'n'), ("reverse", 'r'), ("random-sort", 'R'), ("stable", 's'),
    ("unique", 'u'), ("version-sort", 'V'), ("zero-terminated", 'z'), ("check", 'χ'), ("debug", 'α'), ("key", 'k'),
    ("output", 'o'), ("buffer-size", 'S'), ("field-separator", 't'), ("temporary-directory", 'T'),
    ("batch-size", 'β'), ("compress-program", 'β'), ("random-source", 'β'), ("parallel", 'π'), ("sort", 'σ'),
    ("files0-from", 'φ')]
  anywhere := true
  optional := ['χ']

/-- Names of ways to compare, with their letters. -/
def ways : List (String × Char) :=
  [("general-numeric", 'g'), ("human-numeric", 'h'), ("month", 'M'), ("numeric", 'n'), ("random", 'R'),
    ("version", 'V')]

/-- Options in which letters stand for words. -/
def spelled (options : Options) : Except Octets Options := do
  let found ← options.found.mapM fun (letter, value) =>
    if letter = 'σ' then
      match ways.filter fun way => value.isPrefixOf way.1.toList with
      | (_, letter) :: _ => .ok (letter, [])
      | [] => .error value
    else .ok (letter, value)
  pure { options with found }

/-- The sign that separates fields, or what is wrong with it. -/
def separator (options : Options) : Except Octets (Option Char) :=
  match (options.values 't').map fun value => if value = ['\\', '0'] then ['\x00'] else value with
  | [] => .ok none
  | values =>
    match values.find? fun value => value.length ≠ 1 with
    | some [] => .error (.ofText "empty tab")
    | some value => .error (.ofText "multi-character tab " ++ quoted value)
    | none => if values.eraseDups.length > 1 then .error (.ofText "incompatible tabs") else .ok (values.flatten.head?)

/-- How lines are to be sorted, or why that is not clear. -/
def planOf (options : Options) : Except Octets Plan := do
  let keys ← (options.values 'k').mapM fun value => (readKey value).mapError (KeyFault.message value)
  let separator ← separator options
  let whole : Order := { letters := (options.found.map Prod.fst).filter keyLetters.contains }
  let orders := if keys.isEmpty then [whole] else keys.map fun key =>
    if key.letters.isEmpty then whole else { letters := key.letters }
  match orders.find? Order.isConfused with
  | some order => .error (.ofText "options '-" ++ order.confusion ++ .ofText "' are incompatible")
  | none => pure {
      separator, keys, whole, stable := options.has 's', unique := options.has 'u'
      delimiter := if options.has 'z' then '\x00' else '\n' }

/-- What all files hold; the first one that cannot be read makes that fail. -/
def readAll (plan : Plan) : List Octets → State → Except State (List (List Octets) × State)
  | [], state => .ok ([], state)
  | operand :: rest, state => do
    match contentOf operand state with
    | .ok (content, state) =>
      let (later, state) ← readAll plan rest state
      pure (linesOf plan.delimiter content :: later, state)
    | .error .closed => .error ((unreadable "sort" operand .closed state).withStatus 2)
    | .error trouble =>
      let kind : String := match trouble with
        | .isDirectory => "read failed: "
        | _ => "cannot read: "
      .error ((fault "sort" (.ofText kind ++ nameText operand ++ .ofText (": " ++ trouble.message)) state).withStatus 2)

/-- Whether the operand's lines are in order. -/
def check (plan : Plan) (quiet : Bool) (operand : Octets) (state : State) : State :=
  match readAll plan [operand] state with
  | .error state => state
  | .ok (files, state) =>
    match plan.disorder? 1 files.flatten with
    | none => state
    | some (number, line) =>
      if quiet then state.withStatus 1
      else fault "sort" (operand ++ ':' :: Octets.ofNat number ++ .ofText ": disorder: " ++ line) state

end Sorting

open Sorting in
def sort (arguments : List Octets) (state : State) : State :=
  withOptions "sort" Sorting.usage 2 arguments state fun options state =>
    let fail (message : Octets) : State := (fault "sort" message state).withStatus 2
    match spelled options with
    | .error value => invalidArgument "sort" "--sort" value (ways.map fun way => [way.1]) state
    | .ok options =>
      match planOf options with
      | .error message => fail message
      | .ok plan =>
        let operands := if options.operands = [] then [['-']] else options.operands
        let quiet := options.has 'C' || (options.value? 'χ').any fun value => value ≠ [] && value.head? ≠ some 'd'
        if options.has 'c' ∧ options.has 'C' then fail (.ofText "options '-cC' are incompatible")
        else if options.has 'c' ∨ options.has 'C' ∨ options.has 'χ' then
          match operands with
          | [operand] => check plan quiet operand state
          | _ :: extra :: _ =>
            let letter := if quiet then 'C' else 'c'
            fail (.ofText "extra operand " ++ quoted extra ++ .ofText " not allowed with -" ++ [letter])
          | [] => state
        else match readAll plan operands state with
          | .error state => state
          | .ok (files, state) =>
            let output := (plan.sorted (options.has 'm') files).flatMap (· ++ [plan.delimiter])
            match options.value? 'o' with
            | some path =>
              match state.write path output with
              | .ok state => state
              | .error trouble => (plainFaultOf "sort" (.ofText "open failed: " ++ nameText path) trouble.message state).withStatus 2
            | none => state.print output

end ComponentViews.Shell.Utility
