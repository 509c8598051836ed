import ComponentViews.Shell.Utility.Columns
import ComponentViews.Shell.Utility.Sorting

/-! Utilities that go through two sorted files side by side, or sort what follows what. -/

namespace ComponentViews.Shell.Utility

/-- When it is looked at whether files are sorted. -/
inductive OrderCheck where
  | always
  /-- Once some line has no counterpart. -/
  | onDoubt
  | never
  deriving DecidableEq, Repr

/-- How far a sorted file has been read. -/
structure Cursor where
  rest : List Octets
  previous : Option Octets
  /-- How many lines have been read, with the first of the rest. -/
  number : Nat
  /-- Whether it has turned out not to be sorted. -/
  unsorted : Bool

namespace Cursor

def start (lines : List Octets) : Cursor := { rest := lines, previous := none, number := 1, unsorted := false }

/-- Goes on by one line, which must not come before the last one; the line that does is told.
At the end the last two lines are looked at once more. -/
def next (checks : Bool) (atMost : Octets → Octets → Bool) (cursor : Cursor) : Cursor × Option Octets :=
  let rest := cursor.rest.drop 1
  let last := cursor.rest.head?
  let gone : Cursor := { cursor with rest, previous := last.or cursor.previous, number := cursor.number + 1 }
  let pair := match rest.head? with
    | some line => last.map (·, line)
    | none => cursor.previous.bind fun earlier => last.map (earlier, ·)
  match pair with
  | some (before, line) =>
    if checks ∧ !cursor.unsorted ∧ !atMost before line then ({ gone with unsorted := true }, some line) else (gone, none)
  | none => (gone, none)

end Cursor

/-! ### Common lines -/

/-- What comparing two files has found. -/
structure Comparing where
  first : Cursor
  second : Cursor
  output : List Octets
  counts : Nat × Nat × Nat
  seen : Bool
  complaints : List String

/-- Which columns are printed, what stands between them, and when order is looked at. -/
structure CommonForm where
  columns : List Nat
  delimiter : Octets
  check : OrderCheck
  ending : Char

def CommonForm.line (form : CommonForm) (column : Nat) (line : Octets) : List Octets :=
  if !form.columns.contains column then []
  else
    let before := (form.columns.filter (· < column)).length
    [(List.replicate before form.delimiter).flatten ++ line ++ [form.ending]]

/-- Goes through both files; lines that both have advance both. -/
def compareAll (form : CommonForm) : Nat → Comparing → Comparing
  | 0, comparing => comparing
  | fuel + 1, comparing =>
    let order := match comparing.first.rest.head?, comparing.second.rest.head? with
      | none, none => none
      | none, some _ => some Ordering.gt
      | some _, none => some .lt
      | some left, some right => some (orderBy Octets.atMost left right)
    match order with
    | none => comparing
    | some order =>
      let line := (if order = .gt then comparing.second.rest.head? else comparing.first.rest.head?).getD []
      let column := match order with
        | .lt => 1
        | .gt => 2
        | .eq => 3
      let (a, b, c) := comparing.counts
      let counts := match order with
        | .lt => (a + 1, b, c)
        | .gt => (a, b + 1, c)
        | .eq => (a, b, c + 1)
      let seen := comparing.seen || order ≠ .eq
      let checks := form.check = .always || (form.check = .onDoubt && seen)
      let advance (takes : Bool) (name : String) (cursor : Cursor) : Cursor × List String :=
        if takes then
          let (next, fault) := cursor.next checks Octets.atMost
          (next, if fault.isSome then ["file " ++ name ++ " is not in sorted order"] else [])
        else (cursor, [])
      let (first, told) := advance (order ≠ .gt) "1" comparing.first
      let (second, more) := advance (order ≠ .lt) "2" comparing.second
      let found : Comparing := {
        first, second, counts, seen, output := form.line column line ++ comparing.output
        complaints := comparing.complaints ++ told ++ more }
      if form.check = .always ∧ !found.complaints.isEmpty then found else compareAll form fuel found

/-- Lines up to newlines or null characters. -/
def linesUpTo (ending : Char) (content : Octets) : List Octets :=
  if ending = '\n' then content.lines
  else
    let parts := content.splitOn ending
    if parts.getLast? = some [] then parts.dropLast else parts

def commonUsage : Usage where
  alone := ['1', '2', '3', 'z', 'C', 'N', 'T']
  valued := ['D']
  words := [("check-order", 'C'), ("nocheck-order", 'N'), ("total", 'T'), ("output-delimiter", 'D'),
    ("zero-terminated", 'z')]
  anywhere := true

/-- Reads two operands that have to be there. -/
def withTwo (command : String) (options : Options) (state : State) (body : Octets → Octets → State → State) : State :=
  match options.operands with
  | [] => missingOperand command state
  | [first] => hinted command (.ofText "missing operand after " ++ quoted first) state
  | [first, second] =>
    match contentOf first state with
    | .error trouble => unreadable command first trouble state
    | .ok (left, state) =>
      match contentOf second state with
      | .error trouble => unreadable command second trouble state
      | .ok (right, state) => body left right state
  | _ :: _ :: extra :: _ => hinted command (.ofText "extra operand " ++ quoted extra) state

/-- Prints in columns the lines that the first file has alone, the second alone, and both. -/
def commonLines (arguments : List Octets) (state : State) : State :=
  withOptions "comm" commonUsage 1 arguments state fun options state =>
    withTwo "comm" options state fun left right state =>
      let hidden := (if options.has '1' then [1] else []) ++ (if options.has '2' then [2] else []) ++
        (if options.has '3' then [3] else [])
      let form : CommonForm := {
        columns := [1, 2, 3].filter fun column => !hidden.contains column
        delimiter := (options.value? 'D').getD ['\t']
        check := if options.has 'C' then .always else if options.has 'N' then .never else .onDoubt
        ending := if options.has 'z' then '\x00' else '\n' }
      let (first, second) := (linesUpTo form.ending left, linesUpTo form.ending right)
      let start : Comparing := {
        first := .start first, second := .start second, output := [], counts := (0, 0, 0), seen := false
        complaints := [] }
      let found := compareAll form (first.length + second.length + 1) start
      let total := if options.has 'T' ∧ !(form.check = .always ∧ !found.complaints.isEmpty) then
          let (a, b, c) := found.counts
          form.delimiter.intercalate ([a, b, c].map Octets.ofNat ++ [Octets.ofText "total"]) ++ [form.ending]
        else []
      let printed := state.print (found.output.reverse.flatten ++ total)
      let told := found.complaints.foldl (fun state message => fault "comm" (.ofText message) state) printed
      if found.complaints.isEmpty ∨ form.check = .always then told
      else fault "comm" (.ofText "input is not in sorted order") told

/-! ### Joined lines -/

/-- A part of a joined line: the field by which lines are joined, or a field of a file. -/
inductive JoinedField where
  | key
  | ofFile (second : Bool) (index : Nat)

structure JoinForm where
  separator : Option Char
  keys : Nat × Nat
  folded : Bool
  format : Option (List JoinedField)
  filler : Octets
  ending : Char

namespace JoinForm

def fields (form : JoinForm) (line : Octets) : List Octets :=
  match form.separator with
  | some c => line.splitOn c
  | none =>
    (line.splitBy fun a b => Name.isBlank a = Name.isBlank b).filter fun field => !field.head?.any Name.isBlank

def key (form : JoinForm) (second : Bool) (line : Octets) : Octets :=
  ((form.fields line)[(if second then form.keys.2 else form.keys.1) - 1]?).getD []

def atMost (form : JoinForm) (left right : Octets) : Bool :=
  if form.folded then Octets.atMost (left.map Char.toLower) (right.map Char.toLower) else Octets.atMost left right

/-- The line made of a line of each file, or of one. -/
def joined (form : JoinForm) (left right : Option Octets) : Octets :=
  let leftFields := (left.map form.fields).getD []
  let rightFields := (right.map form.fields).getD []
  let key := match left, right with
    | some left, _ => form.key false left
    | none, some right => form.key true right
    | none, none => []
  let filled (field : Option Octets) : Octets :=
    match field with
    | some [] => form.filler
    | some field => field
    | none => form.filler
  let parts := match form.format with
    | some format => format.map fun
      | .key => filled (some key)
      | .ofFile second index => filled ((if second then rightFields else leftFields)[index - 1]?)
    | none =>
      let others (fields : List Octets) (index : Nat) : List Octets := (fields.eraseIdx (index - 1))
      filled (some key) :: (others leftFields form.keys.1 ++ others rightFields form.keys.2).map fun field =>
        filled (some field)
  [form.separator.getD ' '].intercalate parts ++ [form.ending]

end JoinForm

/-- What joining two files has found. -/
structure Joining where
  first : Cursor
  second : Cursor
  output : List Octets
  seen : Bool
  complaints : List Octets

/-- What is printed: lines that match, and those of either file that do not. -/
structure JoinWishes where
  pairs : Bool
  onlyFirst : Bool
  onlySecond : Bool
  check : OrderCheck
  names : Octets × Octets

/-- Goes on by one line of a file, and tells if it is out of order. -/
def Joining.advance (form : JoinForm) (wishes : JoinWishes) (second : Bool) (joining : Joining) : Joining :=
  let checks := wishes.check = .always || (wishes.check = .onDoubt && joining.seen)
  let cursor := if second then joining.second else joining.first
  let ordered (left right : Octets) : Bool := form.atMost (form.key second left) (form.key second right)
  let (next, fault) := cursor.next checks ordered
  let name := if second then wishes.names.2 else wishes.names.1
  let told := fault.toList.map fun line =>
    name ++ ':' :: Octets.ofNat next.number ++ .ofText ": is not sorted: " ++ line
  { joining with
    first := if second then joining.first else next
    second := if second then next else joining.second
    complaints := joining.complaints ++ told }

/-- Goes on by some lines of a file. -/
def Joining.advanceBy (form : JoinForm) (wishes : JoinWishes) (second : Bool) : Nat → Joining → Joining
  | 0, joining => joining
  | count + 1, joining => Joining.advanceBy form wishes second count (joining.advance form wishes second)

/-- Goes through both files; lines with the same key are joined, each with each. -/
def joinAll (form : JoinForm) (wishes : JoinWishes) : Nat → Joining → Joining
  | 0, joining => joining
  | fuel + 1, joining =>
    let alone (second : Bool) (line : Octets) : Joining :=
      let shows := if second then wishes.onlySecond else wishes.onlyFirst
      let text := if second then form.joined none (some line) else form.joined (some line) none
      let seen := { joining with
        seen := joining.seen || !(joining.first.rest.isEmpty || joining.second.rest.isEmpty)
        output := if shows then text :: joining.output else joining.output }
      seen.advance form wishes second
    match joining.first.rest, joining.second.rest with
    | [], [] => joining
    | left :: _, [] => joinAll form wishes fuel (alone false left)
    | [], right :: _ => joinAll form wishes fuel (alone true right)
    | left :: _, right :: _ =>
      let (leftKey, rightKey) := (form.key false left, form.key true right)
      match orderBy form.atMost leftKey rightKey with
      | .lt => joinAll form wishes fuel (alone false left)
      | .gt => joinAll form wishes fuel (alone true right)
      | .eq =>
        let isSame (second : Bool) (line : Octets) : Bool :=
          orderBy form.atMost (form.key second line) leftKey == .eq
        let lefts := joining.first.rest.takeWhile (isSame false)
        let rights := joining.second.rest.takeWhile (isSame true)
        let pairs := lefts.flatMap fun left => rights.map fun right => form.joined (some left) (some right)
        let found := if wishes.pairs then { joining with output := pairs.reverse ++ joining.output } else joining
        let gone := Joining.advanceBy form wishes true rights.length
          (Joining.advanceBy form wishes false lefts.length found)
        joinAll form wishes fuel gone

def joinUsage : Usage where
  alone := ['i', 'z', 'H', 'C', 'N']
  valued := ['a', 'e', 'j', 'o', 't', 'v', '1', '2']
  words := [("ignore-case", 'i'), ("check-order", 'C'), ("nocheck-order", 'N'), ("header", 'H'),
    ("zero-terminated", 'z')]
  anywhere := true

/-- The fields that a list such as `0,1.2` names. -/
def joinedFields? (list : Octets) : Option (List JoinedField) :=
  let words := (list.splitBy fun a b => (a = ',' || a = ' ') = (b = ',' || b = ' ')).filter fun word =>
    !word.head?.any fun c => c = ',' || c = ' '
  words.mapM fun word => match word.splitOn '.' with
    | [['0']] => some .key
    | [['1'], index] => (Format.natural? index).map (JoinedField.ofFile false)
    | [['2'], index] => (Format.natural? index).map (JoinedField.ofFile true)
    | _ => none

/-- The list that a format may spread over several arguments; the rest are operands. -/
def gatherFormat (arguments : List Octets) : List Octets :=
  match arguments with
  | ['-', 'o'] :: list :: rest =>
    let isField (word : Octets) : Bool := (joinedFields? word).isSome && word.length > 2
    let more := rest.takeWhile isField
    ['-', 'o'] :: [','].intercalate (list :: more) :: gatherFormat (rest.drop more.length)
  | argument :: rest => argument :: gatherFormat rest
  | [] => []
termination_by arguments.length
decreasing_by all_goals simp_all <;> omega

/-- Joins lines of two files that have a field in common. -/
def joinLines (arguments : List Octets) (state : State) : State :=
  withOptions "join" joinUsage 1 (gatherFormat arguments) state fun options state =>
    withTwo "join" options state fun left right state =>
      let number (letter : Char) : Nat := ((options.number? letter).or (options.number? 'j')).getD 1
      let separator := (options.value? 't').bind fun text => if text = ['\\', '0'] then some '\x00' else text.head?
      let plain : JoinForm := {
        separator, keys := (number '1', number '2'), folded := options.has 'i', format := none
        filler := (options.value? 'e').getD [], ending := if options.has 'z' then '\x00' else '\n' }
      let (first, second) := (linesUpTo plain.ending left, linesUpTo plain.ending right)
      let counted (lines : List Octets) : Nat := ((lines.head?.map plain.fields).getD []).length
      let automatic : List JoinedField := .key ::
        ((List.range' 1 (counted first)).filter (· ≠ plain.keys.1)).map (JoinedField.ofFile false) ++
        ((List.range' 1 (counted second)).filter (· ≠ plain.keys.2)).map (JoinedField.ofFile true)
      let form := { plain with
        format := (options.value? 'o').bind fun list =>
          if list = .ofText "auto" then some automatic else joinedFields? list }
      let shows (file : Char) : Bool := (options.values 'a' ++ options.values 'v').contains [file]
      let wishes : JoinWishes := {
        pairs := (options.values 'v').isEmpty, onlyFirst := shows '1', onlySecond := shows '2'
        check := if options.has 'C' then .always else if options.has 'N' then .never else .onDoubt
        names := (options.operands.getD 0 [], options.operands.getD 1 []) }
      let headed := options.has 'H'
      let heading := if headed ∧ !(first.isEmpty && second.isEmpty) then [form.joined first.head? second.head?] else []
      let skip := if headed then 1 else 0
      let start : Joining := {
        first := { Cursor.start (first.drop skip) with number := 1 + skip }
        second := { Cursor.start (second.drop skip) with number := 1 + skip }
        output := [], seen := false, complaints := [] }
      let found := joinAll form wishes (first.length + second.length + 1) start
      let printed := state.print (heading.flatten ++ found.output.reverse.flatten)
      let told := found.complaints.foldl (fun state message => fault "join" message state) printed
      if found.complaints.isEmpty then told else fault "join" (.ofText "input is not in sorted order") told

/-! ### What follows what -/

/-- Words with what they must stand in front of. -/
structure Relations where
  words : List Octets
  pairs : List (Octets × Octets)

/-- The words that nothing has to stand in front of any more, as their turn comes. -/
def orderedFrom (pairs : List (Octets × Octets)) : Nat → List Octets → List Octets → List Octets
  | 0, _, done => done
  | _ + 1, [], done => done
  | fuel + 1, word :: queue, done =>
    let done := done ++ [word]
    let left := pairs.filter fun pair => !done.contains pair.1
    let behind := ((pairs.filter fun pair => pair.1 = word).map Prod.snd).reverse.eraseDups
    let free := behind.filter fun next => !left.any (fun pair => pair.2 = next) && !(done ++ queue).contains next
    orderedFrom pairs fuel (queue ++ free) done

/-- The words that lead from one back to itself. -/
def loopFrom (pairs : List (Octets × Octets)) : Nat → List Octets → List Octets
  | 0, path => path
  | fuel + 1, path =>
    match path with
    | [] => []
    | last :: _ =>
      match pairs.find? fun pair => pair.2 = last with
      | none => path
      | some (before, _) =>
        if path.contains before then path.takeWhile (· ≠ before) ++ [before]
        else loopFrom pairs fuel (before :: path)

/-- All words in an order that the pairs ask for, and the loops that have to be broken for it. -/
def sortRelations (relations : Relations) : Nat → List Octets → List (Octets × Octets) →
    List Octets × List (List Octets)
  | 0, done, _ => (done, [])
  | fuel + 1, done, pairs =>
    let free := (relations.words.filter fun word =>
      !done.contains word && !pairs.any fun pair => pair.2 = word).mergeSort Octets.atMost
    let found := done ++ orderedFrom pairs (relations.words.length + 1) free []
    let left := pairs.filter fun pair => !found.contains pair.1
    match (relations.words.filter fun word => !found.contains word).mergeSort Octets.atMost with
    | [] => (found, [])
    | word :: _ =>
      let loop := loopFrom left (left.length + 1) [word]
      let loop := (loop.dropWhile (· ≠ word)) ++ loop.takeWhile (· ≠ word)
      let broken := left.filter fun pair => !(pair.2 = loop.headD [] && loop.contains pair.1)
      let (sorted, loops) := sortRelations relations fuel found broken
      (sorted, loop :: loops)

/-- Puts words in an order in which the first one of each pair stands in front of the second. -/
def sortByPairs (arguments : List Octets) (state : State) : State :=
  withOptions "tsort" { alone := [], valued := [], words := [], anywhere := true } 1 arguments state
    fun options state =>
      match options.operands with
      | _ :: extra :: _ => hinted "tsort" (.ofText "extra operand " ++ quoted extra) state
      | operands =>
        let operand := operands.headD ['-']
        match contentOf operand state with
        | .error trouble => unreadable "tsort" operand trouble state
        | .ok (content, state) =>
          let isSpace (c : Char) : Bool := Name.isBlank c || c = '\n'
          let tokens := (content.splitBy fun a b => isSpace a = isSpace b).filter fun token =>
            !token.head?.any isSpace
          if tokens.length % 2 = 1 then
            fault "tsort" (operand ++ .ofText ": input contains an odd number of tokens") state
          else
            let pairs := (List.range (tokens.length / 2)).map fun index =>
              (tokens.getD (2 * index) [], tokens.getD (2 * index + 1) [])
            let words := tokens.eraseDups
            let (sorted, loops) := sortRelations { words, pairs } (pairs.length + 1) []
              (pairs.filter fun pair => pair.1 ≠ pair.2)
            let told := loops.foldl (fun state loop =>
              let state := fault "tsort" (operand ++ .ofText ": input contains a loop:") state
              loop.foldl (fun state word => complain "tsort" word state) state) state
            told.print (Octets.ofLines sorted)

end ComponentViews.Shell.Utility
