import ComponentViews.Shell.Utility.Size

/-! Utilities that lay lines out anew: cut them, fill them, or turn tabs into blanks and back. -/

namespace ComponentViews.Shell.Utility

/-! ### Lines of a greatest width -/

/-- The column behind a character; tabs reach to multiples of eight. -/
def columnBehind (byOctets : Bool) (column : Nat) (c : Char) : Nat :=
  if byOctets then column + 1
  else match c with
    | '\x08' => column - 1
    | '\x0d' => 0
    | '\t' => column / 8 * 8 + 8
    | _ => column + 1

def widthOf (byOctets : Bool) (text : Octets) : Nat := text.foldl (columnBehind byOctets) 0

/-- A line cut into pieces that are no wider than asked for, behind blanks if there are any. -/
def foldedLine (width : Nat) (byOctets atBlanks : Bool) : Nat → Octets → Nat → Octets → List Octets
  | 0, piece, _, rest => [piece.reverse ++ rest]
  | _ + 1, piece, _, [] => [piece.reverse]
  | fuel + 1, piece, column, c :: rest =>
    let behind := columnBehind byOctets column c
    if behind ≤ width then foldedLine width byOctets atBlanks fuel (c :: piece) behind rest
    else if piece = [] then foldedLine width byOctets atBlanks fuel [c] behind rest
    else
      let kept := piece.takeWhile fun c => !Name.isBlank c
      if atBlanks ∧ kept.length < piece.length then
        (piece.drop kept.length).reverse ::
          foldedLine width byOctets atBlanks fuel kept (widthOf byOctets kept.reverse) (c :: rest)
      else piece.reverse :: foldedLine width byOctets atBlanks fuel [] 0 (c :: rest)

/-- An argument such as `-5` stands for an option with a value. -/
def spellWidths (letter : Char) : List Octets → List Octets
  | [] => []
  | ['-', '-'] :: rest => ['-', '-'] :: rest
  | ['-', c] :: rest =>
    if Name.isDigit c then ['-', letter] :: [c] :: spellWidths letter rest
    else match rest with
      | value :: rest => if c = letter then ['-', c] :: value :: spellWidths letter rest
        else ['-', c] :: spellWidths letter (value :: rest)
      | [] => [['-', c]]
  | ('-' :: digits) :: rest =>
    if digits ≠ [] ∧ digits.all Name.isDigit then ['-', letter] :: digits :: spellWidths letter rest
    else ('-' :: digits) :: spellWidths letter rest
  | argument :: rest => argument :: spellWidths letter rest

def foldUsage : Usage where
  alone := ['b', 's']
  valued := ['w']
  words := [("bytes", 'b'), ("spaces", 's'), ("width", 'w')]
  anywhere := true

def fold (arguments : List Octets) (state : State) : State :=
  withOptions "fold" foldUsage 1 (spellWidths 'w' arguments) state fun options state =>
    let asked := (options.value? 'w').getD (.ofText "80")
    let refuse (reason : String) : State :=
      fault "fold" (.ofText "invalid number of columns: " ++ quoted asked ++ .ofText reason) state
    match readSize [] asked with
    | .error .malformed => refuse ""
    | .error .large => refuse ": Value too large for defined data type"
    | .ok 0 => refuse ": Numerical result out of range"
    | .ok width =>
      forEachContent "fold" options.operands state fun _ content state =>
        let cut (line : Octets) : Octets :=
          ['\n'].intercalate (foldedLine width (options.has 'b') (options.has 's') (2 * line.length + 1) [] 0 line)
        state.print (['\n'].intercalate ((content.splitOn '\n').map cut))

/-! ### Tabs -/

/-- Where tabs lead: to some columns, and behind them to multiples of a number, or to each
column that is a number of steps away from the last one. -/
structure TabStops where
  columns : List Nat
  multiple : Option Nat
  step : Option Nat
  deriving DecidableEq, Repr

namespace TabStops

/-- The column that a tab leads to, if there is one. -/
def next? (stops : TabStops) (column : Nat) : Option Nat :=
  match stops.columns.find? (· > column), stops.multiple, stops.step with
  | some stop, _, _ => some stop
  | none, some size, _ => some (column / size * size + size)
  | none, none, some size =>
    let last := stops.columns.getLast?.getD 0
    some (last + (column - last) / size * size + size)
  | none, none, none => none

/-- Stops as a list has them: numbers, each with the sign that came last in front of it. -/
def readAll : Nat → Option Char → Octets → Except Octets (List (Option Char × Nat))
  | 0, _, _ => .ok []
  | _ + 1, _, [] => .ok []
  | fuel + 1, sign, c :: rest =>
    if c = ',' ∨ c = ' ' ∨ c = '\t' then readAll fuel sign rest
    else if c = '/' ∨ c = '+' then readAll fuel (some c) rest
    else
      let digits := (c :: rest).takeWhile Name.isDigit
      let behind := (c :: rest).drop digits.length
      match Format.natural? digits, behind.head? with
      | none, _ => .error (.ofText "tab size contains invalid character(s): " ++ quoted (c :: rest))
      | some value, next =>
        if value ≥ sizeBound then .error (.ofText "tab stop is too large " ++ quoted digits)
        else if next = some '/' ∨ next = some '+' then
          .error (quoted (next.toList) ++ .ofText " specifier not at start of number: " ++ quoted behind)
        else (readAll fuel sign behind).map fun later => (sign, value) :: later

/-- The stops that a list spells, or what is wrong with it. -/
def read (text : Octets) : Except Octets TabStops := do
  let found ← readAll (text.length + 1) none text
  let numbers (sign : Option Char) : List Nat := (found.filter (·.1 = sign)).map Prod.snd
  let columns := numbers none
  let only (sign : Char) : Except Octets (Option Nat) := match numbers (some sign) with
    | [] => .ok none
    | [size] => .ok (if size = 0 then none else some size)
    | _ => .error (quoted [sign] ++ .ofText " specifier only allowed with the last value")
  let multiple ← only '/'
  let step ← only '+'
  if columns.contains 0 then .error (.ofText "tab size cannot be 0")
  else if (columns.zip (columns.drop 1)).any fun (a, b) => b ≤ a then .error (.ofText "tab sizes must be ascending")
  else if multiple.isSome ∧ step.isSome then .error (.ofText "'/' specifier is mutually exclusive with '+'")
  else match columns, multiple, step with
    | [], none, none => .ok { columns, multiple := some 8, step }
    | [single], none, none => .ok { columns := [], multiple := some single, step }
    | columns, multiple, step => .ok { columns, multiple, step }

end TabStops

/-- A line with blanks for its tabs. -/
def expandedLine (stops : TabStops) (onlyFirst : Bool) : Nat → Octets → Octets
  | _, [] => []
  | column, '\t' :: rest =>
    let next := ((stops.next? column).getD (column + 1))
    List.replicate (next - column) ' ' ++ expandedLine stops onlyFirst next rest
  | column, c :: rest =>
    if onlyFirst ∧ c ≠ ' ' then c :: rest
    else c :: expandedLine stops onlyFirst (if c = '\x08' then column - 1 else column + 1) rest

/-- A line with tabs for its blanks, where several of them reach up to a stop. -/
def unexpandedLine (stops : TabStops) (all : Bool) : Nat → Nat → Nat → Octets → Octets
  | 0, _, _, rest => rest
  | _ + 1, _, blanks, [] => List.replicate blanks ' '
  | fuel + 1, column, blanks, c :: rest =>
    let start := column - blanks
    if c = ' ' then
      if stops.next? start = some (column + 1) then
        if blanks > 0 then '\t' :: unexpandedLine stops all fuel (column + 1) 0 rest
        else if rest.head?.any Name.isBlank then '\t' :: unexpandedLine stops all fuel (column + 1) 0 rest
        else ' ' :: unexpandedLine stops all fuel (column + 1) 0 rest
      else if (stops.next? column).isNone then List.replicate blanks ' ' ++ c :: rest
      else unexpandedLine stops all fuel (column + 1) (blanks + 1) rest
    else if c = '\t' then
      '\t' :: unexpandedLine stops all fuel ((stops.next? column).getD (column + 1)) 0 rest
    else if all then List.replicate blanks ' ' ++ c :: unexpandedLine stops all fuel (column + 1) 0 rest
    else List.replicate blanks ' ' ++ c :: rest

def tabUsage : Usage where
  alone := ['i', 'a', 'F']
  valued := ['t']
  words := [("initial", 'i'), ("all", 'a'), ("first-only", 'F'), ("tabs", 't')]
  anywhere := true

/-- Changes each line by tab stops. -/
def withStops (command : String) (arguments : List Octets) (state : State)
    (change : Options → TabStops → Octets → Octets) : State :=
  withOptions command tabUsage 1 (spellWidths 't' arguments) state fun options state =>
    match TabStops.read ([','].intercalate (options.values 't')) with
    | .error message => fault command message state
    | .ok stops =>
      forEachContent command options.operands state fun _ content state =>
        state.print (['\n'].intercalate ((content.splitOn '\n').map (change options stops)))

def expandTabs (arguments : List Octets) (state : State) : State :=
  withStops "expand" arguments state fun options stops line => expandedLine stops (options.has 'i') 0 line

def unexpandTabs (arguments : List Octets) (state : State) : State :=
  withStops "unexpand" arguments state fun options stops line =>
    let all := (options.has 'a' || options.has 't') && !options.has 'F'
    unexpandedLine stops all (line.length + 1) 0 0 line

/-! ### Paragraphs -/

/-- A word of a paragraph: how much space follows it, and whether it begins with a parenthesis,
ends with a period or other punctuation, or ends a sentence. -/
structure FilledWord where
  text : Octets
  space : Nat
  opens : Bool
  period : Bool
  punctuated : Bool
  final : Bool

namespace FilledWord

def isPunctuation (c : Char) : Bool := '!' ≤ c && c ≤ '~' && !Name.isDigit c &&
  !('a' ≤ c && c ≤ 'z') && !('A' ≤ c && c ≤ 'Z')

def ofText (text : Octets) : FilledWord :=
  let closed := text.dropEndWhile fun c => c ∈ [')', ']', '\'', '"']
  let last := (if closed = [] then text.take 1 else closed).getLast?
  { text, space := 1
    opens := text.head?.any fun c => c ∈ ['(', '[', '\'', '\x60', '"']
    period := last.any fun c => c ∈ ['.', '?', '!']
    punctuated := text.getLast?.any isPunctuation
    final := false }

end FilledWord

/-- How wide lines may be, and how wide they should be. -/
structure Filling where
  width : Nat
  goal : Nat
  split : Bool
  uniform : Bool
  crown : Bool
  tagged : Bool

namespace Filling

def square (value : Int) : Int := value * value

/-- What it costs to begin a line with a word, by the two words in front of it. -/
def baseCost (before : List FilledWord) (word : FilledWord) : Int :=
  let (previous, earlier) := (before.head?, before[1]?)
  let broken : Int := match previous with
    | none => 0
    | some previous =>
      if previous.period then if previous.final then -square 50 else square 600
      else if previous.punctuated then -square 40
      else if earlier.any FilledWord.final then square 200 / (previous.text.length + 2)
      else 0
  let begun : Int := if word.opens then -square 40
    else if word.final then square 150 / (word.text.length + 2)
    else 0
  square 70 + broken + begun

/-- The best way to break the words from one on: its cost, how long its first line is, and how
many words that has. -/
structure Plan where
  cost : Int
  length : Nat
  count : Nat

/-- What it costs to end a line of some length in front of words with plans. -/
def lineCost (filling : Filling) (length : Nat) : List Plan → Int
  | [] => 0
  | next :: later =>
    let short := square (10 * ((filling.goal : Int) - length))
    let ragged := if next.count = later.length + 1 then 0 else square (10 * ((length : Int) - next.length)) / 2
    short + ragged

/-- The best first line of words, taken one by one, with the plans behind each. -/
def bestLine (filling : Filling) : Nat → Nat → Option Plan → List FilledWord → List Plan → Option Plan
  | _, _, best, [], _ => best
  | length, count, best, word :: rest, plans =>
    let behind := plans
    let cost := lineCost filling length behind + (behind.head?.map Plan.cost).getD 0
    let best := match best with
      | some found => if cost < found.cost then some { cost, length, count } else some found
      | none => some { cost, length, count }
    match rest with
    | [] => best
    | next :: _ =>
      let longer := length + word.space + next.text.length
      if longer < filling.width then bestLine filling longer (count + 1) best rest (plans.drop 1) else best

/-- Plans for the words from each one on; the words in front come last first. -/
def plansFrom (filling : Filling) (first other : Nat) : List FilledWord → List FilledWord → List Plan
  | _, [] => []
  | before, word :: rest =>
    let later := plansFrom filling first other (word :: before) rest
    let indent := if before.isEmpty then first else other
    match bestLine filling (indent + word.text.length) 1 none (word :: rest) later with
    | some plan => { plan with cost := plan.cost + baseCost before word } :: later
    | none => later

/-- The lines of a paragraph. -/
def lines (filling : Filling) (indent other : Nat) : Nat → List FilledWord → List Plan → List Octets
  | 0, _, _ => []
  | fuel + 1, words, plans =>
    match plans with
    | [] => []
    | plan :: _ =>
      let line := words.take plan.count
      let text := (line.dropLast.flatMap fun word => word.text ++ List.replicate word.space ' ') ++
        (line.getLast?.map FilledWord.text).getD []
      (List.replicate indent ' ' ++ text) ::
        filling.lines other other fuel (words.drop plan.count) (plans.drop plan.count)

/-- The words of a line with the space behind each; at the end of a sentence that is wider. -/
def wordsOf (uniform : Bool) : Nat → Octets → List FilledWord
  | 0, _ => []
  | fuel + 1, text =>
    let word := text.takeWhile fun c => !Name.isBlank c
    let blanks := (text.drop word.length).takeWhile Name.isBlank
    let rest := text.drop (word.length + blanks.length)
    if word = [] then []
    else
      let read := FilledWord.ofText word
      let final := read.period && (rest = [] || blanks.length > 1)
      let space := if rest = [] ∨ uniform then (if final then 2 else 1) else blanks.length
      { read with final, space } :: wordsOf uniform fuel rest

def indentOf (line : Octets) : Nat := widthOf false (line.takeWhile Name.isBlank)

/-- The lines that make up a paragraph with the first one, its other indentation, and the rest. -/
def paragraphOf (filling : Filling) (first : Octets) (rest : List Octets) : List Octets × Nat × List Octets :=
  let isText (line : Octets) : Bool := line.any fun c => !Name.isBlank c
  let own := indentOf first
  let next := (rest.head?.filter isText).map indentOf
  let other := if filling.split then own
    else if filling.crown then next.getD own
    else if filling.tagged then
      match next with
      | some next => if next ≠ own then next else if own = 0 then 3 else 0
      | none => if own = 0 then 3 else 0
    else own
  let joins := !filling.split && !(filling.tagged && next = some own)
  let more := if joins then rest.takeWhile fun line => isText line && indentOf line = other else []
  (first :: more, other, rest.drop more.length)

/-- All lines filled anew, paragraph by paragraph. -/
def fill (filling : Filling) : Nat → List Octets → List Octets
  | 0, lines => lines
  | _ + 1, [] => []
  | fuel + 1, line :: rest =>
    if line.all Name.isBlank then [] :: filling.fill fuel rest
    else
      let (members, other, rest) := filling.paragraphOf line rest
      let words := members.flatMap fun member =>
        wordsOf filling.uniform (member.length + 1) (member.dropWhile Name.isBlank)
      let words := match words.getLast? with
        | some last => words.dropLast ++ [{ last with period := true, final := true }]
        | none => []
      let indent := indentOf line
      filling.lines indent other (words.length + 1) words (filling.plansFrom indent other [] words) ++
        filling.fill fuel rest

end Filling

def fillUsage : Usage where
  alone := ['c', 's', 't', 'u']
  valued := ['w', 'g', 'p']
  words := [("crown-margin", 'c'), ("split-only", 's'), ("tagged-paragraph", 't'), ("uniform-spacing", 'u'),
    ("width", 'w'), ("goal", 'g'), ("prefix", 'p')]
  anywhere := true

/-- Fills lines up to a width. -/
def fillLines (arguments : List Octets) (state : State) : State :=
  withOptions "fmt" fillUsage 1 (spellWidths 'w' arguments) state fun options state =>
    let width? := match options.value? 'w' with
      | none => some (((options.number? 'g').map (· + 10)).getD 75)
      | some text => (Format.natural? text).filter (· ≤ 2500)
    match width? with
    | none => fault "fmt" (.ofText "invalid width: " ++ quoted ((options.value? 'w').getD [])) state
    | some width =>
      let goal := (options.number? 'g').getD (width * 187 / 200)
      let filling : Filling := {
        width, goal, split := options.has 's', uniform := options.has 'u', crown := options.has 'c'
        tagged := options.has 't' }
      forEachContent "fmt" options.operands state fun _ content state =>
        state.print (Octets.ofLines (filling.fill (content.length + 1) content.lines))

end ComponentViews.Shell.Utility
