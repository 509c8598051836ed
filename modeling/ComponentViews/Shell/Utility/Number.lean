import ComponentViews.Shell.Real
import ComponentViews.Shell.Utility.Options

/-! Utilities that make numbers, take them apart or print them for people to read. -/

namespace ComponentViews.Shell.Utility

/-- A decimal number: a whole number of parts, so many of which behind the point. -/
structure Decimal where
  value : Int
  places : Nat
  deriving DecidableEq, Repr

namespace Decimal

/-- The number in parts of other places, of which there are no fewer. -/
def scaled (number : Decimal) (places : Nat) : Int := number.value * Nat.pow 10 (places - number.places)

/-- The digits of a value with so many places. -/
def digits (places : Nat) (value : Int) : Octets :=
  (if value < 0 then ['-'] else []) ++ Numeral.withPoint places false (Numeral.digitsOf (places + 1) value.natAbs)

def numeral (number : Decimal) : Numeral where
  negative := number.value < 0
  magnitude := .finite (number.value.natAbs, Nat.pow 10 number.places)

/-- The number that a text is, if it is one as a whole. -/
def read? (text : Octets) : Option Decimal :=
  let text := text.dropWhile Name.isBlank
  let negative := text.head? = some '-'
  let behind := if text.head?.any fun c => c = '-' || c = '+' then text.drop 1 else text
  let signed (value : Nat) : Int := if negative then -(value : Int) else value
  match behind with
  | '0' :: x :: digits =>
    if x = 'x' ∨ x = 'X' then
      let (value, rest) := Expression.readDigits 16 0 digits
      if digits ≠ [] ∧ rest = [] then some { value := signed value, places := 0 } else none
    else plain signed behind
  | behind => plain signed behind
where
  plain (signed : Nat → Int) (text : Octets) : Option Decimal :=
    let whole := text.takeWhile Name.isDigit
    let hasPoint := (text.drop whole.length).head? = some '.'
    let part := if hasPoint then (text.drop (whole.length + 1)).takeWhile Name.isDigit else []
    let rest := text.drop (whole.length + part.length + if hasPoint then 1 else 0)
    let (exponent, length) := Numeral.exponentAt rest
    if whole ++ part = [] ∨ length ≠ rest.length then none
    else
      let value := Numeral.digitsValue (whole ++ part)
      let shift := exponent - part.length
      some (if 0 ≤ shift then { value := signed (value * Nat.pow 10 (min shift.toNat 4000)), places := 0 }
        else { value := signed value, places := min shift.natAbs 4000 })

end Decimal

/-! ### Rows of numbers -/

/-- A format with one directive: what stands in front of it and behind, its layout and letter. -/
structure NumberFormat where
  front : Octets
  behind : Octets
  layout : Format.Layout
  letter : Char

/-- Two percent signs stand for one. -/
def plainText : Octets → Octets
  | '%' :: '%' :: rest => '%' :: plainText rest
  | c :: rest => c :: plainText rest
  | [] => []

/-- The text in front of the first directive. -/
def textBefore : Octets → Octets
  | '%' :: '%' :: rest => '%' :: '%' :: textBefore rest
  | '%' :: _ => []
  | c :: rest => c :: textBefore rest
  | [] => []

def numberFormat? (letters : List Char) (format : Octets) : Except Octets NumberFormat :=
  let front := textBefore format
  let named := .ofText "format " ++ quoted format
  match format.drop front.length with
  | [] => .error (named ++ .ofText " has no % directive")
  | _ :: directive =>
    let (layout, behind, _) := Format.readLayout (directive.filter (· ≠ '\'')) []
    match behind with
    | [] => .error (named ++ .ofText " ends in %")
    | letter :: behind =>
      if !letters.contains letter then .error (named ++ .ofText " has unknown %" ++ letter :: Octets.ofText " directive")
      else if (textBefore behind).length ≠ behind.length then .error (named ++ .ofText " has too many % directives")
      else .ok { front := plainText front, behind := plainText behind, layout, letter }

/-- An argument of a row: its value, how precise it is, and how wide. -/
structure Bound where
  value : Decimal
  precision : Nat
  width : Nat

def bound? (argument : Octets) : Option Bound :=
  (Decimal.read? argument).map fun value =>
    let text := argument.dropWhile fun c => Name.isBlank c || c = '+'
    let fraction := ((text.dropWhile (· ≠ '.')).drop 1).takeWhile Name.isDigit
    let mantissa := text.takeWhile fun c => c ≠ 'e' ∧ c ≠ 'E'
    let hasPoint := text.contains '.'
    let precision := if value.places = 0 then 0 else value.places
    let front := mantissa.takeWhile (· ≠ '.')
    let isBare := hasPoint && !(front.getLast?.any Name.isDigit)
    let width := if hasPoint ∧ fraction = [] then mantissa.length - 1
      else if isBare then mantissa.length + 1
      else mantissa.length
    { value, precision, width }

def sequenceUsage : Usage where
  alone := ['w']
  valued := ['f', 's']
  words := [("equal-width", 'w'), ("format", 'f'), ("separator", 's')]
  anywhere := false

/-- Options in front of the first number; a minus sign in front of a digit starts one. -/
def numbersBehind (arguments : List Octets) : List Octets :=
  let isNumber (argument : Octets) : Bool := match argument with
    | '-' :: c :: _ => Name.isDigit c || c = '.'
    | _ => false
  let rec go : List Octets → List Octets
    | [] => []
    | ['-', 'f'] :: value :: rest => ['-', 'f'] :: value :: go rest
    | ['-', 's'] :: value :: rest => ['-', 's'] :: value :: go rest
    | argument :: rest =>
      if isNumber argument then ['-', '-'] :: argument :: rest
      else if argument.head? = some '-' ∧ argument ≠ ['-', '-'] then argument :: go rest
      else argument :: rest
  go arguments

/-- How many numbers are made where there is no end of them. -/
def endlessCount : Nat := 200000

/-- Prints numbers in a row. -/
def sequence (arguments : List Octets) (state : State) : State :=
  withOptions "seq" sequenceUsage 1 (numbersBehind arguments) state fun options state =>
    let isEndless := options.operands.getLast? = some (.ofText "inf")
    let operands := if isEndless then options.operands.dropLast ++ [['0']] else options.operands
    let refuse (message : Octets) : State := hinted "seq" message state
    match operands, operands[3]? with
    | [], _ => refuse (.ofText "missing operand")
    | _, some extra => refuse (.ofText "extra operand " ++ quoted extra)
    | operands, none =>
      match operands.find? fun operand => (bound? operand).isNone with
      | some operand => refuse (.ofText "invalid floating point argument: " ++ quoted operand)
      | none =>
        let unit : Bound := { value := ⟨1, 0⟩, precision := 0, width := 1 }
        let (first, step, last) := match operands.filterMap bound? with
          | [last] => (unit, unit, last)
          | [first, last] => (first, unit, last)
          | [first, step, last] => (first, step, last)
          | _ => (unit, unit, unit)
        if step.value.value = 0 then
          refuse (.ofText "invalid Zero increment value: " ++ quoted (operands.getD 1 []))
        else
          let places := max first.value.places (max step.value.places last.value.places)
          let (start, stride, limit) := (first.value.scaled places, step.value.scaled places, last.value.scaled places)
          let count := if isEndless then endlessCount else ((limit - start).fdiv stride + 1).toNat
          let precision := max first.precision step.precision
          let firstWidth := first.width + (precision - first.precision) + if first.precision = 0 ∧ precision > 0 then 1 else 0
          let lastWidth := last.width + precision - last.precision -
            (if last.precision > 0 ∧ precision = 0 then 1 else 0) +
            (if last.precision = 0 ∧ precision > 0 then 1 else 0)
          let width := if options.has 'w' then max firstWidth lastWidth else 0
          let plain (value : Int) : Octets :=
            let text := Decimal.digits precision (value / (Nat.pow 10 (places - precision) : Nat))
            let sign := text.takeWhile (· = '-')
            sign ++ List.replicate (width - text.length) '0' ++ text.drop sign.length
          let print (image : Int → Octets) : State :=
            let numbers := (List.range count).map fun (index : Nat) => image (start + stride * index)
            let separator := (options.value? 's').getD ['\n']
            state.print (separator.intercalate numbers ++ (if numbers = [] then [] else ['\n']))
          match (options.value? 'f').map (numberFormat? ['e', 'f', 'g', 'a', 'E', 'F', 'G', 'A']) with
          | none => print plain
          | some (.error message) => fault "seq" message state
          | some (.ok format) => print fun value =>
            let number := Numeral.Precision.extended.round (Decimal.numeral { value, places })
            format.front ++ (format.layout.ofReal? .extended format.letter number).getD (plain value) ++ format.behind

/-! ### Factors -/

/-- The prime factors of a number, tried from some divisor on. -/
def factorsFrom : Nat → Nat → Nat → List Nat
  | 0, _, number => if number > 1 then [number] else []
  | fuel + 1, divisor, number =>
    if divisor * divisor > number then (if number > 1 then [number] else [])
    else if number % divisor = 0 then divisor :: factorsFrom fuel divisor (number / divisor)
    else factorsFrom fuel (if divisor = 2 then 3 else divisor + 2) number

/-- How many divisors are tried. -/
def divisorLimit : Nat := 20000000

def factorLine (asPowers : Bool) (number : Nat) : Octets :=
  let factors := factorsFrom divisorLimit 2 number
  let shown := if asPowers then
      (factors.splitBy (· = ·)).map fun run =>
        Octets.ofNat (run.headD 1) ++ if run.length > 1 then '^' :: Octets.ofNat run.length else []
    else factors.map Octets.ofNat
  Octets.ofNat number ++ ':' :: shown.flatMap (' ' :: ·)

def factor (arguments : List Octets) (state : State) : State :=
  let usage : Usage := { alone := ['h'], valued := [], words := [("exponents", 'h')], anywhere := true }
  withOptions "factor" usage 1 arguments state fun options state =>
    let (words, state) := if options.operands = [] then
        let isSpace (c : Char) : Bool := Name.isBlank c || c = '\n'
        ((state.inputPending.splitBy fun a b => isSpace a = isSpace b).filter fun word =>
          !word.head?.any isSpace, state.leave 0 [])
      else (options.operands, state)
    words.foldl (fun state word =>
      match Format.natural? (if word.head? = some '+' then word.drop 1 else word) with
      | some number => state.print (factorLine (options.has 'h') number ++ ['\n'])
      | none => fault "factor" (quoted word ++ .ofText " is not a valid positive integer") state) state

/-! ### Chance -/

/-- The same members in another order. -/
def shuffled {α : Type} (seed : Nat) (members : List α) : List α :=
  (((State.scattered members.length seed).zip members).mergeSort fun a b => a.1 ≤ b.1).map Prod.snd

def shuffleUsage : Usage where
  alone := ['e', 'r', 'z']
  valued := ['i', 'n', 'o', 'R']
  words := [("echo", 'e'), ("repeat", 'r'), ("input-range", 'i'), ("head-count", 'n'), ("output", 'o'),
    ("random-source", 'R'), ("zero-terminated", 'z')]
  anywhere := true

/-- The numbers that a range such as `2-5` has; it may be empty. -/
def numbersBetween? (range : Octets) : Option (List Octets) :=
  match (range.splitOn '-').map Format.natural? with
  | [some first, some last] =>
    if last + 1 < first then none else some ((List.range' first (last + 1 - first)).map Octets.ofNat)
  | _ => none

/-- What is wrong with the options, and whether a hint belongs to it. -/
def shuffleMisuse? (options : Options) : Option (Octets × Bool) :=
  let ranges := options.values 'i'
  let badRange := ranges.find? fun range => (numbersBetween? range).isNone
  let badCount := (options.values 'n').find? fun count => (Format.natural? count).isNone
  let room := if options.has 'e' then options.operands.length else if options.has 'i' then 0 else 1
  if ranges.length > 1 then some (.ofText "multiple -i options specified", false)
  else if let some range := badRange then some (.ofText "invalid input range: " ++ quoted range, false)
  else if let some count := badCount then some (.ofText "invalid line count: " ++ quoted count, false)
  else if (options.values 'o').eraseDups.length > 1 then some (.ofText "multiple output files specified", false)
  else if options.has 'e' ∧ options.has 'i' then some (.ofText "cannot combine -e and -i options", true)
  else match options.operands[room]? with
    | some extra => some (.ofText "extra operand " ++ quoted extra, true)
    | none => none

/-- Prints lines, arguments or numbers in any order. -/
def shuffle (arguments : List Octets) (state : State) : State :=
  withOptions "shuf" shuffleUsage 1 arguments state fun options state =>
    let seed := state.world.clock + state.world.nextProcess
    let limit := ((options.values 'n').filterMap Format.natural?).min?
    let finish (members : List Octets) (state : State) : State :=
      let again := options.has 'r'
      let count := limit.getD endlessCount
      if again ∧ members = [] ∧ count > 0 then fault "shuf" (.ofText "no lines to repeat") state
      else
        let chosen := if again then
            (State.scattered count seed).filterMap fun number => members[number % members.length]?
          else
            let mixed := shuffled seed members
            (limit.map mixed.take).getD mixed
        let ending := if options.has 'z' then '\x00' else '\n'
        let text := chosen.flatMap (· ++ [ending])
        match options.value? 'o' with
        | some path =>
          match state.write path text with
          | .ok state => state
          | .error trouble => faultOf "shuf" path trouble.message state
        | none => state.print text
    match shuffleMisuse? options with
    | some (message, true) => hinted "shuf" message state
    | some (message, false) => fault "shuf" message state
    | none =>
      let missing := (options.value? 'R').bind fun path => (state.read path).toOption.elim (some path) fun _ => none
      match missing, (options.value? 'i').bind numbersBetween? with
      | some path, _ => faultOf "shuf" path Trouble.missing.message state
      | none, some members => finish members state
      | none, none =>
        if options.has 'e' then finish options.operands state
        else
          let (content, state) := gather "shuf" options.operands state
          if state.status ≠ 0 then state
          else finish (if options.has 'z' then (content.splitOn '\x00').filter (· ≠ []) else content.lines) state

end ComponentViews.Shell.Utility
