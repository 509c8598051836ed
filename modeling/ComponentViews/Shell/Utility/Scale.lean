import ComponentViews.Shell.Utility.Number

/-! Numbers with letters for powers of a thousand or of 1024, read and printed. -/

namespace ComponentViews.Shell.Utility

/-- What the letters behind numbers stand for. -/
inductive Scale where
  | none
  | auto
  | thousands
  | binary
  /-- Powers of 1024 with another letter behind. -/
  | binaryMarked
  deriving DecidableEq, Repr

namespace Scale

def named : List (String × Scale) :=
  [("none", .none), ("auto", .auto), ("si", .thousands), ("iec", .binary), ("iec-i", .binaryMarked)]

def base : Scale → Nat
  | .binary => 1024
  | .binaryMarked => 1024
  | _ => 1000

/-- Letters for the first power, the second one and so on. -/
def letters : List Char := ['K', 'M', 'G', 'T', 'P', 'E', 'Z', 'Y', 'R', 'Q']

end Scale

/-- A fraction. -/
structure Fraction where
  numerator : Int
  denominator : Nat

namespace Fraction

def isBelow (number : Fraction) (limit : Nat) : Bool := number.numerator.natAbs < limit * number.denominator

/-- Ways to make a fraction whole. -/
inductive Rounding where
  | up
  | down
  | fromZero
  | towardsZero
  | nearest
  deriving DecidableEq, Repr

def Rounding.named : List (String × Rounding) :=
  [("up", .up), ("down", .down), ("from-zero", .fromZero), ("towards-zero", .towardsZero), ("nearest", .nearest)]

def rounded (rounding : Rounding) (number : Fraction) : Int :=
  let floor := number.numerator.fdiv number.denominator
  let ceiling := -((-number.numerator).fdiv number.denominator)
  let negative := number.numerator < 0
  match rounding with
  | .up => ceiling
  | .down => floor
  | .fromZero => if negative then floor else ceiling
  | .towardsZero => if negative then ceiling else floor
  | .nearest =>
    let magnitude := (2 * number.numerator.natAbs + number.denominator) / (2 * number.denominator)
    if negative then -(magnitude : Int) else magnitude

/-- A fraction with so many places behind the point. -/
def atPlaces (rounding : Rounding) (places : Nat) (number : Fraction) : Int :=
  rounded rounding { number with numerator := number.numerator * Nat.pow 10 places }

end Fraction

/-- How numbers are read and printed. -/
structure ScaleForm where
  source : Scale
  target : Scale
  sourceUnit : Nat
  targetUnit : Nat
  rounding : Fraction.Rounding
  ending : Octets
  /-- How wide, to the left or not, and filled with zeros or not. -/
  padding : Nat
  left : Bool
  zeros : Nat
  precision : Option Nat
  front : Octets
  behind : Octets
  delimiter : Option Char

/-- A number in front of letters, with how many places it has, or what is wrong with it. -/
def readScaled (scale : Scale) (text : Octets) : Except Octets (Fraction × Nat) := do
  let bad (message : String) : Except Octets (Fraction × Nat) := .error (.ofText message ++ quoted text)
  let negative := text.head? = some '-'
  let behind := if negative then text.drop 1 else text
  let whole := behind.takeWhile Name.isDigit
  let hasPoint := (behind.drop whole.length).head? = some '.'
  let part := if hasPoint then (behind.drop (whole.length + 1)).takeWhile Name.isDigit else []
  let rest := (behind.drop (whole.length + part.length + if hasPoint then 1 else 0)).dropWhile Name.isBlank
  let magnitude : Int := Numeral.digitsValue (whole ++ part)
  let value := if negative then -magnitude else magnitude
  let places := part.length
  let scaled (factor : Nat) : Fraction := { numerator := value * factor, denominator := Nat.pow 10 places }
  if whole = [] then bad "invalid number: "
  else match rest with
    | [] => .ok (scaled 1, places)
    | letter :: others =>
      match Scale.letters.findIdx? (· = letter) with
      | none => bad "invalid suffix in input: "
      | some index =>
        if scale = .none then
          .error (.ofText "rejecting suffix in input: " ++ quoted text ++ .ofText " (consider using --from)")
        else
          let marked := others.head? = some 'i'
          if scale = .binaryMarked ∧ !marked then
            .error (.ofText "missing 'i' suffix in input: " ++ quoted text ++ .ofText " (e.g Ki/Mi/Gi)")
          else
            let takesMark := marked && (scale = .binaryMarked || scale = .auto)
            let others := if takesMark then others.drop 1 else others
            let base := if scale = .auto ∧ marked then 1024 else scale.base
            if others ≠ [] then
              .error (.ofText "invalid suffix in input " ++ quoted text ++ .ofText ": " ++ quoted others)
            else .ok (scaled (Nat.pow base (index + 1)), 0)

/-- A number divided by a base until it is less than that, and how often. -/
def reduced (base : Nat) : Nat → Nat → Fraction → Fraction × Nat
  | 0, power, number => (number, power)
  | fuel + 1, power, number =>
    if number.isBelow base then (number, power)
    else reduced base fuel (power + 1) { number with denominator := number.denominator * base }

/-- A number as people read it. -/
def scaledText (form : ScaleForm) (places : Nat) (number : Fraction) : Octets :=
  match form.target with
  | .none => Decimal.digits places (number.atPlaces form.rounding places)
  | scale =>
    let (value, power) := reduced scale.base 10 0 number
    let shift := match form.precision with
      | some precision => min (power * 3) precision
      | none => if value.isBelow 10 then 1 else 0
    let rounded : Fraction := { numerator := value.atPlaces form.rounding shift, denominator := Nat.pow 10 shift }
    let (value, power) : Fraction × Nat := if rounded.isBelow scale.base then (rounded, power)
      else ({ rounded with denominator := rounded.denominator * scale.base }, power + 1)
    let showsPoint := value.numerator ≠ 0 && value.isBelow 10 && power > 0
    let places := form.precision.getD (if showsPoint then 1 else 0)
    let letter := if power = 0 then [] else [Scale.letters.getD (power - 1) 'Q']
    Decimal.digits places (value.atPlaces .nearest places) ++ letter ++
      if scale = .binaryMarked ∧ power > 0 then ['i'] else []

/-- Fills a text up to a width. -/
def fitted (width : Nat) (left : Bool) (text : Octets) : Octets :=
  let blanks := List.replicate (width - text.length) ' '
  if left then text ++ blanks else blanks ++ text

/-- A field with its number printed anew. -/
def rescaled (form : ScaleForm) (index : Nat) (field : Octets) : Except Octets Octets := do
  let bare := if form.ending.length < field.length ∧ form.ending.isSuffixOf field then
      field.take (field.length - form.ending.length) else field
  let text := bare.dropWhile Name.isBlank
  let (number, places) ← readScaled form.source text
  let number : Fraction :=
    { numerator := number.numerator * form.sourceUnit, denominator := number.denominator * form.targetUnit }
  let places := form.precision.getD places
  if form.target = .none ∧ !number.isBelow (Nat.pow 10 (19 - min 18 places)) then
    let shown := (if number.numerator < 0 then ['-'] else []) ++
      Numeral.general 6 false (number.numerator.natAbs, number.denominator)
    .error (.ofText "value too large to be printed: " ++ quoted shown ++ .ofText " (consider using --to)")
  else
    let image := scaledText form places number
    let image := List.replicate (form.zeros - image.length) '0' ++ image ++ form.ending
    let ownWidth := form.padding = 0 && form.delimiter.isNone && (text.length < bare.length || index > 0)
    .ok (form.front ++ fitted (if ownWidth then field.length else form.padding) form.left image ++ form.behind)

/-- The fields of a line; blanks in front of a field belong to it. -/
def fieldsWithBlanks : Nat → Octets → List Octets
  | 0, _ => []
  | fuel + 1, line =>
    let blanks := line.takeWhile Name.isBlank
    let field := blanks ++ (line.drop blanks.length).takeWhile fun c => !Name.isBlank c
    match line.drop field.length with
    | [] => [field]
    | _ :: rest => field :: fieldsWithBlanks fuel rest

/-- What happens upon a field that holds no number. -/
inductive Tolerance where
  | abort
  | fail
  | warn
  | ignore
  deriving DecidableEq, Repr

def Tolerance.named : List (String × Tolerance) :=
  [("abort", .abort), ("fail", .fail), ("warn", .warn), ("ignore", .ignore)]

/-- A line with the numbers in some of its fields printed anew, and what is wrong with others. -/
def rescaledLine (form : ScaleForm) (among : Nat → Bool) (line : Octets) : Octets × List Octets :=
  let fields := match form.delimiter with
    | some delimiter => line.splitOn delimiter
    | none => fieldsWithBlanks (line.length + 1) line
  let images := fields.zipIdx.map fun (field, index) =>
    if !among (index + 1) then (field, [])
    else match rescaled form index field with
      | .ok image => (image, [])
      | .error message => (field, [message])
  ([form.delimiter.getD ' '].intercalate (images.map Prod.fst), images.flatMap Prod.snd)

def scaleUsage : Usage where
  alone := ['z', 'G', 'D', 'H']
  valued := ['d', 'f', 't', 'F', 'T', 'p', 'n', 's', 'o', 'R', 'I']
  words := [("from", 'f'), ("to", 't'), ("from-unit", 'F'), ("to-unit", 'T'), ("padding", 'p'), ("field", 'n'),
    ("suffix", 's'), ("format", 'o'), ("round", 'R'), ("invalid", 'I'), ("delimiter", 'd'), ("grouping", 'G'),
    ("debug", 'D'), ("header", 'H'), ("zero-terminated", 'z')]
  anywhere := true
  optional := ['H']

/-- Reads and prints numbers for people. -/
def formatNumbers (arguments : List Octets) (state : State) : State :=
  withOptions "numfmt" scaleUsage 1 arguments state fun options state =>
    let choice {α : Type} (letter : Char) (word : String) (known : List (String × α)) (usual : α) : Except Octets α :=
      match options.value? letter with
      | none => .ok usual
      | some value =>
        match known.lookup (String.ofList value) with
        | some found => .ok found
        | none =>
          let listed := String.join (known.map fun entry => "\n  - '" ++ entry.1 ++ "'")
          .error (.ofText "invalid argument " ++ quoted value ++
            .ofText (" for '--" ++ word ++ "'\nValid arguments are:" ++ listed))
    let unit (letter : Char) : Except Octets Nat :=
      match options.value? letter with
      | none => .ok 1
      | some value =>
        match readScaled .auto value with
        | .ok (number, _) => .ok (number.numerator.toNat / number.denominator)
        | .error _ => .error (.ofText "invalid unit size: " ++ quoted value)
    let read : Except Octets (ScaleForm × Tolerance) := do
      let source ← choice 'f' "from" Scale.named .none
      let target ← choice 't' "to" (Scale.named.filter fun entry => entry.1 ≠ "auto") .none
      let rounding ← choice 'R' "round" Fraction.Rounding.named .fromZero
      let tolerance ← choice 'I' "invalid" Tolerance.named .abort
      let sourceUnit ← unit 'F'
      let targetUnit ← unit 'T'
      let format ← match options.value? 'o' with
        | none => pure Option.none
        | some format => (numberFormat? ['f'] format).map some
      let padding := ((options.value? 'p').bind Format.integer?).getD 0
      let width := (format.map fun format => format.layout.width).getD 0
      let zeros := format.any fun format => format.layout.zeros && !format.layout.left
      pure ({ source, target, sourceUnit, targetUnit, rounding,
              ending := (options.value? 's').getD []
              padding := if padding ≠ 0 then padding.natAbs else if zeros then 0 else width
              left := padding < 0 || format.any fun format => format.layout.left
              zeros := if zeros then width else 0
              precision := format.bind fun format => format.layout.precision
              front := (format.map NumberFormat.front).getD []
              behind := (format.map NumberFormat.behind).getD []
              delimiter := (options.value? 'd').bind List.head? }, tolerance)
    match read with
    | .error message =>
      if (Octets.ofText "format").isPrefixOf message then fault "numfmt" message state else hinted "numfmt" message state
    | .ok (form, tolerance) =>
      let among (index : Nat) : Bool := match options.value? 'n' with
        | none => index = 1
        | some list => list = ['-'] || (list.splitOn ',').any fun range =>
          match range.splitOn '-' with
          | [single] => Format.natural? single = some index
          | [first, last] =>
            ((Format.natural? first).getD 1 ≤ index : Bool) && (Format.natural? last).all (index ≤ ·)
          | _ => false
      let ending := if options.has 'z' then '\x00' else '\n'
      let heading := if options.has 'H' then ((options.value? 'H').bind Format.natural?).getD 1 else 0
      let (lines, state) := if options.operands ≠ [] then (options.operands, state)
        else
          let lines := if options.has 'z' then (state.inputPending.splitOn '\x00').filter (· ≠ [])
            else state.inputPending.lines
          (lines, state.leave 0 [])
      let heading := if options.operands = [] then heading else 0
      let step (found : State × Bool) (line : Octets) : State × Bool :=
        if found.2 then found
        else
          let (image, messages) := rescaledLine form among line
          let state := found.1
          if messages = [] then (state.print (image ++ [ending]), false)
          else match tolerance with
            | .abort => ((complain "numfmt" (messages.headD []) state).withStatus 2, true)
            | .ignore => (state.print (image ++ [ending]), false)
            | .warn => ((messages.foldl (fun state message => complain "numfmt" message state) state).print
                (image ++ [ending]), false)
            | .fail => (((messages.foldl (fun state message => complain "numfmt" message state) state).print
                (image ++ [ending])).withStatus 2, false)
      ((lines.drop heading).foldl step (state.print ((lines.take heading).flatMap (· ++ [ending])), false)).1

end ComponentViews.Shell.Utility
