import ComponentViews.Shell.Awk.Script
import ComponentViews.Shell.Format

/-! Values that are numbers, texts, or either of them as it suits: what comes from outside
counts as a number if it looks like one. -/

namespace ComponentViews.Shell.Awk

inductive Value where
  | number (value : Real)
  | text (value : Octets)
  /-- A text from outside. -/
  | given (value : Octets)
  /-- The value of what has none yet. -/
  | nothing
  deriving DecidableEq, Repr

namespace Value

instance : Inhabited Value := ⟨.nothing⟩

def ofInt (value : Int) : Value := .number (.ofInt value)

def ofFlag (flag : Bool) : Value := .ofInt (if flag then 1 else 0)

def isSpace (c : Char) : Bool := Name.isBlank c ∨ c = '\n' ∨ c = '\r' ∨ c = '\x0b' ∨ c = '\x0c'

/-- The number that a text starts with. -/
def realOf (text : Octets) : Real :=
  ((Numeral.read? (text.dropWhile isSpace)).map fun read => Real.ofNumeral read.1).getD .zero

/-- Whether a text is a number, blanks around it aside. -/
def looksNumeric (text : Octets) : Bool :=
  match Numeral.read? (text.dropWhile isSpace) with
  | some ({ magnitude := .finite _, .. }, rest) => rest.all isSpace
  | _ => false

def toReal : Value → Real
  | .number value => value
  | .text value => realOf value
  | .given value => realOf value
  | .nothing => .zero

/-- The least and the greatest number that is printed by its digits alone. -/
def wholeRange : Int × Int := (-9223372036854775808, 18446744073709551616)

/-- The whole number that machine words with a greatest value hold for a number. -/
def wordOf (greatest : Int) (number : Real) : Int :=
  match number.magnitude with
  | .undefined => wholeRange.1
  | .infinite => if number.negative then -greatest else greatest
  | .finite _ =>
    let whole := number.toInt
    if whole > greatest then greatest else if whole < -greatest - 1 then -greatest else whole

/-- A number as words without a sign hold it. -/
def bitsOf (number : Real) : Nat :=
  let whole := wordOf (wholeRange.2 - 1) number
  if whole < wholeRange.1 ∧ whole > 1 - wholeRange.2 then Expression.bits wholeRange.1 else Expression.bits whole

/-- A number as words with a sign hold it. -/
def signedOf (number : Real) : Int := wordOf Expression.greatest number

/-- A number as words hold it, which have a sign for small ones alone. -/
def wholeOf (number : Real) : Int :=
  let whole := signedOf number
  if whole = Expression.greatest then bitsOf number else whole

/-- A number printed by the first directive of a format. -/
def printed (format : Octets) (number : Real) : Octets :=
  let start := format.takeWhile (· ≠ '%')
  let (layout, rest, _) := Format.readLayout (format.drop (start.length + 1)) []
  match rest with
  | [] => start
  | letter :: rest =>
    start ++ (layout.ofReal? .usual letter number.numeral).getD (layout.ofSigned (wholeOf number)) ++ rest

/-- A number as a text: whole ones by their digits, others by a format. -/
def textOf (format : Octets) (number : Real) : Octets :=
  let whole := number.toInt
  if number.isWhole ∧ wholeRange.1 ≤ whole ∧ whole ≤ wholeRange.2 then
    (if whole < 0 then ['-'] else []) ++ .ofNat (wholeOf number).natAbs
  else printed format number

def toText (format : Octets) : Value → Octets
  | .number value => textOf format value
  | .text value => value
  | .given value => value
  | .nothing => []

def isNumeric : Value → Bool
  | .number _ => true
  | .text _ => false
  | .given value => looksNumeric value
  | .nothing => true

def isTrue : Value → Bool
  | .number value => !value.isZero
  | .text value => !value.isEmpty
  | .given value => if looksNumeric value then !(realOf value).isZero else !value.isEmpty
  | .nothing => false

/-- Compares numbers by their size, and texts by their octets if one of two is no number. -/
def compare (format : Octets) (kind : Comparison) (left right : Value) : Bool :=
  let (less, equal) :=
    if left.isNumeric && right.isNumeric then
      let (left, right) := (left.toReal, right.toReal)
      (left.isLess right, !left.isLess right && !right.isLess left)
    else
      let (left, right) := (left.toText format, right.toText format)
      (!Octets.atMost right left, decide (left = right))
  match kind with
  | .less => less
  | .atMost => less || equal
  | .equal => equal
  | .unequal => !equal
  | .atLeast => !less
  | .greater => !(less || equal)

def compute (operation : Operation) (left right : Real) : Real :=
  match operation with
  | .add => left.add right
  | .sub => left.sub right
  | .mul => left.mul right
  | .div => left.div right
  | .mod => left.mod right
  | .power => left.power right

end Value

/-! ### Formats -/

inductive Misprint where
  /-- There are fewer values than directives. -/
  | missing
  /-- The directive of some number means nothing. -/
  | improper (number : Nat)
  deriving DecidableEq, Repr

/-- A value in the way that a letter asks for. -/
def convert? (conversion : Octets) (layout : Format.Layout) (letter : Char) (value : Value) : Option Octets :=
  match letter with
  | 's' => some (layout.ofText (value.toText conversion))
  | 'c' => some (layout.pad [match value with
    | .number value => Format.octet (Shell.Expression.bits (Value.signedOf value))
    | value => (value.toText conversion).headD '\x00'])
  | 'd' => some (layout.ofSigned (Value.wholeOf value.toReal))
  | 'i' => some (layout.ofSigned (Value.signedOf value.toReal))
  | 'u' => some (layout.ofUnsigned 10 [] (bits value))
  | 'o' => some (layout.ofUnsigned 8 ['0'] (bits value))
  | 'x' => some (layout.ofUnsigned 16 ['0', 'x'] (bits value))
  | 'X' => some ((layout.ofUnsigned 16 ['0', 'x'] (bits value)).map Char.toUpper)
  | 'a' => none
  | 'A' => none
  | letter => layout.ofReal? .usual letter value.toReal.numeral
where
  bits (value : Value) : Nat := Value.bitsOf value.toReal

/-- Prints values by a format; `count` directives stand in front of it. -/
def printAll (conversion : Octets) : Nat → Nat → Octets → List Value → Except Misprint Octets
  | 0, _, _, _ => .ok []
  | _ + 1, _, [], _ => .ok []
  | fuel + 1, count, '%' :: '%' :: format, values =>
    (printAll conversion fuel count format values).map ('%' :: ·)
  | fuel + 1, count, '%' :: format, values => do
    let stars := (format.takeWhile fun c => c = '*' ∨ c = '.' ∨ c = '-' ∨ Name.isDigit c).count '*'
    let extents := (values.take stars).map (Value.toText conversion)
    if extents.length < stars then .error .missing
    else
      let (layout, behind, _) := Format.readLayout format extents
      match behind, values.drop stars with
      | [], _ => .error (.improper (count + 1))
      | letter :: _, [] =>
        .error (if (convert? conversion layout letter .nothing).isSome then .missing else .improper (count + 1))
      | letter :: behind, value :: rest =>
        match convert? conversion layout letter value with
        | some text => return text ++ (← printAll conversion fuel (count + 1) behind rest)
        | none => .error (.improper (count + 1))
  | fuel + 1, count, c :: format, values => (printAll conversion fuel count format values).map (c :: ·)

def print (conversion format : Octets) (values : List Value) : Except Misprint Octets :=
  printAll conversion (format.length + 1) 0 format values

end ComponentViews.Shell.Awk
