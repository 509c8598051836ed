import ComponentViews.Decimal.Shortest
import ComponentViews.Shell.Name

/-! Numbers with a point as texts write them: read exactly, and printed to some places, with
an exponent, or in hexadecimal digits. -/

namespace ComponentViews.Shell

/-- How large a number is. -/
inductive Magnitude (α : Type) where
  | finite (number : α)
  | infinite
  /-- What has no value, such as nought by nought. -/
  | undefined
  deriving DecidableEq, Repr

namespace Magnitude

def map {α β : Type} (f : α → β) : Magnitude α → Magnitude β
  | .finite number => .finite (f number)
  | .infinite => .infinite
  | .undefined => .undefined

def bind {α β : Type} (magnitude : Magnitude α) (f : α → Magnitude β) : Magnitude β :=
  match magnitude with
  | .finite number => f number
  | .infinite => .infinite
  | .undefined => .undefined

end Magnitude

/-- A sign and a quotient of natural numbers. -/
structure Numeral where
  negative : Bool
  magnitude : Magnitude (Nat × Nat)
  deriving DecidableEq, Repr

namespace Numeral
open Decimal

def ofNat (value : Nat) : Numeral := { negative := false, magnitude := .finite (value, 1) }

def zero : Numeral := ofNat 0

/-! ### Reading -/

def digitsValue (digits : Octets) : Nat := digits.foldl (fun value c => value * 10 + (c.toNat - '0'.toNat)) 0

/-- An exponent behind a letter, in front of a text, and how long it is. -/
def exponentBehind (letter : Char) (text : Octets) : Int × Nat :=
  match text with
  | e :: rest =>
    let signed := rest.head?.any fun c => c = '-' || c = '+'
    let digits := (if signed then rest.drop 1 else rest).takeWhile Name.isDigit
    if e.toLower = letter ∧ digits ≠ [] then
      let value : Int := digitsValue digits
      (if rest.head? = some '-' then -value else value, 1 + (if signed then 1 else 0) + digits.length)
    else (0, 0)
  | [] => (0, 0)

/-- An exponent of ten in front of a text, and how long it is. -/
def exponentAt (text : Octets) : Int × Nat := exponentBehind 'e' text

/-- Digits in front of and behind a point, how many stand behind it, and the rest. -/
def pointedDigits (isDigit : Char → Bool) (text : Octets) : Octets × Nat × Octets :=
  let whole := text.takeWhile isDigit
  let behind := text.drop whole.length
  let part := if behind.head? = some '.' then (behind.drop 1).takeWhile isDigit else []
  if whole = [] ∧ part = [] then ([], 0, text)
  else (whole ++ part, part.length, if behind.head? = some '.' then behind.drop (part.length + 1) else behind)

/-- Exponents beyond this make every number too large or too small to count. -/
def mostShift : Int := 6000

def decimal? (text : Octets) : Option ((Nat × Nat) × Octets) :=
  let (digits, places, rest) := pointedDigits Name.isDigit text
  if digits = [] then none
  else
    let (exponent, length) := exponentAt rest
    let shift := max (-mostShift) (min mostShift (exponent - places))
    some ((digitsValue digits * wholePower 10 shift, wholePower 10 (-shift)), rest.drop length)

def hexDigit? (c : Char) : Option Nat :=
  if Name.isDigit c then some (c.toNat - '0'.toNat)
  else if 'a' ≤ c.toLower ∧ c.toLower ≤ 'f' then some (c.toLower.toNat - 'a'.toNat + 10)
  else none

def hexadecimal? (text : Octets) : Option ((Nat × Nat) × Octets) :=
  let (digits, places, rest) := pointedDigits (fun c => (hexDigit? c).isSome) text
  if digits = [] then none
  else
    let (exponent, length) := exponentBehind 'p' rest
    let value := digits.foldl (fun value c => value * 16 + (hexDigit? c).getD 0) 0
    let shift := max (-4 * mostShift) (min (4 * mostShift) (exponent - 4 * places))
    some ((value * wholePower 2 shift, wholePower 2 (-shift)), rest.drop length)

/-- The words for what has no digits, and how long the one in front of a text is. -/
def word? (text : Octets) : Option (Magnitude (Nat × Nat) × Nat) :=
  let starts (word : String) : Bool := word.toList.isPrefixOf ((text.take word.length).map Char.toLower)
  if starts "infinity" then some (.infinite, 8)
  else if starts "inf" then some (.infinite, 3)
  else if starts "nan" then
    let behind := text.drop 3
    let inner := (behind.drop 1).takeWhile Name.isInner
    if behind.head? = some '(' ∧ (behind.drop (inner.length + 1)).head? = some ')' then
      some (.undefined, 5 + inner.length)
    else some (.undefined, 3)
  else none

/-- A sign in front of a text: whether it is a minus, and the rest. -/
def readSign (text : Octets) : Bool × Octets :=
  match text with
  | '-' :: rest => (true, rest)
  | '+' :: rest => (false, rest)
  | rest => (false, rest)

/-- The number in decimal digits at the start of a text without blanks in front, and the rest. -/
def readDecimal? (text : Octets) : Option (Numeral × Octets) :=
  let (negative, behind) := readSign text
  (decimal? behind).map fun (value, rest) => ({ negative, magnitude := .finite value }, rest)

/-- The number at the start of a text without blanks in front, and the rest. Behind a zero and
the letter `x` the digits are hexadecimal, and words stand for what has none. -/
def read? (text : Octets) : Option (Numeral × Octets) :=
  let (negative, behind) := readSign text
  let hexadecimal := match behind with
    | '0' :: x :: digits => if x = 'x' ∨ x = 'X' then hexadecimal? digits else none
    | _ => none
  match hexadecimal, decimal? behind, word? behind with
  | some (value, rest), _, _ => some ({ negative, magnitude := .finite value }, rest)
  | none, some (value, rest), _ => some ({ negative, magnitude := .finite value }, rest)
  | none, none, some (magnitude, length) => some ({ negative, magnitude }, behind.drop length)
  | none, none, none => none

/-! ### Binary digits -/

/-- How many binary digits numbers have that a machine computes with, and their exponents. -/
structure Precision where
  digits : Nat
  leastExponent : Int
  greatestExponent : Int
  /-- How many binary digits stand in front of the point in hexadecimal. -/
  leading : Nat

namespace Precision

def usual : Precision := { digits := 53, leastExponent := -1074, greatestExponent := 971, leading := 1 }

def extended : Precision := { digits := 64, leastExponent := -16445, greatestExponent := 16320, leading := 4 }

/-- The nearest number to a quotient as a whole number and a power of two. -/
def binary (precision : Precision) (value : Nat × Nat) : Nat × Int :=
  if value.1 = 0 then (0, 0)
  else
    let exponent := max precision.leastExponent (Binary64.floorLog2 value.1 value.2 - (precision.digits - 1 : Nat))
    let digits := Binary64.roundHalfEven (value.1 * wholePower 2 (-exponent)) (value.2 * wholePower 2 exponent)
    if digits = Nat.pow 2 precision.digits then (digits / 2, exponent + 1) else (digits, exponent)

/-- The nearest number, which may be infinite. -/
def round (precision : Precision) (number : Numeral) : Numeral :=
  { number with magnitude := number.magnitude.bind fun value =>
      let (digits, exponent) := precision.binary value
      if exponent > precision.greatestExponent then .infinite
      else .finite (digits * wholePower 2 exponent, wholePower 2 (-exponent)) }

/-- Whether a number is too large, or so small that digits of it get lost. -/
def isOutside (precision : Precision) (number : Numeral) : Bool :=
  match number.magnitude with
  | .finite value =>
    let (digits, exponent) := precision.binary value
    exponent > precision.greatestExponent ||
      (value.1 ≠ 0 && digits < Nat.pow 2 (precision.digits - 1) &&
        value.1 * wholePower 2 (-exponent) ≠ digits * value.2 * wholePower 2 exponent)
  | _ => false

end Precision

/-! ### Printing magnitudes -/

/-- Digits with zeros in front, at least so many. -/
def digitsOf (least value : Nat) : Octets :=
  let digits := Octets.ofNat value
  List.replicate (least - digits.length) '0' ++ digits

/-- Digits with a point in front of the last ones; a point that ends them may be kept. -/
def withPoint (places : Nat) (keepsPoint : Bool) (digits : Octets) : Octets :=
  let whole := digits.take (digits.length - places)
  if places = 0 then (if keepsPoint then whole ++ ['.'] else whole)
  else whole ++ '.' :: digits.drop (digits.length - places)

/-- A quotient with so many places behind the point. -/
def fixed (places : Nat) (keepsPoint : Bool) (value : Nat × Nat) : Octets :=
  withPoint places keepsPoint (digitsOf (places + 1) (Binary64.roundHalfEven (value.1 * Nat.pow 10 places) value.2))

/-- The digits of a quotient in front of and behind the point, and the power of ten they stand at. -/
def normalized (places : Nat) (value : Nat × Nat) : Nat × Int :=
  if value.1 = 0 then (0, 0)
  else
    let power := floorLog10 value.1 value.2
    let shift := places - power
    let digits := Binary64.roundHalfEven (value.1 * wholePower 10 shift) (value.2 * wholePower 10 (-shift))
    if digits = Nat.pow 10 (places + 1) then (Nat.pow 10 places, power + 1) else (digits, power)

/-- A sign and digits behind the letter of an exponent. -/
def exponentText (least : Nat) (power : Int) : Octets := (if power < 0 then '-' else '+') :: digitsOf least power.natAbs

/-- A quotient with one digit in front of the point, and an exponent. -/
def scientific (places : Nat) (keepsPoint : Bool) (value : Nat × Nat) : Octets :=
  let (digits, power) := normalized places value
  withPoint places keepsPoint (digitsOf (places + 1) digits) ++ 'e' :: exponentText 2 power

/-- A decimal without zeros at its end behind the point. -/
def trimmed (text : Octets) : Octets :=
  if text.contains '.' then Octets.dropEndWhile (Octets.dropEndWhile text (· = '0')) (· = '.') else text

/-- A quotient with so many digits that count, in the shorter of both ways. -/
def general (precision : Nat) (keepsZeros : Bool) (value : Nat × Nat) : Octets :=
  let count := max 1 precision
  let power := (normalized (count - 1) value).2
  if -4 ≤ power ∧ power < count then
    let text := fixed (count - 1 - power).toNat keepsZeros value
    if keepsZeros then text else trimmed text
  else
    let text := scientific (count - 1) keepsZeros value
    if keepsZeros then text
    else trimmed (text.takeWhile (· ≠ 'e')) ++ text.dropWhile (· ≠ 'e')

/-- A quotient in hexadecimal digits with an exponent of two: all that count, or so many. -/
def hexadecimal (precision : Precision) (places : Option Nat) (keepsPoint : Bool) (value : Nat × Nat) : Octets :=
  let (digits, exponent) := precision.binary value
  let most := (precision.digits - precision.leading) / 4
  let power : Int := if digits = 0 then 0 else exponent + (4 * most : Nat)
  let kept := min most (places.getD most)
  let rounded := Binary64.roundHalfEven digits (Nat.pow 16 (most - kept))
  let (rounded, power) := if rounded / Nat.pow 16 kept = 16 then (rounded / 16, power + 4) else (rounded, power)
  let image := Nat.toDigits 16 rounded
  let image := List.replicate (kept + 1 - image.length) '0' ++ image
  let lead := image.take (image.length - kept)
  let part := image.drop (image.length - kept)
  let part := match places with
    | none => Octets.dropEndWhile part (· = '0')
    | some places => part ++ List.replicate (places - kept) '0'
  ['0', 'x'] ++ lead ++ (if part ≠ [] ∨ keepsPoint then ['.'] else []) ++ part ++ 'p' :: exponentText 1 power

end Numeral
end ComponentViews.Shell
