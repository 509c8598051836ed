import ComponentViews.Shell.Elementary
import ComponentViews.Shell.Numeral

/-! Binary64 numbers with a sign, as programs compute with them and print them. Every
operation rounds an exact quotient once; what is out of range is infinite, and what has no
value is undefined. -/

namespace ComponentViews.Shell

structure Real where
  negative : Bool
  magnitude : Magnitude Decimal.Binary64
  deriving DecidableEq, Repr

namespace Real
open Decimal

def ofQuotient (numerator : Int) (denominator : Nat) : Real where
  negative := numerator < 0
  magnitude := ((Binary64.round numerator.natAbs denominator).map .finite).getD .infinite

def ofInt (value : Int) : Real := ofQuotient value 1

def zero : Real := ofInt 0

def one : Real := ofInt 1

def infinity (negative : Bool) : Real := { negative, magnitude := .infinite }

/-- What operations without a value yield. -/
def undefined : Real := { negative := true, magnitude := .undefined }

instance : Inhabited Real := ⟨zero⟩

/-- The finite magnitude, none for other ones. -/
def finite? (number : Real) : Option Binary64 :=
  match number.magnitude with
  | .finite magnitude => some magnitude
  | _ => none

/-- The magnitude of a finite number, and nought for others. -/
def size (number : Real) : Binary64 := number.finite?.getD .zero

def numerator (number : Real) : Int := if number.negative then -number.size.numerator else number.size.numerator

def denominator (number : Real) : Nat := number.size.denominator

def isFinite (number : Real) : Bool := number.finite?.isSome

def isUndefined (number : Real) : Bool := number.magnitude = .undefined

def isInfinite (number : Real) : Bool := number.magnitude = .infinite

def isZero (number : Real) : Bool := number.finite?.any Binary64.isZero

def neg (number : Real) : Real := { number with negative := !number.negative }

def withSign (number : Real) (negative : Bool) : Real := { number with negative }

def abs (number : Real) : Real := number.withSign false

def add (left right : Real) : Real :=
  if left.isUndefined then left
  else if right.isUndefined then right
  else if left.isInfinite then
    if right.isInfinite ∧ left.negative ≠ right.negative then undefined else left
  else if right.isInfinite then right
  else
    let sum := ofQuotient (left.numerator * right.denominator + right.numerator * left.denominator)
      (left.denominator * right.denominator)
    if sum.isZero then sum.withSign (left.negative && right.negative) else sum

def sub (left right : Real) : Real := if right.isUndefined ∧ !left.isUndefined then right else left.add right.neg

def mul (left right : Real) : Real :=
  if left.isUndefined then left
  else if right.isUndefined then right
  else if left.isInfinite ∨ right.isInfinite then
    if left.isZero ∨ right.isZero then undefined else infinity (left.negative != right.negative)
  else
    (ofQuotient (left.size.numerator * right.size.numerator : Nat) (left.denominator * right.denominator)).withSign
      (left.negative != right.negative)

def div (left right : Real) : Real :=
  let negative := left.negative != right.negative
  if left.isUndefined then left
  else if right.isUndefined then right
  else if left.isInfinite then
    if right.isInfinite then undefined else infinity negative
  else if right.isInfinite then zero.withSign negative
  else if right.isZero then
    if left.isZero then undefined else infinity negative
  else
    (ofQuotient (left.size.numerator * right.denominator : Nat)
      (left.denominator * right.size.numerator)).withSign negative

/-- What division leaves of a number; it has the number's sign. -/
def mod (left right : Real) : Real :=
  if left.isUndefined then left
  else if right.isUndefined then right
  else if left.isInfinite ∨ right.isZero then undefined
  else if right.isInfinite then left
  else
    (ofQuotient (left.size.numerator * right.denominator % (right.size.numerator * left.denominator) : Nat)
      (left.denominator * right.denominator)).withSign left.negative

/-- The number without what stands behind the point, for a finite number. -/
def toInt (number : Real) : Int := number.numerator.tdiv number.denominator

def truncated (number : Real) : Real :=
  if number.isFinite then (ofInt number.toInt).withSign number.negative else number

/-- Whether a number is less than another one; one without a value never is. -/
def isLess (left right : Real) : Bool :=
  if left.isUndefined ∨ right.isUndefined then false
  else if left.isInfinite then left.negative && !(right.isInfinite && right.negative)
  else if right.isInfinite then !right.negative
  else left.numerator * right.denominator < right.numerator * left.denominator

def isWhole (number : Real) : Bool := number.isFinite && number.numerator % number.denominator = 0

/-! ### Functions -/

/-- The square root. -/
def root (number : Real) : Real :=
  if number.isUndefined ∨ number.isZero then number
  else if number.negative then undefined
  else if number.isInfinite then number
  else
    let scale := Nat.pow 2 600
    ofQuotient (Elementary.floorRoot (number.size.numerator * scale * scale / number.denominator) : Nat) scale

/-- What the exponential function makes of a quotient. -/
def exponential (bits : Nat) (numerator : Int) (denominator : Nat) : Real :=
  if 800 * (denominator : Int) ≤ numerator then infinity false
  else if numerator ≤ -800 * (denominator : Int) then zero
  else
    let (top, bottom) := Elementary.exp bits numerator denominator
    ofQuotient top bottom

def exp (number : Real) : Real :=
  match number.magnitude with
  | .undefined => number
  | .infinite => if number.negative then zero else number
  | .finite _ => exponential Elementary.usualBits number.numerator number.denominator

/-- The natural logarithm. -/
def log (number : Real) : Real :=
  if number.isUndefined then number
  else if number.isZero then infinity true
  else if number.negative then undefined
  else if number.isInfinite then number
  else
    let bits := Elementary.usualBits
    ofQuotient (Elementary.log bits number.size.numerator number.denominator) (Elementary.unit bits)

/-- The sine and the cosine. -/
def sineAndCosine (number : Real) : Real × Real :=
  if number.isUndefined then (number, number)
  else if number.isInfinite then (undefined, undefined)
  else if number.isZero then (number, one)
  else
    let bits := Elementary.bitsFor number.size.numerator number.denominator
    let (sine, cosine) := Elementary.sineAndCosine bits number.size.numerator number.denominator
    (ofQuotient (if number.negative then -sine else sine) (Elementary.unit bits), ofQuotient cosine (Elementary.unit bits))

/-- The arc to the point whose ordinate and abscissa are given. -/
def arc (ordinate abscissa : Real) : Real :=
  if ordinate.isUndefined then ordinate
  else if abscissa.isUndefined then abscissa
  else
    /- Infinite sides count as sides of one length beside which finite ones vanish. -/
    let side (number other : Real) : Nat × Nat :=
      if number.isInfinite then (1, 1) else if other.isInfinite then (0, 1) else (number.size.numerator, number.denominator)
    let (up, upUnit) := side ordinate abscissa
    let (along, alongUnit) := side abscissa ordinate
    let (up, along) := (up * alongUnit, along * upUnit)
    if up = 0 ∧ (along = 0 ∨ !abscissa.negative) ∧ !(along = 0 ∧ abscissa.negative) then
      zero.withSign ordinate.negative
    else
      let bits := if up = 0 ∨ along = 0 then Elementary.usualBits else Elementary.bitsFor up along
      let half := Elementary.halfTurn bits
      let sharp := if up ≤ along then Elementary.arcTangent bits up along
        else half / 2 - Elementary.arcTangent bits along up
      let arc := if abscissa.negative then half - sharp else sharp
      (ofQuotient arc (Elementary.unit bits)).withSign ordinate.negative

/-- Whether a number is whole and odd. -/
def isOdd (number : Real) : Bool := number.isWhole && number.toInt % 2 = 1

/-- A power of a positive finite number. -/
def positivePower (number exponent : Real) : Real :=
  let whole := exponent.toInt
  if exponent.isWhole ∧ whole.natAbs ≤ 1024 then
    let top := Nat.pow number.size.numerator whole.natAbs
    let bottom := Nat.pow number.denominator whole.natAbs
    if whole < 0 then ofQuotient bottom top else ofQuotient top bottom
  else
    let bits := Elementary.usualBits
    exponential bits (Elementary.log bits number.size.numerator number.denominator * exponent.numerator)
      (Elementary.unit bits * exponent.denominator)

def power (number exponent : Real) : Real :=
  let negative := number.negative && exponent.isOdd
  if exponent.isZero ∨ number = one then one
  else if number.isUndefined then number
  else if exponent.isUndefined then exponent
  else if exponent.isInfinite then
    if number.abs = one then one
    else if number.abs.isLess one = exponent.negative then infinity false
    else zero
  else if number.isZero ∨ number.isInfinite then
    if number.isZero = exponent.negative then infinity negative else zero.withSign negative
  else if number.negative ∧ !exponent.isWhole then undefined
  else (number.abs.positivePower exponent).withSign negative

/-! ### Texts -/

/-- The number nearest to what a text writes. -/
def ofNumeral (numeral : Numeral) : Real where
  negative := numeral.negative
  magnitude := numeral.magnitude.bind fun value => (ofQuotient (value.1 : Nat) value.2).magnitude

/-- The number as it is written. -/
def numeral (number : Real) : Numeral where
  negative := number.negative
  magnitude := number.magnitude.map fun value => (value.numerator, value.denominator)

/-- The decimal number at the start of a text without blanks in front, and the rest. -/
def read? (text : Octets) : Option (Real × Octets) :=
  (Numeral.readDecimal? text).map fun (numeral, rest) => (ofNumeral numeral, rest)

end Real
end ComponentViews.Shell
