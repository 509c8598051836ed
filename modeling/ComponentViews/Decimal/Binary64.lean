/-! Non-negative binary64 numbers as a significand and a power of two, in exact
integer arithmetic. Every operation rounds a quotient of naturals once, to the
nearest number and from half way to the even significand. -/

namespace ComponentViews.Decimal

/-- A power of a natural number, one for a negative exponent. -/
def wholePower (base : Nat) (exponent : Int) : Nat := Nat.pow base exponent.toNat

/-- The number `significand * 2 ^ exponent`. Rounding yields significands below
`2 ^ 53`, and below `2 ^ 52` only at the least exponent. -/
structure Binary64 where
  significand : Nat
  exponent : Int
  deriving DecidableEq, Repr

namespace Binary64

/-- The least significand with all 53 binary digits. -/
def leadingUnit : Nat := Nat.pow 2 52

def leastExponent : Int := -1074
def greatestExponent : Int := 971

def zero : Binary64 := { significand := 0, exponent := leastExponent }

instance : Inhabited Binary64 := ⟨zero⟩

def isZero (number : Binary64) : Bool := number.significand == 0

/-- A quotient is at least `2 ^ power`. -/
def reaches (numerator denominator : Nat) (power : Int) : Bool :=
  denominator * wholePower 2 power ≤ numerator * wholePower 2 (-power)

/-- The power of two just below a positive quotient. -/
def floorLog2 (numerator denominator : Nat) : Int :=
  let guess : Int := (numerator.log2 : Int) - (denominator.log2 : Int)
  if reaches numerator denominator guess then guess else guess - 1

/-- The nearest natural number to a quotient, the even one of two. -/
def roundHalfEven (numerator denominator : Nat) : Nat :=
  let whole := numerator / denominator
  let rest := numerator % denominator
  if 2 * rest < denominator then whole
  else if denominator < 2 * rest then whole + 1
  else if whole % 2 = 0 then whole else whole + 1

/-- The binary64 number nearest to a quotient, unless that is out of range. -/
def round (numerator denominator : Nat) : Option Binary64 :=
  if numerator = 0 then some zero else
    let exponent := max leastExponent (floorLog2 numerator denominator - 52)
    let significand := roundHalfEven (numerator * wholePower 2 (-exponent)) (denominator * wholePower 2 exponent)
    let rounded : Binary64 :=
      if significand = 2 * leadingUnit then { significand := leadingUnit, exponent := exponent + 1 }
      else { significand, exponent }
    if rounded.exponent ≤ greatestExponent then some rounded else none

def numerator (number : Binary64) : Nat := number.significand * wholePower 2 number.exponent
def denominator (number : Binary64) : Nat := wholePower 2 (-number.exponent)

def ofNat? (value : Nat) : Option Binary64 := round value 1

def mul? (left right : Binary64) : Option Binary64 :=
  round (left.numerator * right.numerator) (left.denominator * right.denominator)

/-- Dividing by a number that is not zero. -/
def div? (left right : Binary64) : Option Binary64 :=
  round (left.numerator * right.denominator) (left.denominator * right.numerator)

/-- The greatest power of ten in range. -/
def greatestTenPower : Nat := 308

def tenPower (power : Nat) : Binary64 := (ofNat? (Nat.pow 10 power)).getD zero

/-- Divides by the greatest power of ten again and again, until that is zero. -/
def shrink? : Nat → Binary64 → Option Binary64
  | 0, number => some number
  | count + 1, number =>
    if number.isZero then some number else (number.div? (tenPower greatestTenPower)).bind (shrink? count)

/-- A number times a power of ten: one product or quotient with a power in
range, after as many divisions by the greatest one as a small power needs. -/
def scale? (number : Binary64) (power : Int) : Option Binary64 :=
  if power < 0 then
    let count := (power.natAbs - 1) / greatestTenPower
    (shrink? count number).bind (·.div? (tenPower (power.natAbs - count * greatestTenPower)))
  else if power ≤ greatestTenPower then number.mul? (tenPower power.toNat)
  else if number.isZero then some number else none

end Binary64
end ComponentViews.Decimal
