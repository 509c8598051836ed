import ComponentViews.Decimal.Binary64

/-! The shortest decimal digits that read back as a binary64 number, of several
such the nearest to it. A number is read back from every decimal between the
middles to its two neighbours, middles included for even significands. -/

namespace ComponentViews.Decimal

/-- The number `digits * 10 ^ power`. -/
structure Digits where
  digits : Nat
  power : Int
  deriving DecidableEq, Repr

/-- How many decimal digits a natural number has. -/
def digitCount (value : Nat) : Nat := (Nat.toDigits 10 value).length

/-- The power of ten just below a positive quotient. -/
def floorLog10 (numerator denominator : Nat) : Int :=
  if denominator ≤ numerator then (digitCount (numerator / denominator) : Int) - 1
  else -(digitCount ((denominator - 1) / numerator) : Int)

namespace Binary64

/-- The middles to the neighbours, in quarters of the number's own unit. -/
def quarters (number : Binary64) : Nat × Nat :=
  let below := if number.significand = leadingUnit ∧ number.exponent ≠ leastExponent then 1 else 2
  (4 * number.significand - below, 4 * number.significand + 2)

/-- The candidate `digits * 10 ^ power` is read back as the number. -/
def readsBack (number : Binary64) (digits : Nat) (power : Int) : Bool :=
  let (low, high) := number.quarters
  let unit := wholePower 2 number.exponent * wholePower 10 (-power)
  let candidate := 4 * digits * wholePower 10 power * wholePower 2 (-number.exponent)
  if number.significand % 2 = 0 then low * unit ≤ candidate ∧ candidate ≤ high * unit
  else low * unit < candidate ∧ candidate < high * unit

/-- The candidate of `count` digits for a positive number, if one is read back. -/
def candidate? (number : Binary64) (count : Nat) : Option Digits :=
  let power := floorLog10 number.numerator number.denominator - (count : Int) + 1
  let numerator := number.numerator * wholePower 10 (-power)
  let denominator := number.denominator * wholePower 10 power
  let below := numerator / denominator
  match number.readsBack below power, number.readsBack (below + 1) power with
  | true, true => some { digits := roundHalfEven numerator denominator, power }
  | true, false => some { digits := below, power }
  | false, true => some { digits := below + 1, power }
  | false, false => none

/-- Seventeen digits always suffice. -/
def shortest (number : Binary64) : Digits :=
  ((List.range 17).findSome? fun count => number.candidate? (count + 1)).getD { digits := 0, power := 0 }

end Binary64

/-- How a decimal is laid out: by position for leading exponents of a range,
else with an exponent. -/
structure Layout where
  leastPositional : Int
  greatestPositional : Int
  exponentMark : Char
  deriving DecidableEq, Repr

/-- Digits without the zeros at their end, which move into the power. -/
def Digits.trim (number : Digits) : List Char × Int :=
  let written := Nat.toDigits 10 number.digits
  let kept := (written.reverse.dropWhile (· = '0')).reverse
  (kept, number.power + (written.length - kept.length : Nat))

/-- Writes a positive decimal. Integers written by position end in `.0`, and
exponents carry their sign. -/
def Layout.write (layout : Layout) (number : Digits) : List Char :=
  let (digits, power) := number.trim
  let leading := power + (digits.length : Int) - 1
  if layout.leastPositional ≤ leading ∧ leading ≤ layout.greatestPositional then
    if 0 ≤ power then digits ++ List.replicate power.toNat '0' ++ ['.', '0']
    else if 0 ≤ leading then digits.take (leading.toNat + 1) ++ '.' :: digits.drop (leading.toNat + 1)
    else ['0', '.'] ++ List.replicate ((-leading).toNat - 1) '0' ++ digits
  else
    let fraction := digits.drop 1
    digits.take 1 ++ (if fraction.isEmpty then [] else '.' :: fraction) ++
      [layout.exponentMark, if leading < 0 then '-' else '+'] ++ Nat.toDigits 10 leading.natAbs

end ComponentViews.Decimal
