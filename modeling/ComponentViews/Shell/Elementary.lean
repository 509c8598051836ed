import ComponentViews.Decimal.Binary64

/-! Elementary functions of quotients. Each answer is a quotient so near to the value that
rounding it to a binary64 number yields the nearest one: series are summed in whole numbers
of a unit `2 ^ -bits` that is far smaller than what a number can tell. -/

namespace ComponentViews.Shell.Elementary
open Decimal

def unit (bits : Nat) : Nat := Nat.pow 2 bits

/-- How many bits all functions are computed with beyond those that make up for large and small arguments. -/
def usualBits : Nat := 320

/-- The sum of weighed terms, each of which follows from the one in front, until they vanish. -/
def series (next weigh : Nat → Int → Int) : Nat → Nat → Int → Int
  | 0, _, _ => 0
  | fuel + 1, index, term =>
    if term = 0 then 0 else weigh index term + series next weigh fuel (index + 1) (next index term)

/-- The arc whose tangent is a quotient that is at most one, in units: Euler's series. -/
def arcTangent (bits numerator denominator : Nat) : Int :=
  let square := denominator * denominator + numerator * numerator
  let start := numerator * denominator * unit bits / square
  let step (index : Nat) (term : Int) : Int :=
    (term * (numerator * numerator * (2 * index + 2) : Nat)).tdiv (square * (2 * index + 3) : Nat)
  series step (fun _ term => term) (2 * bits) 0 start

/-- Half a circle in units, by Machin's formula. -/
def halfTurn (bits : Nat) : Int :=
  (16 * arcTangent (bits + 16) 1 5 - 4 * arcTangent (bits + 16) 1 239) / unit 16

/-- Half the logarithm of `(1 + z) / (1 - z)` in units, for a quotient `z`. -/
def areaTangent (bits : Nat) (numerator : Int) (denominator : Nat) : Int :=
  let start := numerator * unit bits / denominator
  let step (_ : Nat) (term : Int) : Int := (term * (numerator * numerator)).tdiv (denominator * denominator : Nat)
  series step (fun index term => term.tdiv (2 * index + 1 : Nat)) (2 * bits) 0 start

/-- The logarithm of two in units. -/
def logTwo (bits : Nat) : Int := 2 * areaTangent bits 1 3

/-- The natural logarithm of a positive quotient in units. -/
def log (bits numerator denominator : Nat) : Int :=
  let power := Binary64.floorLog2 (3 * numerator) (2 * denominator)
  let top := numerator * wholePower 2 (-power)
  let bottom := denominator * wholePower 2 power
  power * logTwo bits + 2 * areaTangent bits ((top : Int) - bottom) (top + bottom)

/-- What the exponential function makes of a quotient. -/
def exp (bits : Nat) (numerator : Int) (denominator : Nat) : Nat × Nat :=
  let argument := numerator * unit bits / denominator
  let two := logTwo bits
  let power := (2 * argument + two) / (2 * two)
  let rest := argument - power * two
  let step (index : Nat) (term : Int) : Int := (term * rest).tdiv (unit bits * (index + 1) : Nat)
  let sum := series step (fun _ term => term) bits 0 (unit bits)
  (sum.toNat * wholePower 2 power, unit bits * wholePower 2 (-power))

/-- Bits that make up for how large or small an argument is. -/
def bitsFor (numerator denominator : Nat) : Nat := usualBits + 2 * (Binary64.floorLog2 numerator denominator).natAbs

/-- The sine and the cosine of a positive quotient in units. -/
def sineAndCosine (bits numerator denominator : Nat) : Int × Int :=
  let half := halfTurn bits
  let argument : Int := (numerator * unit bits / denominator : Nat)
  let quarters := (4 * argument + half) / (2 * half)
  let rest := argument - quarters * half / 2
  let step (start index : Nat) (term : Int) : Int :=
    let first := 2 * index + start
    ((term * rest).tdiv (unit bits) * rest).tdiv (-((unit bits * (first + 1) * (first + 2) : Nat) : Int))
  let sine := series (step 1) (fun _ term => term) bits 0 rest
  let cosine := series (step 0) (fun _ term => term) bits 0 (unit bits)
  match quarters % 4 with
  | 0 => (sine, cosine)
  | 1 => (cosine, -sine)
  | 2 => (-sine, -cosine)
  | _ => (-cosine, sine)

/-- The greatest number whose square is at most a number, found bit by bit. -/
def floorRoot (square : Nat) : Nat :=
  (List.range (square.log2 / 2 + 1)).reverse.foldl (fun root bit =>
    let greater := root + Nat.pow 2 bit
    if greater * greater ≤ square then greater else root) 0

end ComponentViews.Shell.Elementary
