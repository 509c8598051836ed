import ComponentViews.Json.Basic
import ComponentViews.Decimal.Shortest

/-! Number literals. Integers of 64 bits are read exactly. Any other number is
read as a double from its leading digits, as many as fit 64 bits, scaled by a
power of ten; it is written with the fewest digits that tell it apart. -/

namespace ComponentViews.Json

open Decimal

/-- A literal by its parts, the digits as numbers. -/
structure Literal where
  negative : Bool
  whole : List Nat
  fraction : Option (List Nat)
  exponent : Option (Bool × List Nat)
  deriving DecidableEq, Repr

namespace Literal

def greatestSignificand : Nat := Nat.pow 2 64 - 1
def greatestExponent : Nat := Nat.pow 2 31 - 1

/-- Appends digits to a number while it stays within a bound; the digits left over. -/
def gather (bound : Nat) : Nat → List Nat → Nat × List Nat
  | value, [] => (value, [])
  | value, digit :: rest =>
    if value * 10 + digit ≤ bound then gather bound (value * 10 + digit) rest else (value, digit :: rest)

def double? (negative : Bool) (significand : Nat) (power : Int) : Option Number := do
  let leading ← Binary64.ofNat? significand
  let magnitude ← leading.scale? power
  pure (.double negative magnitude)

/-- The number that a literal stands for, unless it is out of range. An exponent
too large for 32 bits leaves zero, or no number if it enlarges a digit. -/
def value? (literal : Literal) : Option Number :=
  let (leading, dropped) := gather greatestSignificand 0 literal.whole
  match literal.fraction, literal.exponent with
  | none, none =>
    if dropped ≠ [] then double? literal.negative leading dropped.length
    else if !literal.negative then some (.integer leading)
    else if leading = 0 ∨ Nat.pow 2 63 < leading then double? true leading 0
    else some (.integer (-leading))
  | fraction, exponent =>
    let digits := fraction.getD []
    let (significand, ignored) := gather greatestSignificand leading digits
    let power : Int := (dropped.length : Int) - (digits.length - ignored.length : Nat)
    match exponent with
    | none => double? literal.negative significand power
    | some (down, digits) =>
      match gather greatestExponent 0 digits with
      | (size, []) => double? literal.negative significand (if down then power - size else power + size)
      | _ => if significand = 0 ∨ down then some (.double literal.negative Binary64.zero) else none

end Literal

/-- Doubles from 0.00001 up to sixteen integer digits are written by position. -/
def layout : Layout := { leastPositional := -5, greatestPositional := 15, exponentMark := 'e' }

def Number.write : Number → List Char
  | .integer value => if value < 0 then '-' :: Nat.toDigits 10 value.natAbs else Nat.toDigits 10 value.natAbs
  | .double negative magnitude =>
    let digits := if magnitude.isZero then ['0', '.', '0'] else layout.write magnitude.shortest
    if negative then '-' :: digits else digits

end ComponentViews.Json
