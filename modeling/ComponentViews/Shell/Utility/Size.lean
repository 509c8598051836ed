import ComponentViews.Shell.Utility.Options

/-! Sizes as arguments give them: a number, and letters for the unit that it counts. -/

namespace ComponentViews.Shell.Utility

/-- Units by their letters, as powers of a thousand or of 1024. -/
def sizeUnits : List (Char × Nat) :=
  [('k', 1), ('K', 1), ('m', 2), ('M', 2), ('g', 3), ('G', 3), ('t', 4), ('T', 4), ('P', 5), ('E', 6), ('Z', 7), ('Y', 8),
    ('R', 9), ('Q', 10)]

/-- The factor that the letters behind a number stand for, if the first of them is known. -/
def factor? (known : List Char) (letters : Octets) : Option Nat :=
  match letters with
  | [] => some 1
  | letter :: rest =>
    if !known.contains letter then none
    else match letter, rest with
      | 'b', [] => some 512
      | 'c', [] => some 1
      | 'w', [] => some 2
      | letter, [] => (sizeUnits.lookup letter).map (Nat.pow 1024)
      | letter, ['B'] => (sizeUnits.lookup letter).map (Nat.pow 1000)
      | letter, ['i', 'B'] => (sizeUnits.lookup letter).map (Nat.pow 1024)
      | _, _ => none

/-- The first number that sizes do not reach. -/
def sizeBound : Nat := 18446744073709551616

inductive SizeFault where
  | malformed
  | large
  deriving DecidableEq, Repr

/-- A size such as `10`, `1K` or `2MB` with units that are known. A unit alone counts once. -/
def readSize (known : List Char) (text : Octets) : Except SizeFault Nat :=
  let bare := text.dropWhile Name.isBlank
  let bare := if bare.head? = some '+' then bare.drop 1 else bare
  let digits := bare.takeWhile Name.isDigit
  let value := if digits = [] ∧ bare ≠ [] then some 1 else Format.natural? digits
  match value, factor? known (bare.drop digits.length) with
  | some value, some factor => if value * factor < sizeBound then .ok (value * factor) else .error .large
  | _, _ => .error .malformed

/-- The letters of units that most utilities know. -/
def commonUnits : List Char := ['b', 'k', 'K', 'm', 'M', 'G', 'T', 'P', 'E', 'Z', 'Y', 'R', 'Q']

/-- A size with any unit that a utility for copying knows. -/
def size? (text : Octets) : Option Nat :=
  (readSize (['c', 'w'] ++ commonUnits) text).toOption

/-- A complaint about a size. -/
def badSize (command purpose : String) (text : Octets) (problem : SizeFault) (state : State) : State :=
  let reason := match problem with
    | .malformed => ""
    | .large => ": Value too large for defined data type"
  fault command (.ofText (purpose ++ ": ") ++ quoted text ++ .ofText reason) state

end ComponentViews.Shell.Utility
