import ComponentViews.Shell.Octets

/-! Permissions of files: three digits for their owner, their group and all others, which
say who may read, write and run them, and one in front of those. -/

namespace ComponentViews.Shell.Mode

/-- What is usually kept from new files. -/
def usualMask : Nat := 0o022

/-- All permissions that there are. -/
def all : Nat := 0o7777

/-- The permissions among some that others do not name. -/
def without (mode removed : Nat) : Nat := mode &&& (all ^^^ (removed &&& all))

def isExecutable (mode : Nat) : Bool := mode &&& 0o111 ≠ 0

/-- The permissions that letters in front of an operator speak about. -/
def reach (letters : Octets) : Nat :=
  letters.foldl (fun mode letter => mode ||| match letter with
    | 'u' => 0o4700
    | 'g' => 0o2070
    | 'o' => 0o1007
    | _ => all) 0

/-- The permissions that letters behind an operator name. -/
def named? (isDirectory : Bool) (old : Nat) (letters : Octets) : Option Nat :=
  let copied (shift : Nat) : Nat := (old >>> shift &&& 7) * 0o111
  match letters with
  | ['u'] => some (copied 6)
  | ['g'] => some (copied 3)
  | ['o'] => some (copied 0)
  | letters => letters.foldl (fun mode letter => mode.bind fun mode =>
      match letter with
      | 'r' => some (mode ||| 0o444)
      | 'w' => some (mode ||| 0o222)
      | 'x' => some (mode ||| 0o111)
      | 'X' => some (if isDirectory || isExecutable old then mode ||| 0o111 else mode)
      | 's' => some (mode ||| 0o6000)
      | 't' => some (mode ||| 0o1000)
      | _ => none) (some 0)

/-- What operators with their letters make of permissions. -/
def applied? (isDirectory : Bool) (reach masked : Nat) : Nat → Nat → Octets → Option Nat
  | 0, mode, _ => some mode
  | _ + 1, mode, [] => some mode
  | fuel + 1, mode, operator :: rest =>
    let letters := rest.takeWhile fun c => c ∉ ['+', '-', '=']
    let behind := rest.drop letters.length
    (named? isDirectory mode letters).bind fun named =>
      let named := without (named &&& reach) masked
      match operator with
      | '+' => applied? isDirectory reach masked fuel (mode ||| named) behind
      | '-' => applied? isDirectory reach masked fuel (without mode named) behind
      | '=' => applied? isDirectory reach masked fuel (without mode (without (reach &&& 0o777) masked) ||| named) behind
      | _ => none

/-- What a text such as `755` or `u+x,go-w` makes of permissions. Without a word on whom it is
about, what is kept from new files stays as it is. -/
def changed? (mask : Nat) (isDirectory : Bool) (text : Octets) (old : Nat) : Option Nat :=
  let isOctal (c : Char) : Bool := '0' ≤ c && c ≤ '7'
  if text = [] then none
  else if text.all isOctal then
    let mode := text.foldl (fun value c => value * 8 + (c.toNat - '0'.toNat)) 0
    if mode ≤ all then some mode else none
  else (text.splitOn ',').foldl (fun mode clause => mode.bind fun mode =>
    let who := clause.takeWhile fun c => c ∈ ['u', 'g', 'o', 'a']
    let behind := clause.drop who.length
    if behind = [] ∨ !(behind.head?.any fun c => c ∈ ['+', '-', '=']) then none
    else applied? isDirectory (if who = [] then all else reach who) (if who = [] then mask else 0)
      (behind.length + 1) mode behind) (some old)

/-- Permissions in letters, such as `rwxr-xr-x`. -/
def image (mode : Nat) : Octets :=
  let bit (mask : Nat) (letter : Char) : Char := if mode &&& mask ≠ 0 then letter else '-'
  let special (run mask : Nat) (letter : Char) : Char :=
    if mode &&& mask = 0 then bit run 'x' else if mode &&& run ≠ 0 then letter else letter.toUpper
  [bit 0o400 'r', bit 0o200 'w', special 0o100 0o4000 's', bit 0o040 'r', bit 0o020 'w', special 0o010 0o2000 's',
    bit 0o004 'r', bit 0o002 'w', special 0o001 0o1000 't']

/-- Permissions in octal digits, at least so many. -/
def digits (least mode : Nat) : Octets :=
  let digits := Nat.toDigits 8 mode
  List.replicate (least - digits.length) '0' ++ digits

/-- Permissions in letters such as `u=rwx,g=rx,o=`. -/
def clauses (mode : Nat) : Octets :=
  let part (shift : Nat) : Octets :=
    let digit := mode >>> shift &&& 7
    (if digit &&& 4 ≠ 0 then ['r'] else []) ++ (if digit &&& 2 ≠ 0 then ['w'] else []) ++
      (if digit &&& 1 ≠ 0 then ['x'] else [])
  .ofText "u=" ++ part 6 ++ .ofText ",g=" ++ part 3 ++ .ofText ",o=" ++ part 0

end ComponentViews.Shell.Mode
