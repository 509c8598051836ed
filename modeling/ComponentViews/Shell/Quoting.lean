import ComponentViews.Shell.Octets

/-! Quotes around texts that scripts hold: reading escapes between the quotes behind a dollar
sign, and writing a text such that a script reads it as itself. -/

namespace ComponentViews.Shell.Quoting

def hexDigit? (c : Char) : Option Nat :=
  if '0' ≤ c ∧ c ≤ '9' then some (c.toNat - '0'.toNat)
  else if 'a' ≤ c ∧ c ≤ 'f' then some (c.toNat - 'a'.toNat + 10)
  else if 'A' ≤ c ∧ c ≤ 'F' then some (c.toNat - 'A'.toNat + 10)
  else none

/-- The number that digits make up at the start of a text, at most some of them, and how many they are. -/
def digitsAt (base : Nat) : Nat → Nat → Nat → Octets → Nat × Nat
  | 0, value, count, _ => (value, count)
  | _ + 1, value, count, [] => (value, count)
  | limit + 1, value, count, c :: rest =>
    match (hexDigit? c).filter (· < base) with
    | some digit => digitsAt base limit (value * base + digit) (count + 1) rest
    | none => (value, count)

/-- A character by its number, where only the first 128 have octets of their own. -/
def character (number : Nat) : Octets :=
  let digits := (Nat.toDigits 16 number).map Char.toUpper
  let padded (width : Nat) : Octets := List.replicate (width - digits.length) '0' ++ digits
  if number < 128 then [Char.ofNat number]
  else if number < 65536 then '\\' :: 'u' :: padded 4
  else '\\' :: 'U' :: padded 8

/-- What the text behind a backslash stands for, and how much of it counts. -/
def escape (text : Octets) : Octets × Nat :=
  let numbered (base most start : Nat) (image : Nat → Octets) : Option (Octets × Nat) :=
    let (value, count) := digitsAt base most 0 0 (text.drop start)
    if count = 0 then none else some (image value, start + count)
  let octet (value : Nat) : Octets := [Char.ofNat (value % 256)]
  match text with
  | [] => (['\\'], 0)
  | 'a' :: _ => (['\x07'], 1)
  | 'b' :: _ => (['\x08'], 1)
  | 'e' :: _ => (['\x1b'], 1)
  | 'E' :: _ => (['\x1b'], 1)
  | 'f' :: _ => (['\x0c'], 1)
  | 'n' :: _ => (['\n'], 1)
  | 'r' :: _ => (['\r'], 1)
  | 't' :: _ => (['\t'], 1)
  | 'v' :: _ => (['\x0b'], 1)
  | 'x' :: _ => (numbered 16 2 1 octet).getD (['\\', 'x'], 1)
  | 'u' :: _ => (numbered 16 4 1 character).getD (['\\', 'u'], 1)
  | 'U' :: _ => (numbered 16 8 1 character).getD (['\\', 'U'], 1)
  | 'c' :: c :: _ => ([if c = '?' then '\x7f' else Char.ofNat (c.toNat % 32)], 2)
  | c :: _ =>
    if c ∈ ['\\', '\'', '"', '?'] then ([c], 1)
    else (numbered 8 3 0 octet).getD (['\\', c], 1)

/-- The text up to the closing quote, with its escapes resolved, and how much of the source it takes
with that quote. -/
def read? : Nat → Octets → Option (Octets × Nat)
  | 0, _ => none
  | _ + 1, [] => none
  | _ + 1, '\'' :: _ => some ([], 1)
  | fuel + 1, '\\' :: rest =>
    let (text, length) := escape rest
    (read? fuel (rest.drop length)).map fun (later, count) => (text ++ later, count + length + 1)
  | fuel + 1, c :: rest => (read? fuel rest).map fun (later, count) => (c :: later, count + 1)

/-- A text up to the closing quote, where a null character ends what counts. -/
def unescaped? (source : Octets) : Option (Octets × Nat) :=
  (read? (source.length + 1) source).map fun (text, count) => (text.takeWhile (· ≠ '\x00'), count)

/-! ### Writing -/

def isVisible (c : Char) : Bool := ' ' ≤ c ∧ c ≤ '~'

/-- A text between quotes behind a dollar sign. -/
def escaped (text : Octets) : Octets :=
  let image (c : Char) : Octets :=
    match c with
    | '\x07' => ['\\', 'a']
    | '\x08' => ['\\', 'b']
    | '\x1b' => ['\\', 'E']
    | '\x0c' => ['\\', 'f']
    | '\n' => ['\\', 'n']
    | '\r' => ['\\', 'r']
    | '\t' => ['\\', 't']
    | '\x0b' => ['\\', 'v']
    | '\\' => ['\\', '\\']
    | '\'' => ['\\', '\'']
    | c =>
      let digits := Nat.toDigits 8 c.toNat
      if isVisible c then [c] else '\\' :: List.replicate (3 - digits.length) '0' ++ digits
  ['$', '\''] ++ text.flatMap image ++ ['\'']

/-- A text between single quotes. -/
def single (text : Octets) : Octets :=
  if text = ['\''] then ['\\', '\'']
  else ['\''] ++ text.flatMap (fun c => if c = '\'' then ['\'', '\\', '\'', '\''] else [c]) ++ ['\'']

/-- A text between double quotes. -/
def double (text : Octets) : Octets :=
  ['"'] ++ text.flatMap (fun c => if c ∈ ['$', '\x60', '"', '\\'] then ['\\', c] else [c]) ++ ['"']

/-- Characters that mean something to a script. -/
def telling : List Char :=
  [' ', '\t', '\n', '\'', '"', '\\', '|', '&', ';', '(', ')', '<', '>', '!', '\x7b', '\x7d', '*', '[', ']', '?', '^',
    '$', '\x60', ',']

/-- Whether a text holds something that means more than itself: a sign for comments or for a home does
only where a word or a path may start. -/
def tells (harmless : List Char) : Option Char → Octets → Bool
  | _, [] => false
  | before, c :: rest =>
    let startsWord := before.isNone || before = some ' '
    let startsPath := before.isNone || before = some ':' || before = some '='
    telling.contains c && !harmless.contains c || c = '#' && startsWord || c = '~' && startsPath ||
      tells harmless (some c) rest

/-- A text with backslashes in front of what means something, behind a character. -/
def withBackslashes : Option Char → Octets → Octets
  | _, [] => []
  | before, c :: rest =>
    let startsPath := before.isNone || before = some ':' || before = some '='
    let counts := telling.contains c || c = '#' && before.isNone || c = '~' && startsPath
    (if counts then ['\\', c] else [c]) ++ withBackslashes (some c) rest

/-- A text with backslashes wherever it needs them. -/
def backslashed (text : Octets) : Octets :=
  if text = [] then ['\'', '\'']
  else if text.all isVisible then withBackslashes none text
  else escaped text

/-- A text that a script reads as itself, always between quotes. -/
def always (text : Octets) : Octets := if text.all isVisible then single text else escaped text

/-- A value in a declaration. -/
def declared (text : Octets) : Octets := if text.all isVisible then double text else escaped text

/-- A text that a script reads as itself, between quotes if it needs them. -/
def whereNeeded (text : Octets) : Octets :=
  if !text.all isVisible then escaped text else if tells [','] none text then single text else text

/-- A word of a command that is about to run. -/
def traced (word : Octets) : Octets :=
  if word = [] || tells [','] none word then single word
  else if word.all isVisible then word
  else escaped word

end ComponentViews.Shell.Quoting
