import ComponentViews.Shell.Arithmetic
import ComponentViews.Shell.Real

/-! What the commands that print make of their arguments: escapes after backslashes,
and formats with directives after percent signs. -/

namespace ComponentViews.Shell.Format

def octalDigit? (c : Char) : Option Nat := if '0' ≤ c ∧ c ≤ '7' then some (c.toNat - '0'.toNat) else none

/-- The number of at most some octal digits, and the rest. -/
def readOctal : Nat → Nat → Octets → Nat × Octets
  | 0, value, rest => (value, rest)
  | _ + 1, value, [] => (value, [])
  | limit + 1, value, c :: rest =>
    match octalDigit? c with
    | some digit => readOctal limit (value * 8 + digit) rest
    | none => (value, c :: rest)

def letterEscape? : Char → Option Char
  | 'a' => some '\x07'
  | 'b' => some '\x08'
  | 'e' => some '\x1b'
  | 'f' => some '\x0c'
  | 'n' => some '\n'
  | 'r' => some '\r'
  | 't' => some '\t'
  | 'v' => some '\x0b'
  | '\\' => some '\\'
  | _ => none

/-- The octet that a number stands for. -/
def octet (value : Nat) : Char := Char.ofNat (value % 256)

/-- The escape behind a backslash, and the rest. -/
def readEscape (input : Octets) : Octets × Octets :=
  match input with
  | [] => (['\\'], [])
  | c :: rest =>
    match letterEscape? c, octalDigit? c with
    | some value, _ => ([value], rest)
    | none, some _ =>
      let (value, rest) := readOctal 3 0 input
      ([octet value], rest)
    | none, none => (['\\', c], rest)

/-- An argument with its escapes resolved, in which a zero may stand in front of an octal
number and the letter `c` ends all output: the text, and whether output goes on. -/
def resolve : Nat → Octets → Octets × Bool
  | 0, _ => ([], true)
  | _ + 1, [] => ([], true)
  | _ + 1, '\\' :: 'c' :: _ => ([], false)
  | fuel + 1, '\\' :: '0' :: rest =>
    let (value, rest) := readOctal 3 0 rest
    let (later, goesOn) := resolve fuel rest
    (octet value :: later, goesOn)
  | fuel + 1, '\\' :: rest =>
    let (text, rest) := readEscape rest
    let (later, goesOn) := resolve fuel rest
    (text ++ later, goesOn)
  | fuel + 1, c :: rest =>
    let (later, goesOn) := resolve fuel rest
    (c :: later, goesOn)

/-- An argument with its escapes resolved. -/
def resolved (argument : Octets) : Octets × Bool := resolve (argument.length + 1) argument

/-- What `echo` prints. -/
def echo (arguments : List Octets) : Octets :=
  let (arguments, ending) : List Octets × Octets := match arguments with
    | ['-', 'n'] :: rest => (rest, [])
    | arguments => (arguments, ['\n'])
  let (text, goesOn) := resolved ([' '].intercalate arguments)
  if goesOn then text ++ ending else text

/-- The number that an argument writes in decimal. -/
def integer? (argument : Octets) : Option Int :=
  let (negative, digits) := match argument with
    | '-' :: rest => (true, rest)
    | '+' :: rest => (false, rest)
    | rest => (false, rest)
  if digits ≠ [] ∧ digits.all Char.isDigit then
    let value : Int := (digits.foldl (fun value c => value * 10 + (c.toNat - '0'.toNat)) 0 : Nat)
    some (if negative then -value else value)
  else none

def natural? (argument : Octets) : Option Nat :=
  if argument ≠ [] ∧ argument.all Name.isDigit then (integer? argument).map Int.toNat else none

/-- How a directive prints: its flags, at least how wide, and how precisely. -/
structure Layout where
  left : Bool
  zeros : Bool
  plus : Bool
  blank : Bool
  alternate : Bool
  width : Nat
  precision : Option Nat
  deriving DecidableEq, Repr

namespace Layout

/-- Fills up to the width, on the right or on the left. -/
def pad (layout : Layout) (text : Octets) : Octets :=
  let missing := List.replicate (layout.width - text.length) ' '
  if layout.left then text ++ missing else missing ++ text

def ofText (layout : Layout) (text : Octets) : Octets :=
  layout.pad (match layout.precision with
    | some precision => text.take precision
    | none => text)

/-- Digits behind a sign, filled up to the width, with zeros if those are asked for. -/
def ofMagnitude (layout : Layout) (sign digits : Octets) : Octets :=
  if layout.zeros && !layout.left then
    sign ++ List.replicate (layout.width - sign.length - digits.length) '0' ++ digits
  else layout.pad (sign ++ digits)

/-- Digits behind a sign, filled up with zeros to the precision, or else to the width. -/
def ofDigits (layout : Layout) (sign digits : Octets) : Octets :=
  match layout.precision with
  | some precision => layout.pad (sign ++ List.replicate (precision - digits.length) '0' ++ digits)
  | none => layout.ofMagnitude sign digits

def signOf (layout : Layout) (negative : Bool) : Octets :=
  if negative then ['-'] else if layout.plus then ['+'] else if layout.blank then [' '] else []

def ofSigned (layout : Layout) (value : Int) : Octets :=
  layout.ofDigits (layout.signOf (value < 0)) (Nat.toDigits 10 value.natAbs)

/-- A number in the way that a letter asks for, if it is a letter for numbers with a point. -/
def ofReal? (layout : Layout) (precision : Numeral.Precision) (letter : Char) (number : Numeral) : Option Octets :=
  let places := layout.precision.getD 6
  let image? : Option (Nat × Nat → Octets) := match letter.toLower with
    | 'f' => some (Numeral.fixed places layout.alternate)
    | 'e' => some (Numeral.scientific places layout.alternate)
    | 'g' => some (Numeral.general places layout.alternate)
    | 'a' => some (Numeral.hexadecimal precision layout.precision layout.alternate)
    | _ => none
  let cased (text : Octets) : Octets := if letter.isUpper then text.map Char.toUpper else text
  let sign := layout.signOf number.negative
  image?.map fun image => match number.magnitude with
    | .infinite => layout.pad (sign ++ cased (.ofText "inf"))
    | .undefined => layout.pad (sign ++ cased (.ofText "nan"))
    | .finite value =>
      let text := cased (image value)
      let start : Nat := if letter.toLower = 'a' then 2 else 0
      layout.ofMagnitude (sign ++ text.take start) (text.drop start)

/-- A number without a sign, in a base that a start of the text may tell. -/
def ofUnsigned (layout : Layout) (base : Nat) (start : Octets) (value : Nat) : Octets :=
  layout.ofDigits (if layout.alternate ∧ value ≠ 0 then start else []) (Nat.toDigits base value)

end Layout

/-- What printing with a format yields: the text, the arguments left, whether an argument
was asked for, what there is to complain about, the status, and whether output goes on. -/
structure Printed where
  text : Octets
  rest : List Octets
  asked : Bool
  complaints : List Octets
  status : Nat
  goesOn : Bool

def Printed.nothing (rest : List Octets) : Printed :=
  { text := [], rest, asked := false, complaints := [], status := 0, goesOn := true }

/-- Puts a text in front. -/
def Printed.after (text : Octets) (printed : Printed) : Printed := { printed with text := text ++ printed.text }

/-- Puts what an argument led to in front. -/
def Printed.behind (complaints : List Octets) (printed : Printed) : Printed where
  text := printed.text
  rest := printed.rest
  asked := true
  complaints := complaints ++ printed.complaints
  status := if complaints = [] then printed.status else max 1 printed.status
  goesOn := printed.goesOn

/-- The number of an argument, and what there is to complain about. A quote in front asks
for the number of a character. -/
def numberOf (argument : Octets) : Int × List Octets :=
  match argument with
  | [] => (0, [])
  | '\'' :: c :: _ => (c.toNat, [])
  | '"' :: c :: _ => (c.toNat, [])
  | argument =>
    let (negative, digits) := match argument with
      | '-' :: rest => (true, rest)
      | '+' :: rest => (false, rest)
      | rest => (false, rest)
    let (value, rest) := Expression.readNumber digits
    let value : Int := if negative then -value else value
    if !digits.head?.any Name.isDigit then (0, [argument ++ .ofText ": expected numeric value"])
    else if rest ≠ [] then (value, [argument ++ .ofText ": not completely converted"])
    else if value > Expression.greatest then
      (Expression.greatest, [argument ++ .ofText ": Numerical result out of range"])
    else (value, [])

/-- The number with a point of an argument, and what there is to complain about. -/
def realOf (argument : Octets) : Numeral × List Octets :=
  match argument with
  | [] => (.zero, [])
  | '\'' :: c :: _ => (.ofNat c.toNat, [])
  | '"' :: c :: _ => (.ofNat c.toNat, [])
  | argument =>
    match Numeral.read? (argument.dropWhile Name.isBlank) with
    | none => (.zero, [argument ++ .ofText ": expected numeric value"])
    | some (value, rest) =>
      let rounded := Numeral.Precision.usual.round value
      if rest ≠ [] then (rounded, [argument ++ .ofText ": not completely converted"])
      else if Numeral.Precision.usual.isOutside value then
        (rounded, [argument ++ .ofText ": Numerical result out of range"])
      else (rounded, [])

/-- One argument in the way that a letter asks for: its text, complaints, and whether
output goes on; letters without a meaning have none. -/
def convert? (letter : Char) (layout : Layout) (argument : Octets) : Option (Octets × List Octets × Bool) :=
  let (number, complaints) := numberOf argument
  match letter with
  | 's' => some (layout.ofText argument, [], true)
  | 'b' =>
    let (text, goesOn) := resolved argument
    some (layout.ofText text, [], goesOn)
  | 'c' => some (layout.pad [argument.headD '\x00'], [], true)
  | 'd' => some (layout.ofSigned number, complaints, true)
  | 'i' => some (layout.ofSigned number, complaints, true)
  | 'u' => some (layout.ofUnsigned 10 [] (Expression.bits number), complaints, true)
  | 'o' => some (layout.ofUnsigned 8 ['0'] (Expression.bits number), complaints, true)
  | 'x' => some (layout.ofUnsigned 16 ['0', 'x'] (Expression.bits number), complaints, true)
  | 'X' =>
    some ((layout.ofUnsigned 16 ['0', 'x'] (Expression.bits number)).map Char.toUpper, complaints, true)
  | letter =>
    let (value, complaints) := realOf argument
    (layout.ofReal? .usual letter value).map fun text => (text, complaints, true)

/-- A number in a directive, which an asterisk takes from the arguments. -/
def readExtent (input : Octets) (arguments : List Octets) : Int × Octets × List Octets :=
  match input with
  | '*' :: rest => ((numberOf (arguments.headD [])).1, rest, arguments.drop 1)
  | input =>
    (((integer? (input.takeWhile Name.isDigit)).getD 0), input.dropWhile Name.isDigit, arguments)

/-- Flags, width and precision in front of a directive's letter, the rest, and the arguments left. -/
def readLayout (input : Octets) (arguments : List Octets) : Layout × Octets × List Octets :=
  let isFlag (c : Char) : Bool := c ∈ ['-', '+', ' ', '0', '#']
  let flags := input.takeWhile isFlag
  let (width, input, arguments) := readExtent (input.dropWhile isFlag) arguments
  let (precision, input, arguments) : Option Int × Octets × List Octets := match input with
    | '.' :: rest =>
      let (precision, rest, arguments) := readExtent rest arguments
      (some precision, rest, arguments)
    | rest => (none, rest, arguments)
  ({ left := flags.contains '-' || decide (width < 0), zeros := flags.contains '0', plus := flags.contains '+',
     blank := flags.contains ' ', alternate := flags.contains '#', width := width.natAbs,
     precision := (precision.filter fun precision => decide (0 ≤ precision)).map Int.toNat }, input, arguments)

/-- Prints a format once. -/
def printOnce : Nat → Octets → List Octets → Printed
  | 0, _, rest => .nothing rest
  | _ + 1, [], rest => .nothing rest
  | fuel + 1, '%' :: '%' :: format, rest => (printOnce fuel format rest).after ['%']
  | fuel + 1, '%' :: format, rest =>
    let (layout, behind, rest) := readLayout format rest
    let failed (complaint : Octets) : Printed :=
      { text := [], rest, asked := false, complaints := [complaint], status := 2, goesOn := false }
    match behind with
    | [] => failed (.ofText "missing format character")
    | letter :: behind =>
      match convert? letter layout (rest.headD []) with
      | none =>
        failed ('%' :: format.take (format.length - behind.length) ++ .ofText ": invalid directive")
      | some (text, complaints, goesOn) =>
        if goesOn then ((printOnce fuel behind (rest.drop 1)).behind complaints).after text
        else { text, rest := rest.drop 1, asked := true, complaints, status := 0, goesOn := false }
  | fuel + 1, '\\' :: format, rest =>
    let (text, format) := readEscape format
    (printOnce fuel format rest).after text
  | fuel + 1, c :: format, rest => (printOnce fuel format rest).after [c]

/-- Prints a format again and again until no argument is left. -/
def printAll (format : Octets) : Nat → List Octets → Printed
  | 0, arguments => printOnce (format.length + 1) format arguments
  | fuel + 1, arguments =>
    let first := printOnce (format.length + 1) format arguments
    if first.goesOn && first.asked && !first.rest.isEmpty then
      let later := printAll format fuel first.rest
      { text := first.text ++ later.text, rest := later.rest, asked := true,
        complaints := first.complaints ++ later.complaints, status := max first.status later.status,
        goesOn := later.goesOn }
    else first

/-- What `printf` prints. -/
def printf (format : Octets) (arguments : List Octets) : Printed := printAll format arguments.length arguments

end ComponentViews.Shell.Format
