import ComponentViews.Shell.Format
import ComponentViews.Shell.Quoting
import ComponentViews.Shell.State

/-! Printing by a format where that knows more than a few directives: the size of numbers, texts
with quotes, and escapes for characters by their numbers. Commands differ in their manner: what
escapes they know, how they read numbers, and what they say about mistakes. -/

namespace ComponentViews.Shell.Printing
open Format (Layout)

/-- Something to complain about, whether it makes the command fail, and behind how much of the text. -/
structure Complaint where
  message : Octets
  fails : Bool := true
  place : Nat := 0

def Complaint.shifted (count : Nat) (complaint : Complaint) : Complaint :=
  { complaint with place := complaint.place + count }

/-- What an escape stands for. -/
structure Escape where
  text : Octets
  rest : Octets
  complaints : List Complaint := []
  /-- Whether output goes on behind it. -/
  goesOn : Bool := true

/-- What becomes of an argument. -/
structure Piece where
  text : Octets
  complaints : List Complaint := []
  goesOn : Bool := true

/-- The manner in which a command prints. -/
structure Manner where
  /-- The escape behind a backslash in a format. -/
  readEscape : Octets → Escape
  /-- The escape behind a backslash in an argument. -/
  readInner : Octets → Escape
  /-- The number of an argument, signed or not. -/
  integer : Bool → Octets → Int × List Complaint
  real : Octets → Numeral × List Complaint
  /-- Directives that only this manner knows. -/
  own? : Char → Layout → Octets → Option Piece
  /-- Whether a letter may stand behind such flags, width and precision, as they are written. -/
  takes : Octets → Char → Bool
  /-- What is wrong with a directive, and with the letter at its end if there is one. -/
  refusal : Octets → Option Char → Octets
  /-- A time, in a form that stands between brackets, of the moment that an argument names. -/
  moment? : Option (Octets → Option Octets → Piece) := none

/-- A text with its escapes resolved. -/
def resolve (manner : Manner) : Nat → Octets → Piece
  | 0, text => { text }
  | _ + 1, [] => { text := [] }
  | fuel + 1, '\\' :: rest =>
    let escape := manner.readInner rest
    if !escape.goesOn then { text := escape.text, complaints := escape.complaints, goesOn := false }
    else
      let later := resolve manner fuel escape.rest
      { later with
        text := escape.text ++ later.text
        complaints := escape.complaints ++ later.complaints.map (·.shifted escape.text.length) }
  | fuel + 1, c :: rest =>
    let later := resolve manner fuel rest
    { later with text := c :: later.text, complaints := later.complaints.map (·.shifted 1) }

/-- One argument as a letter asks for it; letters without a meaning have none. -/
def convert? (manner : Manner) (letter : Char) (layout : Layout) (argument : Octets) : Option Piece :=
  let numbered (signed : Bool) (image : Int → Octets) : Option Piece :=
    let (value, complaints) := manner.integer signed argument
    some { text := image value, complaints }
  match manner.own? letter layout argument with
  | some piece => some piece
  | none =>
    match letter with
    | 's' => some { text := layout.ofText argument }
    | 'b' =>
      let piece := resolve manner (argument.length + 1) argument
      some { piece with text := layout.ofText piece.text }
    | 'c' => some { text := layout.pad [argument.headD '\x00'] }
    | 'd' => numbered true layout.ofSigned
    | 'i' => numbered true layout.ofSigned
    | 'u' => numbered false fun value => layout.ofUnsigned 10 [] (Expression.bits value)
    | 'o' => numbered false fun value => layout.ofUnsigned 8 ['0'] (Expression.bits value)
    | 'x' => numbered false fun value => layout.ofUnsigned 16 ['0', 'x'] (Expression.bits value)
    | 'X' => numbered false fun value =>
      (layout.ofUnsigned 16 ['0', 'x'] (Expression.bits value)).map Char.toUpper
    | letter =>
      let (value, complaints) := manner.real argument
      (layout.ofReal? .extended letter value).map fun text => { text, complaints }

/-- What printing yields: the text, the arguments left, how many were asked for, what there is to
complain about, and whether output goes on. -/
structure Printed where
  text : Octets
  rest : List Octets
  asked : Bool
  complaints : List Complaint
  goesOn : Bool

namespace Printed

def nothing (rest : List Octets) : Printed := { text := [], rest, asked := false, complaints := [], goesOn := true }

/-- Puts in front what came before. -/
def behind (text : Octets) (complaints : List Complaint) (asked : Bool) (printed : Printed) : Printed :=
  { printed with
    text := text ++ printed.text, asked := asked || printed.asked
    complaints := complaints ++ printed.complaints.map (·.shifted text.length) }

def fails (printed : Printed) : Bool := printed.complaints.any Complaint.fails

/-- Prints the text and tells the complaints about it. Of the text in front of a complaint, some is out
before that is told. -/
def deliver (printed : Printed) (ready : Octets → Nat) (tell : Octets → State → State) (state : State) : State :=
  let (shown, state) := printed.complaints.foldl (fun (shown, state) complaint =>
    let count := max shown (ready (printed.text.take complaint.place))
    (count, tell complaint.message (state.print ((printed.text.take count).drop shown)))) (0, state)
  state.print (printed.text.drop shown)

end Printed

/-- A number in a directive, which an asterisk takes from the arguments. -/
def readExtent (manner : Manner) (input : Octets) (arguments : List Octets) :
    Int × Octets × List Octets × List Complaint :=
  match input with
  | '*' :: rest =>
    let (value, complaints) := if arguments.isEmpty then (0, []) else manner.integer true (arguments.headD [])
    (value, rest, arguments.drop 1, complaints)
  | input => (((Format.integer? (input.takeWhile Name.isDigit)).getD 0), input.dropWhile Name.isDigit, arguments, [])

/-- What stands in front of a directive's letter. -/
structure Directive where
  layout : Layout
  /-- The text from the letter on. -/
  input : Octets
  arguments : List Octets
  complaints : List Complaint

def readDirective (manner : Manner) (input : Octets) (arguments : List Octets) : Directive :=
  let isFlag (c : Char) : Bool := c ∈ ['-', '+', ' ', '0', '#', '\'']
  let flags := input.takeWhile isFlag
  let (width, input, arguments, faults) := readExtent manner (input.dropWhile isFlag) arguments
  let (precision, input, arguments, others) : Option Int × Octets × List Octets × List Complaint := match input with
    | '.' :: rest =>
      let (precision, rest, arguments, faults) := readExtent manner rest arguments
      (some precision, rest, arguments, faults)
    | rest => (none, rest, arguments, [])
  let layout : Layout := {
    left := flags.contains '-' || decide (width < 0), zeros := flags.contains '0', plus := flags.contains '+'
    blank := flags.contains ' ', alternate := flags.contains '#', width := width.natAbs
    precision := (precision.filter fun precision => decide (0 ≤ precision)).map Int.toNat }
  { layout, arguments, complaints := faults ++ others
    input := input.dropWhile fun c => c ∈ ['h', 'j', 'l', 'L', 't', 'z'] }

/-- Prints a format once. -/
def printOnce (manner : Manner) : Nat → Octets → List Octets → Printed
  | 0, _, rest => .nothing rest
  | _ + 1, [], rest => .nothing rest
  | fuel + 1, '%' :: '%' :: format, rest => (printOnce manner fuel format rest).behind ['%'] [] false
  | fuel + 1, '%' :: format, rest =>
    let directive := readDirective manner format rest
    let front := format.take (format.length - directive.input.length)
    let failed (letter : Option Char) : Printed :=
      let refusal : Complaint := { message := manner.refusal ('%' :: front ++ letter.toList) letter }
      { text := [], rest := directive.arguments, asked := false
        complaints := directive.complaints ++ [refusal], goesOn := false }
    match directive.input, manner.moment? with
    | [], _ => failed none
    | '(' :: inner, some moment =>
      let form := inner.takeWhile (· ≠ ')')
      match inner.drop form.length with
      | ')' :: 'T' :: behind =>
        let piece := moment form directive.arguments.head?
        (printOnce manner fuel behind (directive.arguments.drop 1)).behind (directive.layout.ofText piece.text)
          (directive.complaints ++ piece.complaints) true
      | _ :: letter :: _ =>
        let warning : Octets := .ofText "warning: \x60" ++ letter :: Octets.ofText "': invalid time format specification"
        { text := [], rest := [], asked := false, complaints := [{ message := warning }], goesOn := false }
      | _ => failed (some '(')
    | letter :: behind, _ =>
      match if manner.takes front letter then
          convert? manner letter directive.layout (directive.arguments.headD []) else none with
      | none => failed (some letter)
      | some piece =>
        let complaints := directive.complaints ++ piece.complaints
        let rest := directive.arguments.drop 1
        if piece.goesOn then (printOnce manner fuel behind rest).behind piece.text complaints true
        else { text := piece.text, rest, asked := true, complaints, goesOn := false }
  | fuel + 1, '\\' :: format, rest =>
    let escape := manner.readEscape format
    if escape.goesOn then (printOnce manner fuel escape.rest rest).behind escape.text escape.complaints false
    else { text := escape.text, rest := [], asked := false, complaints := escape.complaints, goesOn := false }
  | fuel + 1, c :: format, rest => (printOnce manner fuel format rest).behind [c] [] false

/-- Prints a format again and again until no argument is left. -/
def printAll (manner : Manner) (format : Octets) : Nat → List Octets → Printed
  | 0, arguments => printOnce manner (format.length + 1) format arguments
  | fuel + 1, arguments =>
    let first := printOnce manner (format.length + 1) format arguments
    if first.goesOn && first.asked && !first.rest.isEmpty then
      (printAll manner format fuel first.rest).behind first.text first.complaints true
    else first

def print (manner : Manner) (format : Octets) (arguments : List Octets) : Printed :=
  printAll manner format arguments.length arguments

/-! ### Reading numbers -/

/-- What a number is taken for beyond the end of a text, if anything is left there. -/
structure Extracted (α : Type) where
  value : α
  /-- Whether there is any number. -/
  isThere : Bool
  isWhole : Bool
  isOutside : Bool

/-- An integer in front of a text, in the base that its start tells. -/
def extractInteger (signed : Bool) (argument : Octets) : Extracted Int :=
  let start := argument.dropWhile Name.isBlank
  let (negative, digits) := match start with
    | '-' :: rest => (true, rest)
    | '+' :: rest => (false, rest)
    | rest => (false, rest)
  if !digits.head?.any Name.isDigit then
    { value := 0, isThere := false, isWhole := argument.isEmpty, isOutside := false }
  else
    let (value, rest) := Expression.readNumber digits
    let value : Int := if negative then -value else value
    let (least, most) : Int × Int := if signed then (-Expression.greatest - 1, Expression.greatest)
      else (-18446744073709551615, 18446744073709551615)
    let isOutside := decide (value < least) || decide (most < value)
    let bounded := if signed then max least (min most value) else if isOutside then most else value
    { value := bounded, isThere := true, isWhole := rest.isEmpty, isOutside }

/-- A number with a point in front of a text. -/
def extractReal (argument : Octets) : Extracted Numeral :=
  match Numeral.read? (argument.dropWhile Name.isBlank) with
  | none => { value := .zero, isThere := false, isWhole := argument.isEmpty, isOutside := false }
  | some (value, rest) =>
    { value := Numeral.Precision.extended.round value, isThere := true, isWhole := rest.isEmpty
      isOutside := Numeral.Precision.extended.isOutside value }

/-- The value of a number, unless a quote in front asks for the number of a character. -/
def numberOf {α : Type} (ofNat : Nat → α) (extract : Octets → Extracted α)
    (judge : Octets → Extracted α → List Complaint) (argument : Octets) : α × List Complaint :=
  match argument with
  | '\'' :: c :: _ => (ofNat c.toNat, [])
  | '"' :: c :: _ => (ofNat c.toNat, [])
  | argument =>
    let extracted := extract argument
    (extracted.value, judge argument extracted)

/-! ### Escapes -/

/-- A character by some hexadecimal digits, at most so many, in front of a text. -/
def readHexadecimal? (most : Nat) (text : Octets) : Option (Nat × Octets) :=
  let (value, count) := Quoting.digitsAt 16 most 0 0 text
  if count = 0 then none else some (value, text.drop count)

/-- An octal number in front of a text as an octet. -/
def readOctet (text : Octets) (most : Nat) : Escape :=
  let (value, rest) := Format.readOctal most 0 text
  { text := [Format.octet value], rest }

end ComponentViews.Shell.Printing
