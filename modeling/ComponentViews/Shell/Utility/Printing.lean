import ComponentViews.Shell.Printing
import ComponentViews.Shell.Utility.Options

/-! The programs that print their arguments, as they stand or by a format. -/

namespace ComponentViews.Shell.Utility

namespace Printing
open Shell.Printing

/-- What only this manner says. -/
def lacksDigits : Escape :=
  { text := [], rest := [], goesOn := false
    complaints := [{ message := .ofText "missing hexadecimal number in escape" }] }

/-- A character by its number, written with as many digits as a letter asks for. -/
def readCharacter (letter : Char) (text : Octets) : Escape :=
  let count : Nat := if letter = 'u' then 4 else 8
  match readHexadecimal? count text with
  | none => lacksDigits
  | some (value, rest) =>
    if text.length - rest.length ≠ count then lacksDigits
    else if 0xD800 ≤ value ∧ value ≤ 0xDFFF then
      let name : Octets := .ofText "invalid universal character name \\" ++ letter :: text.take count
      { text := [], rest := [], goesOn := false, complaints := [{ message := name }] }
    else { text := Quoting.character value, rest }

/-- The escape behind a backslash, of which arguments may write octal numbers with a zero in front. -/
def readEscape (zero : Bool) (text : Octets) : Escape :=
  match text with
  | [] => { text := ['\\'], rest := [] }
  | 'c' :: rest => { text := [], rest, goesOn := false }
  | 'x' :: rest =>
    match readHexadecimal? 2 rest with
    | some (value, rest) => { text := [Format.octet value], rest }
    | none => lacksDigits
  | 'u' :: rest => readCharacter 'u' rest
  | 'U' :: rest => readCharacter 'U' rest
  | '"' :: rest => { text := ['"'], rest }
  | '0' :: rest => if zero then readOctet rest 3 else readOctet text 3
  | c :: rest =>
    match Format.letterEscape? c, Format.octalDigit? c with
    | some value, _ => { text := [value], rest }
    | none, some _ => readOctet text 3
    | none, none => { text := ['\\', c], rest }

/-- What is wrong with a number. -/
def judge {α : Type} (argument : Octets) (extracted : Extracted α) : List Complaint :=
  let about (text : String) : List Complaint := [{ message := quoted argument ++ .ofText (": " ++ text) }]
  if argument.isEmpty then []
  else if !extracted.isThere then about "expected a numeric value"
  else if extracted.isOutside then about "Numerical result out of range"
  else if !extracted.isWhole then about "value not completely converted"
  else []

/-- The value of a number; of characters behind a quote only the first one counts. -/
def number {α : Type} (ofNat : Nat → α) (extract : Octets → Extracted α) (argument : Octets) : α × List Complaint :=
  let (value, complaints) := numberOf ofNat extract judge argument
  match argument with
  | quote :: _ :: more :: rest =>
    if quote = '"' ∨ quote = '\'' then
      let warning : Octets := .ofText "warning: " ++ (more :: rest) ++
        .ofText ": character(s) following character constant have been ignored"
      (value, [{ message := warning, fails := false }])
    else (value, complaints)
  | _ => (value, complaints)

/-- Whether a directive makes sense with what stands in front of its letter. -/
def takes (front : Octets) (letter : Char) : Bool :=
  let flags := front.takeWhile fun c => c ∈ ['-', '+', ' ', '0', '#', '\'', 'I']
  let refused := (if flags.contains '\'' then ['a', 'A', 'c', 'e', 'E', 'o', 's', 'x', 'X'] else []) ++
    (if flags.contains '#' then ['c', 'd', 'i', 's', 'u'] else []) ++
    (if flags.contains '0' then ['c', 's'] else []) ++ (if front.contains '.' then ['c'] else []) ++
    (if front.isEmpty then [] else ['b', 'q'])
  !refused.contains letter

def manner : Manner where
  readEscape := readEscape false
  readInner := readEscape true
  integer signed := number Int.ofNat (extractInteger signed)
  real := number Numeral.ofNat extractReal
  own? letter _ argument := match letter with
    | 'q' => some { text := if needsQuotes false argument then named argument else argument }
    | _ => none
  takes := takes
  refusal directive _ := directive ++ .ofText ": invalid conversion specification"

/-- What escapes in printed arguments stand for: the text, and whether output goes on. -/
def unescaped : Nat → Octets → Octets × Bool
  | 0, text => (text, true)
  | _ + 1, [] => ([], true)
  | _ + 1, ['\\'] => (['\\'], true)
  | fuel + 1, '\\' :: c :: rest =>
    let (text, rest) : Octets × Octets := match c with
      | 'x' =>
        match readHexadecimal? 2 rest with
        | some (value, rest) => ([Format.octet value], rest)
        | none => (['\\', 'x'], rest)
      | '0' => let escape := readOctet rest 3; (escape.text, escape.rest)
      | c =>
        match Format.letterEscape? c, Format.octalDigit? c with
        | some value, _ => ([value], rest)
        | none, some _ => let escape := readOctet (c :: rest) 3; (escape.text, escape.rest)
        | none, none => (['\\', c], rest)
    if c = 'c' then ([], false)
    else
      let (later, goesOn) := unescaped fuel rest
      (text ++ later, goesOn)
  | fuel + 1, c :: rest =>
    let (later, goesOn) := unescaped fuel rest
    (c :: later, goesOn)

end Printing

/-- Prints arguments; escapes in them count if that is asked for last. -/
def echo (arguments : List Octets) (state : State) : State :=
  let isOption (argument : Octets) : Bool :=
    argument.head? = some '-' && argument.length > 1 && (argument.drop 1).all fun c => c ∈ ['n', 'e', 'E']
  let letters := (arguments.takeWhile isOption).flatten
  let text : Octets := [' '].intercalate (arguments.dropWhile isOption)
  let escapes := (letters.reverse.find? fun c => c = 'e' || c = 'E') = some 'e'
  let (text, goesOn) := if escapes then Printing.unescaped (text.length + 1) text else (text, true)
  state.succeed.print (text ++ (if goesOn ∧ !letters.contains 'n' then ['\n'] else []))

/-- Prints by a format. -/
def printf (arguments : List Octets) (state : State) : State :=
  let arguments := if arguments.head? = some ['-', '-'] then arguments.drop 1 else arguments
  match arguments with
  | [] => missingOperand "printf" state
  | format :: arguments =>
    let printed := Shell.Printing.print Printing.manner format arguments
    let state := printed.deliver List.length (complain "printf") state
    let state := match printed.goesOn && !printed.asked, printed.rest with
      | true, first :: _ =>
        complain "printf" (Octets.ofText "warning: ignoring excess arguments, starting with " ++ quoted first) state
      | _, _ => state
    state.withStatus (if printed.fails then 1 else 0)

end ComponentViews.Shell.Utility
