import ComponentViews.Json.Number

/-! Reading documents from text or from bytes: one value between blanks and nothing
else. The reader descends by the input's own length, which no document outgrows.
What the pieces of a string literal spell depends on what the input is made of. -/

namespace ComponentViews.Json

def isBlank (c : Char) : Bool := c = ' ' ∨ c = '\t' ∨ c = '\n' ∨ c = '\r'

def skipBlanks (input : List Char) : List Char := input.dropWhile isBlank

def digit? (c : Char) : Option Nat := if '0' ≤ c ∧ c ≤ '9' then some (c.toNat - '0'.toNat) else none

def hexDigit? (c : Char) : Option Nat :=
  if '0' ≤ c ∧ c ≤ '9' then some (c.toNat - '0'.toNat)
  else if 'a' ≤ c ∧ c ≤ 'f' then some (c.toNat - 'a'.toNat + 10)
  else if 'A' ≤ c ∧ c ≤ 'F' then some (c.toNat - 'A'.toNat + 10)
  else none

/-- The UTF-16 unit of four hexadecimal digits. -/
def hexUnit? (a b c d : Char) : Option Nat := do
  let a ← hexDigit? a
  let b ← hexDigit? b
  let c ← hexDigit? c
  let d ← hexDigit? d
  pure (((a * 16 + b) * 16 + c) * 16 + d)

/-- The character of an escape that names it by a letter. -/
def letterEscape? : Char → Option Char
  | '"' => some '"'
  | '\\' => some '\\'
  | '/' => some '/'
  | 'b' => some '\x08'
  | 'f' => some '\x0c'
  | 'n' => some '\n'
  | 'r' => some '\r'
  | 't' => some '\t'
  | _ => none

/-- A character of a string literal as it stands or by its escape, or a half of one that
is escaped as two units. -/
inductive Piece where
  | char (value : Char)
  | escaped (value : Char)
  | high (unit : Nat)
  | low (unit : Nat)
  deriving DecidableEq, Repr

def Piece.ofUnit (unit : Nat) : Piece :=
  if 0xD800 ≤ unit ∧ unit < 0xDC00 then .high unit
  else if 0xDC00 ≤ unit ∧ unit < 0xE000 then .low unit
  else .escaped (Char.ofNat unit)

/-- The pieces up to the closing quote, and the text after it. -/
def readPieces : List Char → Option (List Piece × List Char)
  | [] => none
  | c :: rest =>
    if c = '"' then some ([], rest)
    else if c = '\\' then
      match rest with
      | 'u' :: a :: b :: c :: d :: rest =>
        match hexUnit? a b c d, readPieces rest with
        | some unit, some (pieces, after) => some (.ofUnit unit :: pieces, after)
        | _, _ => none
      | letter :: rest =>
        match letterEscape? letter, readPieces rest with
        | some value, some (pieces, after) => some (.escaped value :: pieces, after)
        | _, _ => none
      | [] => none
    else if c < ' ' then none
    else match readPieces rest with
      | some (pieces, after) => some (.char c :: pieces, after)
      | none => none

/-- The character of two halves. -/
def joinHalves (high low : Nat) : Char := Char.ofNat (0x10000 + (high - 0xD800) * 0x400 + (low - 0xDC00))

/-- What pieces spell, by what characters spell as they stand and by their escapes; halves
must stand in pairs. -/
def spell {α : Type} (plain escaped : Char → List α) : List Piece → Option (List α)
  | [] => some []
  | .char c :: rest => (spell plain escaped rest).map (plain c ++ ·)
  | .escaped c :: rest => (spell plain escaped rest).map (escaped c ++ ·)
  | .high first :: .low second :: rest => (spell plain escaped rest).map (escaped (joinHalves first second) ++ ·)
  | .high _ :: _ => none
  | .low _ :: _ => none

/-- How the pieces of a literal form a text. -/
abbrev Spelling := List Piece → Option String

namespace Spelling

/-- The spelling of literals in a text: every character stands for itself. -/
def ofText : Spelling := fun pieces => (spell (fun c => [c]) (fun c => [c]) pieces).map String.ofList

def utf8 (c : Char) : List UInt8 := (String.singleton c).toUTF8.toList

/-- The spelling of literals among bytes that are read as characters one by one: together
the bytes have to encode a text. -/
def ofBytes : Spelling := fun pieces =>
  (spell (fun c => [UInt8.ofNat c.toNat]) utf8 pieces).bind fun bytes =>
    String.fromUTF8? (ByteArray.mk bytes.toArray)

end Spelling

/-- The text of a string literal after its opening quote, if its pieces form one. -/
def readText (spelling : Spelling) (input : List Char) : Option (Option String × List Char) :=
  (readPieces input).map fun (pieces, rest) => (spelling pieces, rest)

/-- The digits at the start of a text. -/
def readDigits : List Char → List Nat × List Char
  | [] => ([], [])
  | c :: rest =>
    match digit? c with
    | some digit =>
      let (digits, rest) := readDigits rest
      (digit :: digits, rest)
    | none => ([], c :: rest)

def readExponent (input : List Char) : Option (Option (Bool × List Nat) × List Char) :=
  match input with
  | c :: rest =>
    if c = 'e' ∨ c = 'E' then
      let (down, rest) := match rest with
        | '-' :: rest => (true, rest)
        | '+' :: rest => (false, rest)
        | rest => (false, rest)
      match readDigits rest with
      | ([], _) => none
      | (digits, rest) => some (some (down, digits), rest)
    else some (none, input)
  | [] => some (none, [])

def readFraction (input : List Char) : Option (Option (List Nat) × List Char) :=
  match input with
  | '.' :: rest =>
    match readDigits rest with
    | ([], _) => none
    | (digits, rest) => some (some digits, rest)
  | rest => some (none, rest)

/-- A number literal: no zero in front of further digits, and digits on both sides of a point. -/
def readLiteral (input : List Char) : Option (Literal × List Char) :=
  let (negative, digits) := match input with
    | '-' :: rest => (true, rest)
    | rest => (false, rest)
  match readDigits digits with
  | ([], _) => none
  | (0 :: _ :: _, _) => none
  | (whole, rest) => do
    let (fraction, rest) ← readFraction rest
    let (exponent, rest) ← readExponent rest
    pure ({ negative, whole, fraction, exponent }, rest)

/-- The rest of a text that starts with a word. -/
def readWord : List Char → List Char → Option (List Char)
  | [], input => some input
  | _ :: _, [] => none
  | c :: word, d :: input => if c = d then readWord word input else none

mutual

def readDocument (spelling : Spelling) : Nat → List Char → Option (Document × List Char)
  | 0, _ => none
  | fuel + 1, input =>
    match skipBlanks input with
    | 'n' :: rest => (readWord ['u', 'l', 'l'] rest).map (.null, ·)
    | 't' :: rest => (readWord ['r', 'u', 'e'] rest).map (.bool true, ·)
    | 'f' :: rest => (readWord ['a', 'l', 's', 'e'] rest).map (.bool false, ·)
    | '"' :: rest => (readText spelling rest).map fun (value, rest) => (.text value, rest)
    | '[' :: rest =>
      match skipBlanks rest with
      | ']' :: rest => some (.array [], rest)
      | rest => (readItems spelling fuel rest).map fun (items, rest) => (.array items, rest)
    | '{' :: rest =>
      match skipBlanks rest with
      | '}' :: rest => some (.object [], rest)
      | rest => (readFields spelling fuel rest).map fun (fields, rest) => (.object fields, rest)
    | rest => (readLiteral rest).map fun (literal, rest) => (.number literal.value?, rest)

/-- The items of an array up to its closing bracket, at least one. -/
def readItems (spelling : Spelling) : Nat → List Char → Option (List Document × List Char)
  | 0, _ => none
  | fuel + 1, input => do
    let (item, rest) ← readDocument spelling fuel input
    match skipBlanks rest with
    | ',' :: rest => (readItems spelling fuel rest).map fun (items, rest) => (item :: items, rest)
    | ']' :: rest => some ([item], rest)
    | _ => none

/-- The fields of an object up to its closing brace, at least one. -/
def readFields (spelling : Spelling) : Nat → List Char → Option (List (Option String × Document) × List Char)
  | 0, _ => none
  | fuel + 1, input =>
    match skipBlanks input with
    | '"' :: rest => do
      let (key, rest) ← readText spelling rest
      match skipBlanks rest with
      | ':' :: rest => do
        let (item, rest) ← readDocument spelling fuel rest
        match skipBlanks rest with
        | ',' :: rest => (readFields spelling fuel rest).map fun (fields, rest) => ((key, item) :: fields, rest)
        | '}' :: rest => some ([(key, item)], rest)
        | _ => none
      | _ => none
    | _ => none

end

/-- The document that an input spells out. -/
def Document.readAll? (spelling : Spelling) (input : List Char) : Option Document :=
  match readDocument spelling (input.length + 1) input with
  | some (document, rest) => if skipBlanks rest = [] then some document else none
  | none => none

/-- The document that a text spells out. -/
def Document.read? (input : List Char) : Option Document := readAll? .ofText input

/-- The document that bytes spell out. Only where a literal stands for a text do its bytes
have to encode one. -/
def Document.ofBytes? (bytes : List UInt8) : Option Document :=
  readAll? .ofBytes (bytes.map fun byte => Char.ofNat byte.toNat)

/-- The value that a text spells out. -/
def read? (input : String) : Option Json := (Document.read? input.toList).bind (·.value? greatestDepth)

end ComponentViews.Json
