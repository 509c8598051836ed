import ComponentViews.Json.Number

/-! Writing values, without blanks and with fields in the order they have. Inside
a script element angle brackets, ampersands and the two Unicode line separators
are written as escapes, so that no value can end the element or the line. -/

namespace ComponentViews.Json

/-- Four hexadecimal digits of a UTF-16 unit. -/
def hexDigits (unit : Nat) : List Char :=
  [Nat.digitChar (unit / 4096 % 16), Nat.digitChar (unit / 256 % 16), Nat.digitChar (unit / 16 % 16),
    Nat.digitChar (unit % 16)]

def escapeUnit (c : Char) : List Char := '\\' :: 'u' :: hexDigits c.toNat

/-- Quotes, backslashes and control characters are escaped, all else stands as it is. -/
def escapeChar (c : Char) : List Char :=
  if c = '"' then ['\\', '"']
  else if c = '\\' then ['\\', '\\']
  else if c = '\x08' then ['\\', 'b']
  else if c = '\x0c' then ['\\', 'f']
  else if c = '\n' then ['\\', 'n']
  else if c = '\r' then ['\\', 'r']
  else if c = '\t' then ['\\', 't']
  else if c < ' ' then escapeUnit c
  else [c]

def writeText (value : String) : List Char := '"' :: value.toList.flatMap escapeChar ++ ['"']

mutual

def write : Json → List Char
  | .null => ['n', 'u', 'l', 'l']
  | .bool true => ['t', 'r', 'u', 'e']
  | .bool false => ['f', 'a', 'l', 's', 'e']
  | .number value => value.write
  | .text value => writeText value
  | .array [] => ['[', ']']
  | .array (item :: rest) => '[' :: item.write ++ writeItems rest
  | .object [] => ['{', '}']
  | .object ((key, value) :: rest) => '{' :: writeText key ++ ':' :: value.write ++ writeFields rest

/-- The items after the first one, and the closing bracket. -/
def writeItems : List Json → List Char
  | [] => [']']
  | item :: rest => ',' :: item.write ++ writeItems rest

/-- The fields after the first one, and the closing brace. -/
def writeFields : List (String × Json) → List Char
  | [] => ['}']
  | (key, value) :: rest => ',' :: writeText key ++ ':' :: value.write ++ writeFields rest

end

/-- The characters that JSON text may hold but a script element should not. -/
def unsafeInScript (c : Char) : Bool :=
  c = '<' ∨ c = '>' ∨ c = '&' ∨ c = '\u2028' ∨ c = '\u2029'

def guardChar (c : Char) : List Char := if unsafeInScript c then escapeUnit c else [c]

/-- The text of a value as it may stand inside a script element. -/
def writeForScript (value : Json) : List Char := value.write.flatMap guardChar

def toText (value : Json) : String := String.ofList value.write

def toScriptText (value : Json) : String := String.ofList value.writeForScript

end ComponentViews.Json
