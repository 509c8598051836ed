/-! Texts inside double-quoted string literals of generated scripts. Quotes,
backslashes and everything that ends a line are escaped; all else stands as it is. -/

namespace ComponentViews.Text.Script

def escapeChar (c : Char) : List Char :=
  if c = '"' then ['\\', '"']
  else if c = '\\' then ['\\', '\\']
  else if c = '\n' then ['\\', 'n']
  else if c = '\r' then ['\\', 'r']
  else if c = '\t' then ['\\', 't']
  else if c = '\u2028' then ['\\', 'u', '2', '0', '2', '8']
  else if c = '\u2029' then ['\\', 'u', '2', '0', '2', '9']
  else [c]

def escape (text : List Char) : List Char := text.flatMap escapeChar

/-- The body of a double-quoted literal. -/
def escapeText (text : String) : String := String.ofList (escape text.toList)

@[simp] theorem escape_nil : escape [] = [] := rfl

@[simp] theorem escape_append (left right : List Char) : escape (left ++ right) = escape left ++ escape right := by
  simp [escape]

end ComponentViews.Text.Script
