/-! Texts inside double-quoted attributes of markup. -/

namespace ComponentViews.Text.Markup

def escapeChar (c : Char) : List Char :=
  if c = '&' then ['&', 'a', 'm', 'p', ';']
  else if c = '"' then ['&', 'q', 'u', 'o', 't', ';']
  else if c = '<' then ['&', 'l', 't', ';']
  else if c = '>' then ['&', 'g', 't', ';']
  else [c]

def escape (text : List Char) : List Char := text.flatMap escapeChar

/-- The value of a double-quoted attribute. -/
def escapeText (text : String) : String := String.ofList (escape text.toList)

@[simp] theorem escape_append (left right : List Char) : escape (left ++ right) = escape left ++ escape right := by
  simp [escape]

end ComponentViews.Text.Markup
