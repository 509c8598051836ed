import ComponentViews.Shell.Octets

/-! Names of parameters: those that a script chooses, and the ones that one character
or a number stands for. -/

namespace ComponentViews.Shell.Name

def isBlank (c : Char) : Bool := c = ' ' ∨ c = '\t'

def isStart (c : Char) : Bool := ('a' ≤ c ∧ c ≤ 'z') ∨ ('A' ≤ c ∧ c ≤ 'Z') ∨ c = '_'

def isDigit (c : Char) : Bool := '0' ≤ c ∧ c ≤ '9'

def isInner (c : Char) : Bool := isStart c ∨ isDigit c

/-- Parameters that one character names. -/
def isSpecial (c : Char) : Bool := isDigit c ∨ c ∈ ['@', '*', '#', '?', '$', '!', '-']

/-- A name that a script may choose. -/
def isChosen (name : Octets) : Bool := name.head?.any isStart && name.all isInner

/-- The chosen name at the start of a text, empty where there is none. -/
def chosenAt (text : Octets) : Octets := if text.head?.any isStart then text.takeWhile isInner else []

/-- The parameter at the start of a text between braces; numbers may be long there. -/
def parameterAt : Octets → Octets
  | [] => []
  | c :: rest =>
    if isStart c then c :: rest.takeWhile isInner
    else if isDigit c then c :: rest.takeWhile isDigit
    else if isSpecial c then [c]
    else []

/-- Commands whose failure ends a script, and whose assignments last. No function has their names. -/
def ofSpecialCommands : List String :=
  [":", ".", "break", "continue", "eval", "exec", "exit", "export", "local", "readonly", "return", "set", "shift",
    "times", "trap", "unset"]

end ComponentViews.Shell.Name
