import ComponentViews.Shell.Octets

/-! Scripts by their structure: simple commands, joined in sequence, by outcome or by
pipes, and the compound commands around them. A word keeps its parts, with what was
quoted marked, since quotes decide how the parts expand. -/

namespace ComponentViews.Shell

/-- The two languages that scripts are written in: one that all shells know, and one that has
arrays, conditions, counted loops and more expansions besides. -/
inductive Dialect where
  | standard
  | extended
  deriving DecidableEq, Repr

/-- What a word takes from a parameter. A second word stands in for a missing parameter,
one that is unset or, if emptiness counts too, empty; or it says what is cut off. -/
inductive Treatment where
  | plain
  | size
  | fallback (evenEmpty : Bool)
  | assignment (evenEmpty : Bool)
  | demand (evenEmpty : Bool)
  /-- The second word, unless the parameter is missing. -/
  | replacement (evenEmpty : Bool)
  | trimStart (most : Bool)
  | trimEnd (most : Bool)
  deriving DecidableEq, Repr

def Treatment.trims : Treatment → Bool
  | .trimStart _ => true
  | .trimEnd _ => true
  | _ => false

/-- Where in a value a pattern is looked for. -/
inductive Scope where
  | first
  | every
  | start
  | finish
  deriving DecidableEq, Repr

inductive Casing where
  | upper
  | lower
  | toggled
  deriving DecidableEq, Repr

/-- What the extended dialect takes from a parameter, with some operands. -/
inductive Change where
  | treated (treatment : Treatment)
  /-- What fits the first operand gives way to the second one. -/
  | substitution (scope : Scope)
  /-- From the first operand on, as long as the second one tells. -/
  | slice
  /-- Letters that fit the operand, the first of a value or every one. -/
  | casing (casing : Casing) (every : Bool)
  /-- In a form that a letter asks for. -/
  | shown (letter : Char)
  /-- The places of the members of an array. -/
  | keys
  /-- The names of parameters that start with the given one. -/
  | names
  deriving DecidableEq, Repr

inductive Opening where
  | input
  | output
  /-- To a file even if it is there and to be kept. -/
  | overwriting
  | append
  /-- From a file and over it. -/
  | update
  /-- To where another descriptor leads. -/
  | duplicate
  /-- From a text that stands in the script. -/
  | document
  /-- From a word, as a line. -/
  | phrase
  deriving DecidableEq, Repr

/-- Lets a descriptor lead elsewhere, perhaps a new one whose number a variable takes. -/
structure Redirection (ω : Type) where
  descriptor : Nat
  opening : Opening
  target : ω
  holder : Option Octets := none

/-- A member of an array in a list of them, with the place that it is told. -/
structure Member (ω : Type) where
  place : Option ω
  appends : Bool
  value : ω

/-- What is assigned: one value, or the members of an array. -/
inductive Given (ω : Type) where
  | word (value : ω)
  | members (list : List (Member ω))

/-- Gives a variable or a member of it a value, perhaps behind the one it has. -/
structure Assignment (ω : Type) where
  name : Octets
  place : Option ω
  appends : Bool
  given : Given ω

/-- Conditions on words, joined by their outcome. -/
inductive Condition (ω : Type) where
  | unary (operator : String) (operand : ω)
  | binary (operator : String) (left right : ω)
  | negation (body : Condition ω)
  | both (first second : Condition ω)
  | either (first second : Condition ω)

/-- How a choice goes on behind a branch that it has taken: not at all, with the next branch,
or with the next one that fits. -/
inductive Sequel where
  | over
  | next
  | nextFitting
  deriving DecidableEq, Repr

mutual

/-- A part of a word: its own characters, a parameter, the output of a script, the value
of an expression, or what has no meaning once it is to be expanded. -/
inductive Part where
  | text (value : Octets) (quoted : Bool)
  | parameter (name : Octets) (treatment : Treatment) (operand : List Part) (quoted : Bool)
  /-- A parameter, members of it, or what it names, with a change. The first operand tells
  which members. -/
  | selection (name : Octets) (subscripted indirect : Bool) (change : Change) (operands : List (List Part))
      (quoted : Bool)
  | output (script : Script) (quoted : Bool)
  | arithmetic (expression : List Part) (quoted : Bool)
  /-- The path of a stream that a script beside writes to, or reads from. -/
  | passage (script : Script) (writes : Bool)
  | senseless (source : Octets)

inductive Script where
  | nothing
  /-- Assignments and the words of a command, on a line. -/
  | simple (line : Nat) (assignments : List (Assignment (List Part))) (words : List (List Part))
      (redirections : List (Redirection (List Part)))
  /-- A command that declares variables, with words and assignments as its arguments. -/
  | declaration (line : Nat) (command : Octets) (arguments : List (List Part ⊕ Assignment (List Part)))
      (redirections : List (Redirection (List Part)))
  /-- Tells how long its body takes. -/
  | timed (brief : Bool) (body : Script)
  /-- Tells whether words meet a condition. -/
  | condition (line : Nat) (condition : Condition (List Part))
  /-- Tells whether an expression has a value other than zero. -/
  | calculation (line : Nat) (expression : List Part)
  | redirected (line : Nat) (body : Script) (redirections : List (Redirection (List Part)))
  | sequence (first second : Script)
  | andThen (first second : Script)
  | orElse (first second : Script)
  | pipe (first second : Script)
  | negation (body : Script)
  | background (body : Script)
  | conditional (condition yes no : Script)
  /-- Runs while the condition holds, or while it does not. -/
  | loop (negated : Bool) (condition body : Script)
  /-- Without a list of its own the loop runs over the arguments. -/
  | each (line : Nat) (name : Octets) (values : Option (List (List Part))) (body : Script)
  /-- Runs as often as the input chooses one of the values. -/
  | menu (line : Nat) (name : Octets) (values : Option (List (List Part))) (body : Script)
  /-- Runs while an expression has a value other than zero, with one before and one behind each round. -/
  | counted (line : Nat) (start condition next : List Part) (body : Script)
  | choice (line : Nat) (subject : List Part) (branches : List (List (List Part) × Script × Sequel))
  | subshell (body : Script)
  /-- Names a command for later use. -/
  | define (name : Octets) (body : Script)

end

abbrev Word := List Part

instance : Inhabited Script := ⟨.nothing⟩

namespace Part

def isOutput : Part → Bool
  | .output _ _ => true
  | _ => false

/-- The characters that a part holds as it stands. -/
def characters : Part → Octets
  | .text value _ => value
  | _ => []

def isQuoted : Part → Bool
  | .text _ quoted => quoted
  | _ => false

end Part

/-- The characters of a word without quotes and expansions. -/
def Word.plain? : Word → Option Octets
  | [] => some []
  | .text value false :: rest => (plain? rest).map (value ++ ·)
  | _ => none

/-- Whether a place in an array stands for all of its members. -/
def Word.isAll (place : Word) : Bool :=
  match place with
  | [.text ['@'] false] => true
  | [.text ['*'] false] => true
  | _ => false

end ComponentViews.Shell
