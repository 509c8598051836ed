import ComponentViews.Shell.Real

/-! Scripts that look through records, by their structure: rules of a pattern and what to do
about records that fit it, and functions. -/

namespace ComponentViews.Shell.Awk

inductive Operation where
  | add
  | sub
  | mul
  | div
  | mod
  | power
  deriving DecidableEq, Repr

inductive Comparison where
  | less
  | atMost
  | equal
  | unequal
  | atLeast
  | greater
  deriving DecidableEq, Repr

/-- Where a record is read from. -/
inductive Origin where
  | input
  | file
  | command
  deriving DecidableEq, Repr

mutual

inductive Expression where
  | number (value : Real)
  | text (value : Octets)
  /-- Whether the record fits. -/
  | regex (source : Octets)
  | place (place : Place)
  | arithmetic (operation : Operation) (left right : Expression)
  | concatenation (left right : Expression)
  | comparison (kind : Comparison) (left right : Expression)
  | fitting (negated : Bool) (subject pattern : Expression)
  | both (left right : Expression)
  | either (left right : Expression)
  | negation (operand : Expression)
  | minus (operand : Expression)
  | plus (operand : Expression)
  | conditional (condition yes no : Expression)
  | assignment (place : Place) (operation : Option Operation) (value : Expression)
  /-- Adds a number to a place, and stands for its value in front of that or behind. -/
  | increment (place : Place) (amount : Int) (before : Bool)
  | membership (indices : List Expression) (array : Octets)
  | call (name : Octets) (arguments : List Expression)
  | builtin (name : String) (arguments : List Expression)
  | readRecord (origin : Origin) (name : Option Expression) (place : Option Place)

inductive Place where
  | named (name : Octets)
  | element (array : Octets) (indices : List Expression)
  | field (index : Expression)

end

/-- Where output goes. -/
inductive Outlet where
  | file
  | append
  | command
  deriving DecidableEq, Repr

inductive Statement where
  | evaluate (expression : Expression)
  | print (formatted : Bool) (arguments : List Expression) (outlet : Option (Outlet × Expression))
  | conditional (condition : Expression) (yes no : Statement)
  /-- Runs the body while the condition holds, once at least if that is asked for, and a step
  behind each round. -/
  | loop (atLeastOnce : Bool) (condition : Expression) (step body : Statement)
  | each (name array : Octets) (body : Statement)
  | sequence (first second : Statement)
  | delete (array : Octets) (indices : Option (List Expression))
  | next
  | nextFile
  | exit (status : Option Expression)
  | giveBack (value : Option Expression)
  | stop
  | goOn
  | nothing

instance : Inhabited Statement := ⟨.nothing⟩

inductive Pattern where
  | atStart
  | atEnd
  | always
  | when (condition : Expression)
  /-- From a record of one kind to one of another. -/
  | between (first last : Expression)

structure Rule where
  pattern : Pattern
  action : Statement

structure Function where
  parameters : List Octets
  body : Statement

structure Script where
  rules : List Rule
  functions : List (Octets × Function)

end ComponentViews.Shell.Awk
