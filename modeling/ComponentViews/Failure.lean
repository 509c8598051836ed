/-! Failures of collaborators: a root cause inside contexts. A failure shows its
outermost text, lists every text down to the cause, and keeps the code that the
collaborator attached to the cause. -/

namespace ComponentViews

/-- The innermost cause of a failure. A system cause has no text of its own. -/
inductive RootCause where
  | message (text : String)
  | coded (code text : String)
  | system
  deriving DecidableEq, Repr

/-- A collaborator's failure, its contexts outermost first. -/
structure Failure where
  contexts : List String
  root : RootCause
  deriving DecidableEq, Repr

namespace Failure

def ofMessage (text : String) : Failure := { contexts := [], root := .message text }

/-- A system failure explained by a text. -/
def ofSystem (context : String) : Failure := { contexts := [context], root := .system }

/-- Wraps a failure in a further context. -/
def within (failure : Failure) (context : String) : Failure :=
  { failure with contexts := context :: failure.contexts }

/-- Every text of the chain, outermost first. -/
def messages (failure : Failure) : List String :=
  failure.contexts ++ match failure.root with
    | .message text => [text]
    | .coded _ text => [text]
    | .system => []

/-- The text that a failure shows. -/
def message (failure : Failure) : String := failure.messages.headD ""

/-- The code that the collaborator attached. -/
def code? (failure : Failure) : Option String :=
  match failure.root with
  | .coded code _ => some code
  | _ => none

end Failure

end ComponentViews
