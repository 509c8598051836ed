import ComponentViews.Build.Output
import ComponentViews.Build.Request
import ComponentViews.Failure
import ComponentViews.Render.Context
import ComponentViews.Render.Output

/-! The collaborators of the compiler: a toolchain that builds, an evaluator that
loads what was built, and the loaded components. A collaborator answers as a
function of what it is given and of the journal of all calls before. -/

namespace ComponentViews.Compile

open Build

/-- Generated code of a wrapper, ready to be loaded. -/
structure ModuleSource where
  path : Path
  code : String
  format : Format
  deriving DecidableEq, Repr

/-- A loaded module. Components are told apart by the evaluation that made them. -/
structure Component where
  module : ModuleSource
  evaluation : Nat
  deriving DecidableEq, Repr

/-- A call of a collaborator with its outcome. -/
inductive Event where
  | built (request : Request) (outcome : Except Failure Build.Output)
  | sourceMapsInstalled
  | evaluated (module : ModuleSource) (outcome : Except Failure Component)
  | rendered (component : Component) (context : Render.Context) (outcome : Except Failure Render.Output)

namespace Event

def isBuild : Event → Bool
  | .built _ _ => true
  | _ => false

def isInstallation : Event → Bool
  | .sourceMapsInstalled => true
  | _ => false

def isEvaluation : Event → Bool
  | .evaluated _ _ => true
  | _ => false

def isRendering : Event → Bool
  | .rendered _ _ _ => true
  | _ => false

def request? : Event → Option Request
  | .built request _ => some request
  | _ => none

def module? : Event → Option ModuleSource
  | .evaluated module _ => some module
  | _ => none

end Event

/-- The calls made so far, the latest first. -/
abbrev Journal := List Event

structure Collaborators where
  build : Journal → Request → Except Failure Build.Output
  /-- Whether a module can be loaded. -/
  load : Journal → ModuleSource → Except Failure Unit
  render : Journal → Component → Render.Context → Except Failure Render.Output

namespace Collaborators

/-- Builds a request and records the call. -/
def built (collaborators : Collaborators) (request : Request) (journal : Journal) :
    Except Failure Build.Output × Journal :=
  let outcome := collaborators.build journal request
  (outcome, .built request outcome :: journal)

/-- Evaluates a module to a component of its own and records the call. -/
def evaluated (collaborators : Collaborators) (module : ModuleSource) (journal : Journal) :
    Except Failure Component × Journal :=
  let component : Component := { module, evaluation := journal.countP Event.isEvaluation }
  let outcome := (collaborators.load journal module).map fun _ => component
  (outcome, .evaluated module outcome :: journal)

/-- Renders a component and records the call. -/
def rendered (collaborators : Collaborators) (component : Component) (context : Render.Context) (journal : Journal) :
    Except Failure Render.Output × Journal :=
  let outcome := collaborators.render journal component context
  (outcome, .rendered component context outcome :: journal)

end Collaborators
end ComponentViews.Compile
