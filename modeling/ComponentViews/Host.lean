import ComponentViews.Dict
import ComponentViews.Json.Basic
import ComponentViews.ViewError

/-! The hosting framework as the engine sees it: three scopes of values, a way to
send a body, and a way to hand an error to the framework's error handler. -/

namespace ComponentViews

/-- Values by name. -/
abbrev Locals := Dict Json

/-- The scopes of a framework, the least specific first. -/
structure Scopes where
  app : Locals
  request : Locals
  response : Locals

namespace Scopes

def empty : Scopes := { app := .empty, request := .empty, response := .empty }

def toList (scopes : Scopes) : List Locals := [scopes.app, scopes.request, scopes.response]

end Scopes

/-- The response side of a framework whose state has the given type. -/
structure Host (State : Type) where
  scopes : State → Scopes
  send : String → State → State
  forwardError : ViewError → State → State

/-- A framework that keeps what it is told. -/
structure BufferedHost where
  scopes : Scopes
  body : Option String
  error : Option ViewError

namespace BufferedHost

def new (scopes : Scopes) : BufferedHost := { scopes, body := none, error := none }

def send (body : String) (host : BufferedHost) : BufferedHost := { host with body := some body }

def forwardError (error : ViewError) (host : BufferedHost) : BufferedHost := { host with error := some error }

def host : Host BufferedHost := { scopes, send, forwardError }

/-- The forwarded error, or else the body that was sent. -/
def result (host : BufferedHost) : Except ViewError String :=
  match host.error with
  | some error => .error error
  | none => .ok (host.body.getD "")

end BufferedHost
end ComponentViews
