import ComponentViews.Host

/-! Global values for views. Under one key every scope may hold an object, and the
call brings a further one. More specific objects override less specific ones
name by name, and only marked names get through: those that some object lists
under the key for marks, and those that the call itself brings. -/

namespace ComponentViews.Render.Globals

/-- Under this name an object lists the names that it marks. -/
def marksKey : String := "$serialized"

def propsKey : String := "globalProps"
def storeKey : String := "globalStore"

/-- The objects that scopes hold under a key, the least specific first. -/
def candidates (key : String) (scopes : Scopes) : List Locals :=
  scopes.toList.filterMap fun scope => (scope.get? key).bind Json.fields?

/-- The names that an object marks. -/
def marks (candidate : Locals) : List String :=
  match candidate.get? marksKey with
  | some (.array names) => names.filterMap Json.text?
  | _ => []

/-- The marked entries of the candidates and the call, the most specific ones winning. -/
def merge (key : String) (scopes : Scopes) (call : Locals) : Locals :=
  let layers := candidates key scopes ++ [call]
  let marked := layers.flatMap marks ++ call.keys
  let kept (name : String) : Bool := name ≠ marksKey ∧ name ∈ marked
  layers.foldl (fun merged layer => merged.overlay (layer.filter kept)) .empty

end ComponentViews.Render.Globals
