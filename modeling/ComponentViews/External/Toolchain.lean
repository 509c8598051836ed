import ComponentViews.Build.Output
import ComponentViews.Build.Request
import ComponentViews.External.Command

/-! A toolchain that is an external program: it reads a request as JSON from its
standard input and writes the output as JSON to its standard output. -/

namespace ComponentViews.External

open Build

structure Toolchain where
  program : Path
  arguments : List String
  directory : Option Path
  deriving DecidableEq, Repr

namespace Toolchain

def command (toolchain : Toolchain) (request : Request) : Command where
  program := toolchain.program
  arguments := toolchain.arguments
  directory := toolchain.directory
  input := request.toJson.toText

/-- What a completion delivers; without one the program has not been started. -/
def outcome (toolchain : Toolchain) : Option Completion → Except Failure Output
  | none => .error (.ofSystem ("failed to spawn toolchain '" ++ toolchain.program.text ++ "'"))
  | some completion => do
    let output ← completion.outcome "toolchain"
    match (Json.Document.ofBytes? output).bind Output.decode? with
    | some output => .ok output
    | none => .error (.ofSystem "invalid toolchain output JSON")

/-- Has a request built by a run of the program. -/
def build {State : Type} (toolchain : Toolchain) (runner : Runner State) (request : Request) (state : State) :
    Except Failure Output × State :=
  let (completion, state) := runner (toolchain.command request) state
  (toolchain.outcome completion, state)

end Toolchain
end ComponentViews.External
