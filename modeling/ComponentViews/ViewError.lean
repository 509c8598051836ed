import ComponentViews.Failure
import ComponentViews.Path
import ComponentViews.Text.Unprintable

/-! The engine's errors, each named for its cause. Codes and messages are
functions of the cause; a collaborator's own code wins over the one of the stage
that failed. -/

namespace ComponentViews

/-- Why a wrapped view has no compiled form. -/
inductive CompileError where
  | toolchain (failure : Failure)
  | outputLength (count : Nat)
  | outputType (fileName : String)
  | evaluate (failure : Failure)
  deriving DecidableEq, Repr

namespace CompileError

def code? : CompileError → Option String
  | .toolchain failure => failure.code?
  | .evaluate failure => failure.code?
  | .outputLength _ => some "SVELTE_VIEW_COMPILE_OUTPUT_INVALID_LENGTH"
  | .outputType _ => some "SVELTE_VIEW_COMPILE_OUTPUT_INVALID_TYPE"

def message : CompileError → String
  | .toolchain failure => "Toolchain failed: " ++ failure.message
  | .outputLength count =>
    "Invalid compile output. Generated " ++ toString count ++ " chunks or assets, expected exactly one"
  | .outputType fileName => "Invalid compile output. Generated an asset instead of a chunk: " ++ fileName
  | .evaluate failure => "Failed to evaluate compiled module: " ++ failure.message

/-- The texts of the causes below the error, outermost first. -/
def causes : CompileError → List String
  | .toolchain failure => failure.messages
  | .evaluate failure => failure.messages
  | .outputLength _ => []
  | .outputType _ => []

end CompileError

/-- What is wrong with a configuration. -/
inductive Misconfiguration where
  | patternWithoutName (pattern : String)
  | patternWithoutExtension (pattern : String)
  | patternInvalid (pattern : String)
  | slotMissing (slot : String)
  | slotRepeated (slot : String)
  | unreadable
  | stated (text : String)
  deriving DecidableEq, Repr

def Misconfiguration.message : Misconfiguration → String
  | .patternWithoutName pattern => "Bundles pattern '" ++ pattern ++ "' must contain [name]"
  | .patternWithoutExtension pattern => "Bundles pattern '" ++ pattern ++ "' must end with [extname]"
  | .patternInvalid pattern => "Bundles pattern '" ++ pattern ++ "' is invalid"
  | .slotMissing slot => "Wrapper template has no " ++ slot ++ " slot"
  | .slotRepeated slot => "Wrapper template has more than one " ++ slot ++ " slot"
  | .unreadable => "Invalid view engine config"
  | .stated text => text

/-- What is wrong with a page template. -/
inductive TemplateProblem where
  | noHtmlPlaceholder
  | stated (text : String)
  deriving DecidableEq, Repr

def TemplateProblem.message : TemplateProblem → String
  | .noHtmlPlaceholder => "template has no $\x7bhtml\x7d placeholder"
  | .stated text => text

/-- Why a view is not rendered, or an engine not installed. -/
inductive ViewError where
  | lookup (name : String) (roots : List Path)
  | compile (path : Path) (source : CompileError)
  | render (view : String) (source : Failure)
  | configuration (problem : Misconfiguration)
  | io (path : Path)
  | template (problem : TemplateProblem)
  deriving DecidableEq, Repr

namespace ViewError

/-- The stable code for an error handler. -/
def code : ViewError → String
  | .lookup _ _ => "SVELTE_VIEW_LOOKUP"
  | .compile _ source => source.code?.getD "SVELTE_VIEW_COMPILE"
  | .render _ source => source.code?.getD "SVELTE_VIEW_RENDER"
  | .configuration _ => "SVELTE_VIEW_CONFIGURATION"
  | .io _ => "SVELTE_VIEW_IO"
  | .template _ => "SVELTE_VIEW_TEMPLATE"

def message : ViewError → String
  | .lookup name roots =>
    "Failed to lookup view \"" ++ name ++ "\" in views directories " ++
      Text.Unprintable.quoteList (roots.map Path.text)
  | .compile path source => "Failed to compile view " ++ path.text ++ ": " ++ source.message
  | .render view source => "Failed to render view \"" ++ view ++ "\": " ++ source.message
  | .configuration problem => "Configuration error: " ++ problem.message
  | .io path => "IO error at " ++ path.text
  | .template problem => "Template error: " ++ problem.message

/-- The texts of the causes below the error, outermost first. -/
def causes : ViewError → List String
  | .compile _ source => source.message :: source.causes
  | .render _ source => source.messages
  | _ => []

end ViewError
end ComponentViews
