import ComponentViews.ViewError

/-! The errors below an error, down to the root cause. A code is searched for in this chain from its outer
end; contexts carry none, so a collaborator's code is found through however many of them. -/

namespace ComponentViews

def RootCause.text? : RootCause → Option String
  | .message text => some text
  | .coded _ text => some text
  | .system => none

def RootCause.code? : RootCause → Option String
  | .coded code _ => some code
  | _ => none

/-- One error of a chain. -/
inductive ChainLink where
  | compile (source : CompileError)
  | context (text : String)
  | cause (root : RootCause)

namespace ChainLink

def text? : ChainLink → Option String
  | .compile source => some source.message
  | .context text => some text
  | .cause root => root.text?

/-- The code that a link carries itself. Only what is wrong with an output has one without a collaborator. -/
def code? : ChainLink → Option String
  | .compile (.outputLength _) => some "SVELTE_VIEW_COMPILE_OUTPUT_INVALID_LENGTH"
  | .compile (.outputType _) => some "SVELTE_VIEW_COMPILE_OUTPUT_INVALID_TYPE"
  | .cause root => root.code?
  | _ => none

theorem filterMap_text?_context (contexts : List String) : (contexts.map ChainLink.context).filterMap text? = contexts := by
  induction contexts with
  | nil => rfl
  | cons context contexts ih => rw [List.map_cons, List.filterMap_cons_some (by rfl), ih]

theorem findSome?_code?_context (contexts : List String) : (contexts.map ChainLink.context).findSome? code? = none := by
  rw [List.findSome?_eq_none_iff]
  intro link member
  obtain ⟨context, -, rfl⟩ := List.mem_map.mp member
  rfl

end ChainLink

namespace Failure

/-- The errors of a failure, outermost first. -/
def chain (failure : Failure) : List ChainLink := failure.contexts.map .context ++ [.cause failure.root]

/-- A failure in further contexts, the first of the list put around it first. -/
def wrapped (failure : Failure) (contexts : List String) : Failure := contexts.foldl within failure

theorem messages_eq_root (failure : Failure) : failure.messages = failure.contexts ++ failure.root.text?.toList := by
  rw [messages]
  cases failure.root <;> rfl

theorem code?_eq_root (failure : Failure) : failure.code? = failure.root.code? := by
  rw [code?]
  cases failure.root <;> rfl

theorem messages_eq (failure : Failure) : failure.messages = failure.chain.filterMap ChainLink.text? := by
  rw [chain, List.filterMap_append, ChainLink.filterMap_text?_context, messages_eq_root]
  cases failure.root <;> rfl

theorem code?_eq (failure : Failure) : failure.code? = failure.chain.findSome? ChainLink.code? := by
  rw [chain, List.findSome?_append, ChainLink.findSome?_code?_context, code?_eq_root]
  cases failure.root <;> rfl

theorem chain_within (failure : Failure) (context : String) :
    (failure.within context).chain = .context context :: failure.chain := rfl

theorem chain_wrapped (failure : Failure) (contexts : List String) :
    (failure.wrapped contexts).chain = contexts.reverse.map .context ++ failure.chain := by
  induction contexts generalizing failure with
  | nil => rfl
  | cons context contexts ih =>
    calc ((failure.within context).wrapped contexts).chain
      _ = contexts.reverse.map .context ++ (failure.within context).chain := ih (failure.within context)
      _ = (context :: contexts).reverse.map .context ++ failure.chain := by
        rw [chain_within, List.reverse_cons, List.map_append, List.append_assoc]
        rfl

theorem code?_wrapped (failure : Failure) (contexts : List String) : (failure.wrapped contexts).code? = failure.code? := by
  rw [code?_eq, chain_wrapped, List.findSome?_append, ChainLink.findSome?_code?_context, Option.none_or, ← code?_eq]

theorem messages_wrapped (failure : Failure) (contexts : List String) :
    (failure.wrapped contexts).messages = contexts.reverse ++ failure.messages := by
  rw [messages_eq, chain_wrapped, List.filterMap_append, ChainLink.filterMap_text?_context, ← messages_eq]

theorem code?_eq_some_iff {failure : Failure} {code : String} :
    failure.code? = some code ↔ ∃ text, failure.root = .coded code text := by
  rw [code?_eq_root]
  cases failure.root <;> simp [RootCause.code?]

end Failure

/-- The errors below a compile error, outermost first. -/
def CompileError.chain : CompileError → List ChainLink
  | .toolchain failure => failure.chain
  | .evaluate failure => failure.chain
  | .outputLength _ => []
  | .outputType _ => []

theorem CompileError.causes_eq (error : CompileError) : error.causes = error.chain.filterMap ChainLink.text? := by
  cases error with
  | toolchain failure => exact failure.messages_eq
  | evaluate failure => exact failure.messages_eq
  | outputLength count => rfl
  | outputType fileName => rfl

/-- A compile error has the first code of the chain that starts with itself. -/
theorem CompileError.code?_eq (error : CompileError) :
    error.code? = (ChainLink.compile error :: error.chain).findSome? ChainLink.code? := by
  cases error with
  | toolchain failure => exact failure.code?_eq
  | evaluate failure => exact failure.code?_eq
  | outputLength count => rfl
  | outputType fileName => rfl

namespace ViewError

/-- The errors below an error, outermost first. -/
def chain : ViewError → List ChainLink
  | .compile _ source => .compile source :: source.chain
  | .render _ source => source.chain
  | .io _ => [.cause .system]
  | _ => []

/-- The code of an error below which no code is found. -/
def defaultCode : ViewError → String
  | .lookup _ _ => "SVELTE_VIEW_LOOKUP"
  | .compile _ _ => "SVELTE_VIEW_COMPILE"
  | .render _ _ => "SVELTE_VIEW_RENDER"
  | .configuration _ => "SVELTE_VIEW_CONFIGURATION"
  | .io _ => "SVELTE_VIEW_IO"
  | .template _ => "SVELTE_VIEW_TEMPLATE"

theorem causes_eq (error : ViewError) : error.causes = error.chain.filterMap ChainLink.text? := by
  cases error with
  | compile path source =>
    rw [causes, CompileError.causes_eq]
    rfl
  | render view source => exact source.messages_eq
  | lookup name roots => rfl
  | configuration problem => rfl
  | io path => rfl
  | template problem => rfl

theorem code_eq (error : ViewError) : error.code = (error.chain.findSome? ChainLink.code?).getD error.defaultCode := by
  cases error with
  | compile path source =>
    rw [code, CompileError.code?_eq]
    rfl
  | render view source =>
    rw [code, Failure.code?_eq]
    rfl
  | lookup name roots => rfl
  | configuration problem => rfl
  | io path => rfl
  | template problem => rfl

end ViewError

/-- Whose failures become errors of a view. -/
inductive Collaborator where
  | toolchain (path : Path)
  | evaluator (path : Path)
  | component (view : String)

namespace Collaborator

/-- The error that a failure becomes. -/
def error : Collaborator → Failure → ViewError
  | .toolchain path, failure => .compile path (.toolchain failure)
  | .evaluator path, failure => .compile path (.evaluate failure)
  | .component view, failure => .render view failure

/-- The code of the stage that a collaborator is called in. -/
def stageCode : Collaborator → String
  | .toolchain _ => "SVELTE_VIEW_COMPILE"
  | .evaluator _ => "SVELTE_VIEW_COMPILE"
  | .component _ => "SVELTE_VIEW_RENDER"

/-- What stands between the error and the failure. -/
def above : Collaborator → Failure → List ChainLink
  | .toolchain _, failure => [.compile (.toolchain failure)]
  | .evaluator _, failure => [.compile (.evaluate failure)]
  | .component _, _ => []

variable (origin : Collaborator) (failure : Failure)

theorem chain_error : (origin.error failure).chain = origin.above failure ++ failure.chain := by cases origin <;> rfl

theorem findSome?_code?_above : (origin.above failure).findSome? ChainLink.code? = none := by cases origin <;> rfl

theorem defaultCode_error : (origin.error failure).defaultCode = origin.stageCode := by cases origin <;> rfl

theorem code_error : (origin.error failure).code = failure.code?.getD origin.stageCode := by
  rw [ViewError.code_eq, chain_error, List.findSome?_append, findSome?_code?_above, Option.none_or, ← Failure.code?_eq,
    defaultCode_error]

theorem causes_error : (origin.error failure).causes =
    (origin.above failure).filterMap ChainLink.text? ++ failure.messages := by
  rw [ViewError.causes_eq, chain_error, List.filterMap_append, ← Failure.messages_eq]

/-- However many contexts a failure is wrapped in, it has the code that is attached to its root cause and no other, and so
has the error that it becomes, or else the code of the stage. Below this error stand the compile error, where there is one,
the contexts from the last to the first, and the failure as it was. -/
theorem wrapping_keeps_code_and_causes (contexts : List String) :
    (∀ code, (failure.wrapped contexts).code? = some code ↔ ∃ text, failure.root = .coded code text) ∧
      (origin.error (failure.wrapped contexts)).code = failure.root.code?.getD origin.stageCode ∧
      (origin.error (failure.wrapped contexts)).chain = origin.above (failure.wrapped contexts) ++
        contexts.reverse.map .context ++ failure.contexts.map .context ++ [.cause failure.root] ∧
      (origin.error (failure.wrapped contexts)).causes = (origin.above (failure.wrapped contexts)).filterMap ChainLink.text? ++
        contexts.reverse ++ failure.contexts ++ failure.root.text?.toList := by
  refine ⟨?_, ?_, ?_, ?_⟩
  · intro code
    rw [Failure.code?_wrapped]
    exact Failure.code?_eq_some_iff
  · rw [code_error, Failure.code?_wrapped, Failure.code?_eq_root]
  · rw [chain_error, Failure.chain_wrapped, Failure.chain, List.append_assoc, List.append_assoc]
  · rw [causes_error, Failure.messages_wrapped, Failure.messages_eq_root, List.append_assoc, List.append_assoc]

end Collaborator
end ComponentViews
