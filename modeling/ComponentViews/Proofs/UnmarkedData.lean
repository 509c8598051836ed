import ComponentViews.Engine.Render
import ComponentViews.Proofs.EngineClearing
import ComponentViews.Proofs.Interleaving
import ComponentViews.Proofs.MarkedGlobals

/-! Unmarked data of a host stays with the host. Two calls that differ in their scopes, but
not in what the merges of globals take from them, go through the same steps side by side. -/

namespace ComponentViews

/-- Two calls are equally far: both running, in related phases, or both finished with one result. -/
def Progress.Related {Phase Result : Type} (related : Phase → Phase → Prop) :
    Progress Phase Result → Progress Phase Result → Prop
  | .running left, .running right => related left right
  | .finished left, .finished right => left = right
  | _, _ => False

/-- Where steps from related phases lead to related phases and one state, related runs end alike. -/
theorem Activity.run_eq_of_related {State Phase Result : Type} {activity : Activity State Phase Result}
    {related : Phase → Phase → Prop} (consistent : ∀ {left right}, related left right → ∀ state,
      (activity.step left state).1.Related related (activity.step right state).1 ∧
        (activity.step left state).2 = (activity.step right state).2)
    {left right : Phase} (start : related left right) (state : State) :
    activity.run left state = activity.run right state := by
  induction bound : activity.remaining left using Nat.strongRecOn generalizing left right state with
  | ind _ ih =>
    obtain ⟨ends, same⟩ := consistent start state
    rcases taken : activity.step left state with ⟨next | result, after⟩ <;>
      rcases taken' : activity.step right state with ⟨next' | result', after'⟩ <;>
        rw [taken, taken'] at ends same
    · cases same
      rw [activity.run_of_running taken, activity.run_of_running taken']
      exact ih _ (bound ▸ activity.decreases taken) ends after rfl
    · exact ends.elim
    · exact ends.elim
    · cases same
      rw [activity.run_of_finished taken, activity.run_of_finished taken', ends]

namespace Engine
open Render (Globals.Alike)
open Wrapper (Store)

/-- Two calls give a component and a template the same. -/
structure Call.Alike (left right : Call) : Prop where
  name : left.name = right.name
  options : left.options = right.options
  context : left.context = right.context

/-- Two calls are in one phase with the same data, whatever they leave of their scopes. -/
inductive Rendering.Alike : Rendering → Rendering → Prop where
  | looking {left right : Call} (alike : left.Alike right) (candidates : List Path) :
    Alike (.looking left candidates) (.looking right candidates)
  | wrapping {left right : Call} (alike : left.Alike right) (view : Path) (phase : Wrapper.Store.Creation) :
    Alike (.wrapping left view phase) (.wrapping right view phase)
  | compiling {left right : Call} (alike : left.Alike right) (view wrapper : Path) (phase : Compile.Compiler.Phase) :
    Alike (.compiling left view wrapper phase) (.compiling right view wrapper phase)
  | rendering {left right : Call} (alike : left.Alike right) (view wrapper : Path) (compiled : Compile.CompiledView) :
    Alike (.rendering left view wrapper compiled) (.rendering right view wrapper compiled)
  | templating {left right : Call} (alike : left.Alike right) (view : Path) (collected : String) (output : Render.Output) :
    Alike (.templating left view collected output) (.templating right view collected output)

theorem Call.Alike.buildOptions {left right : Call} (alike : left.Alike right) (defaults : Build.Options) :
    left.buildOptions defaults = right.buildOptions defaults := by
  simp only [Call.buildOptions, alike.options]

theorem page_eq {left right : Call} (alike : left.Alike right) (engine : Engine) (view : Path) (collected : String)
    (output : Render.Output) : engine.page left view collected output = engine.page right view collected output := by
  simp only [page, alike.buildOptions, alike.options, alike.context]

/-- A step does not tell the two calls apart. -/
theorem Rendering.Alike.step {left right : Rendering} (alike : left.Alike right)
    (collaborators : Compile.Collaborators) (token : Nat → String) (engine : Engine) :
    (left.step collaborators token engine).1.Related Rendering.Alike (right.step collaborators token engine).1 ∧
      (left.step collaborators token engine).2 = (right.step collaborators token engine).2 := by
  cases alike with
  | looking alike candidates =>
    cases candidates with
    | nil => exact ⟨by simp [Rendering.step, Progress.Related, alike.name], rfl⟩
    | cons candidate rest =>
      simp only [Rendering.step]
      split
      · exact ⟨.wrapping alike .., rfl⟩
      · exact ⟨.looking alike .., rfl⟩
  | wrapping alike view phase =>
    simp only [Rendering.step]
    split
    · exact ⟨.wrapping alike .., rfl⟩
    · exact ⟨rfl, rfl⟩
    · rw [alike.buildOptions]
      exact ⟨.compiling alike .., rfl⟩
  | compiling alike view wrapper phase =>
    simp only [Rendering.step]
    split
    · exact ⟨.compiling alike .., rfl⟩
    · exact ⟨rfl, rfl⟩
    · exact ⟨.rendering alike .., rfl⟩
  | rendering alike view wrapper compiled =>
    simp only [Rendering.step, alike.context, alike.name]
    split
    · exact ⟨rfl, rfl⟩
    · exact ⟨.templating alike .., rfl⟩
  | templating alike view collected output => exact ⟨page_eq alike .., rfl⟩

/-- What hosts hold unmarked does not show. Where the scopes agree on what is marked under the keys for props and store,
a call gives the component the same context, has the same result and leaves the same engine. -/
theorem render_eq_of_alike (collaborators : Compile.Collaborators) (token : Nat → String) (engine : Engine) (name : String)
    {options : RenderOptions} {left right : Scopes}
    (props : Globals.Alike Render.Globals.propsKey options.globalProps left right)
    (store : Globals.Alike Render.Globals.storeKey options.globalStore left right) :
    (∀ assets, (Call.mk name options left).context assets = (Call.mk name options right).context assets) ∧
      engine.render collaborators token { name, options, scopes := left } =
        engine.render collaborators token { name, options, scopes := right } := by
  have alike : (Call.mk name options left).Alike (Call.mk name options right) := {
    name := rfl
    options := rfl
    context := by
      funext assets
      simp only [Call.context, Render.Globals.merge_eq props, Render.Globals.merge_eq store] }
  have start : (Rendering.start engine ⟨name, options, left⟩).Alike (.start engine ⟨name, options, right⟩) :=
    .looking alike _
  refine ⟨congrFun alike.context, Activity.run_eq_of_related ?_ start engine⟩
  exact fun alike engine => alike.step collaborators token engine

/-- Scopes with a marked user, and further values of the application beside it. -/
def scopesWith (unmarked : List (String × Json)) : Scopes where
  app := .ofList [
    (Render.Globals.propsKey, .object (unmarked ++ [("user", .text "ada"), ("$serialized", .array [.text "user"])])),
    ("settings", .object unmarked)]
  request := .ofList [(Render.Globals.propsKey, .text "none")]
  response := .empty

/-- A call that brings a language of its own. -/
def languageOptions : RenderOptions := { plainCall.options with globalProps := .ofList [("lang", .text "en")] }

/-- What the application holds of a host's visitor, not to be shown. -/
def visitor : List (String × Json) := [("token", .text "5cd0a7e1"), ("lang", .text "fr")]

/-- A token that nobody marks does not show, nor does a language of the host where the call brings its own. -/
theorem token_does_not_show : ∃ engine, install Config.ofDefaults none oneView = .ok engine ∧
    engine.render willing Store.countingToken { name := "P", options := languageOptions, scopes := scopesWith visitor } =
      engine.render willing Store.countingToken { name := "P", options := languageOptions, scopes := scopesWith [] } := by
  have user : Render.Globals.marked Render.Globals.propsKey (scopesWith visitor) = ["user"] := by decide +kernel
  have user' : Render.Globals.marked Render.Globals.propsKey (scopesWith []) = ["user"] := by decide +kernel
  have props : Globals.Alike Render.Globals.propsKey languageOptions.globalProps (scopesWith visitor) (scopesWith []) := {
    marked := by simp [user, user']
    values := by
      intro name listed
      obtain rfl : name = "user" := by simpa [user, show Render.Globals.marks languageOptions.globalProps = [] from rfl] using listed
      rfl }
  have nobody : Render.Globals.marked Render.Globals.storeKey (scopesWith visitor) = [] := by decide +kernel
  have nobody' : Render.Globals.marked Render.Globals.storeKey (scopesWith []) = [] := by decide +kernel
  have store : Globals.Alike Render.Globals.storeKey languageOptions.globalStore (scopesWith visitor) (scopesWith []) := {
    marked := by simp [nobody, nobody']
    values := by
      intro name listed
      simp [nobody, show Render.Globals.marks languageOptions.globalStore = [] from rfl] at listed }
  have succeeds : (install Config.ofDefaults none oneView).toBool := by decide +kernel
  cases installed : install Config.ofDefaults none oneView with
  | error error => simp [installed, Except.toBool] at succeeds
  | ok engine => exact ⟨engine, rfl, (render_eq_of_alike willing Store.countingToken engine "P" props store).2⟩

end Engine
end ComponentViews
