import ComponentViews.Proofs.CompileOutcome
import ComponentViews.Proofs.LookupReach
import ComponentViews.Proofs.RenderProvenance

/-! What a render that runs alone comes to. The first stage to fail ends it with an error of its
own kind, no collaborator of a later stage is called, and the host is told once. -/

namespace ComponentViews

/-- What a host is told of a call. -/
inductive Notice where
  | sent (body : String)
  | forwarded (error : ViewError)

/-- What a host has to be told of a result. -/
def Notice.ofResult : Except ViewError String → Notice
  | .ok body => .sent body
  | .error error => .forwarded error

/-- A host that besides keeps what it is told, each time it is told something. -/
def Host.noting {State : Type} (host : Host State) : Host (State × List Notice) where
  scopes state := host.scopes state.1
  send body state := (host.send body state.1, state.2 ++ [.sent body])
  forwardError error state := (host.forwardError error state.1, state.2 ++ [.forwarded error])

namespace Engine
open Wrapper (Store)
open Compile (CompiledView Journal Event)

/-- The stage that an error is of. -/
def Stage.ofError : ViewError → Stage
  | .lookup _ _ => .lookup
  | .io _ => .wrap
  | .configuration _ => .wrap
  | .compile _ _ => .compile
  | .render _ _ => .render
  | .template _ => .template

/-- The view that a call is for. -/
def found? (engine : Engine) (call : Call) : Option Path :=
  View.lookup? engine.wrappers.files engine.roots call.name engine.config.extension

/-- A call has a compiled view to render, by its first three stages. -/
structure Prepares (collaborators : Compile.Collaborators) (token : Nat → String) (engine : Engine) (call : Call)
    (view wrapper : Path) (compiled : CompiledView) (calls : Journal) : Prop where
  found : engine.found? call = some view
  wrapped : (engine.wrappers.create token view).1 = .ok wrapper
  compiled : ∃ cache, engine.compiler.Ends collaborators (call.job engine.defaults wrapper) (.ok compiled) calls cache

/-- How a render that runs alone ends: the first stage that fails with its error, or the page that is sent; and the calls of
collaborators on the way there, the latest first. -/
inductive Ends (collaborators : Compile.Collaborators) (token : Nat → String) (engine : Engine) (call : Call) :
    Stage → Except ViewError String → Journal → Prop where
  | lookup (absent : engine.found? call = none) :
    Ends collaborators token engine call .lookup (.error (.lookup call.name engine.roots)) []
  | wrap {view : Path} {error : ViewError} (found : engine.found? call = some view)
    (failed : (engine.wrappers.create token view).1 = .error error) :
    Ends collaborators token engine call .wrap (.error error) []
  | compile {view wrapper : Path} {error : CompileError} {calls : Journal} {cache : Table Compile.Key CompiledView}
    (found : engine.found? call = some view) (wrapped : (engine.wrappers.create token view).1 = .ok wrapper)
    (failed : engine.compiler.Ends collaborators (call.job engine.defaults wrapper) (.error error) calls cache) :
    Ends collaborators token engine call .compile (.error (.compile wrapper error)) calls
  | render {view wrapper : Path} {compiled : CompiledView} {calls : Journal} {failure : Failure}
    (prepares : Prepares collaborators token engine call view wrapper compiled calls)
    (failed : collaborators.render (calls ++ engine.compiler.journal) compiled.component (call.context engine.globalAssets) =
      .error failure) :
    Ends collaborators token engine call .render (.error (.render call.name failure))
      (.rendered compiled.component (call.context engine.globalAssets) (.error failure) :: calls)
  | template {view wrapper : Path} {compiled : CompiledView} {calls : Journal} {output : Render.Output} {error : ViewError}
    (prepares : Prepares collaborators token engine call view wrapper compiled calls)
    (rendered : collaborators.render (calls ++ engine.compiler.journal) compiled.component (call.context engine.globalAssets) =
      .ok output)
    (failed : engine.page call view compiled.css output = .error error) :
    Ends collaborators token engine call .template (.error error)
      (.rendered compiled.component (call.context engine.globalAssets) (.ok output) :: calls)
  | send {view wrapper : Path} {compiled : CompiledView} {calls : Journal} {output : Render.Output} {body : String}
    (prepares : Prepares collaborators token engine call view wrapper compiled calls)
    (rendered : collaborators.render (calls ++ engine.compiler.journal) compiled.component (call.context engine.globalAssets) =
      .ok output)
    (filled : engine.page call view compiled.css output = .ok body) :
    Ends collaborators token engine call .send (.ok body)
      (.rendered compiled.component (call.context engine.globalAssets) (.ok output) :: calls)

/-- A call of a collaborator among those of a render: it is one of the compilation's, or the compiled component is rendered. -/
inductive CallOf (collaborators : Compile.Collaborators) (token : Nat → String) (engine : Engine) (call : Call)
    (calls : Journal) : Event → Prop where
  | compilation {view wrapper : Path} {result : Except CompileError CompiledView} {compilation : Journal}
    {cache : Table Compile.Key CompiledView} {event : Event} (found : engine.found? call = some view)
    (wrapped : (engine.wrappers.create token view).1 = .ok wrapper)
    (compiles : engine.compiler.Ends collaborators (call.job engine.defaults wrapper) result compilation cache)
    (within : compilation ⊆ calls) (member : event ∈ compilation) : CallOf collaborators token engine call calls event
  | rendering {view wrapper : Path} {compiled : CompiledView} {compilation : Journal}
    (prepares : Prepares collaborators token engine call view wrapper compiled compilation)
    (outcome : Except Failure Render.Output) :
    CallOf collaborators token engine call calls (.rendered compiled.component (call.context engine.globalAssets) outcome)

section
variable (collaborators : Compile.Collaborators) (token : Nat → String) (engine : Engine) (call : Call)

theorem run_looking (candidates : List Path) : (Rendering.activity collaborators token).run (.looking call candidates) engine =
    match candidates.find? engine.wrappers.files.isFile with
    | none => (.error (.lookup call.name engine.roots), engine)
    | some view => (Rendering.activity collaborators token).run (.wrapping call view (.checking view)) engine := by
  induction candidates with
  | nil => exact Activity.run_of_finished _ rfl
  | cons candidate rest ih =>
    cases there : engine.wrappers.files.isFile candidate with
    | true =>
      rw [List.find?_cons_of_pos there]
      exact Activity.run_of_running _ (by simp [Rendering.activity, Rendering.step, there])
    | false =>
      rw [List.find?_cons_of_neg (by simp [there]), ← ih]
      exact Activity.run_of_running _ (by simp [Rendering.activity, Rendering.step, there])

theorem run_wrapping (view : Path) (phase : Store.Creation) :
    (Rendering.activity collaborators token).run (.wrapping call view phase) engine =
      match (Store.Creation.activity token).run phase engine.wrappers with
      | (.error error, wrappers) => (.error error, { engine with wrappers })
      | (.ok wrapper, wrappers) =>
        (Rendering.activity collaborators token).run
          (.compiling call view wrapper (.consulting (call.job engine.defaults wrapper))) { engine with wrappers } := by
  let leave (result : Except ViewError Path) (engine : Engine) : Progress Rendering (Except ViewError String) :=
    match result with
    | .error error => .finished (.error error)
    | .ok wrapper => .running (.compiling call view wrapper (.consulting (call.job engine.defaults wrapper)))
  rw [(Rendering.activity collaborators token).run_inside (Store.Creation.activity token) Engine.wrappers
    (fun wrappers engine => { engine with wrappers }) (.wrapping call view) leave]
  · rcases (Store.Creation.activity token).run phase engine.wrappers with ⟨error | wrapper, wrappers⟩ <;> rfl
  · intro phase engine
    simp only [Rendering.activity, Rendering.step, Store.Creation.activity]
    rcases phase.step token engine.wrappers with ⟨next | error | wrapper, wrappers⟩ <;> rfl
  · exact fun _ _ => rfl
  · exact fun _ _ _ => rfl

theorem run_compiling (view wrapper : Path) (phase : Compile.Compiler.Phase) :
    (Rendering.activity collaborators token).run (.compiling call view wrapper phase) engine =
      match (Compile.Compiler.Phase.activity collaborators).run phase engine.compiler with
      | (.error error, compiler) => (.error (.compile wrapper error), { engine with compiler })
      | (.ok compiled, compiler) =>
        (Rendering.activity collaborators token).run (.rendering call view wrapper compiled) { engine with compiler } := by
  let leave (result : Except CompileError CompiledView) (_ : Engine) : Progress Rendering (Except ViewError String) :=
    match result with
    | .error error => .finished (.error (.compile wrapper error))
    | .ok compiled => .running (.rendering call view wrapper compiled)
  rw [(Rendering.activity collaborators token).run_inside (Compile.Compiler.Phase.activity collaborators) Engine.compiler
    (fun compiler engine => { engine with compiler }) (.compiling call view wrapper) leave]
  · rcases (Compile.Compiler.Phase.activity collaborators).run phase engine.compiler with ⟨error | compiled, compiler⟩ <;> rfl
  · intro phase engine
    simp only [Rendering.activity, Rendering.step, Compile.Compiler.Phase.activity]
    rcases phase.step collaborators engine.compiler with ⟨next | error | compiled, compiler⟩ <;> rfl
  · exact fun _ _ => rfl
  · exact fun _ _ _ => rfl

/-- The engine after a component has rendered. -/
def afterRendering (compiled : CompiledView) (outcome : Except Failure Render.Output) : Engine :=
  { engine with compiler := { engine.compiler with
    journal := .rendered compiled.component (call.context engine.globalAssets) outcome :: engine.compiler.journal } }

theorem run_rendering (view wrapper : Path) (compiled : CompiledView) :
    (Rendering.activity collaborators token).run (.rendering call view wrapper compiled) engine =
      match collaborators.render engine.compiler.journal compiled.component (call.context engine.globalAssets) with
      | .error failure => (.error (.render call.name failure), engine.afterRendering call compiled (.error failure))
      | .ok output => (engine.page call view compiled.css output, engine.afterRendering call compiled (.ok output)) := by
  split
  next failure failed =>
    exact Activity.run_of_finished _ (by
      simp [Rendering.activity, Rendering.step, Compile.Collaborators.rendered, failed, afterRendering])
  next output rendered =>
    have moved : (Rendering.activity collaborators token).step (.rendering call view wrapper compiled) engine =
        (.running (.templating call view compiled.css output), engine.afterRendering call compiled (.ok output)) := by
      simp [Rendering.activity, Rendering.step, Compile.Collaborators.rendered, rendered, afterRendering]
    rw [Activity.run_of_running _ moved]
    exact Activity.run_of_finished _ rfl

/-- A render ends in one of these ways. Its calls are what the journal gains, a failed lookup changes nothing, and up to a
failed compilation the cache stays as it was. -/
theorem render_ends : ∃ stage calls,
    Ends collaborators token engine call stage (engine.render collaborators token call).1 calls ∧
      (engine.render collaborators token call).2.compiler.journal = calls ++ engine.compiler.journal ∧
      (stage = .lookup → (engine.render collaborators token call).2 = engine) ∧
      (stage ∈ [.lookup, .wrap, .compile] →
        (engine.render collaborators token call).2.compiler.cache = engine.compiler.cache) := by
  -- Stage by stage: either the stage ends the render, or the next one takes over with its result.
  have looked : engine.render collaborators token call = _ := run_looking collaborators token engine call _
  rw [looked, ← View.lookup?_eq_find?]
  split
  next absent => exact ⟨.lookup, [], .lookup absent, rfl, fun _ => rfl, fun _ => rfl⟩
  next view found =>
    rw [run_wrapping]
    split
    next error wrappers failed =>
      exact ⟨.wrap, [], .wrap found (congrArg Prod.fst failed), rfl, by simp, fun _ => rfl⟩
    next wrapper wrappers made =>
      have wrapped : (engine.wrappers.create token view).1 = .ok wrapper := congrArg Prod.fst made
      obtain ⟨calls, ends, journal⟩ := engine.compiler.compile_ends collaborators (call.job engine.defaults wrapper)
      unfold Compile.Compiler.compile at ends journal
      rw [run_compiling]
      split
      next error compiler failed =>
        rw [failed] at ends journal
        exact ⟨.compile, calls, .compile found wrapped ends, journal, by simp, fun _ => ends.cache_of_error⟩
      next compiled compiler compiles =>
        rw [compiles] at ends journal
        have prepares : Prepares collaborators token engine call view wrapper compiled calls := ⟨found, wrapped, _, ends⟩
        have before : compiler.journal = calls ++ engine.compiler.journal := journal
        rw [run_rendering]
        split
        next failure failed =>
          refine ⟨.render, _, .render prepares (before ▸ failed), ?_, by simp, by simp⟩
          exact congrArg (List.cons _) before
        next output rendered =>
          let after : Engine := { engine with wrappers, compiler }
          have journal : (after.afterRendering call compiled (.ok output)).compiler.journal =
              .rendered compiled.component (call.context engine.globalAssets) (.ok output) :: calls ++ engine.compiler.journal :=
            congrArg (List.cons _) before
          cases page : engine.page call view compiled.css output with
          | error error =>
            exact ⟨.template, _, by exact page ▸ .template prepares (before ▸ rendered) page, journal, by simp, by simp⟩
          | ok body => exact ⟨.send, _, by exact page ▸ .send prepares (before ▸ rendered) page, journal, by simp, by simp⟩

end

theorem readSkeleton_error {store : Store} {error : ViewError} (failed : store.readSkeleton = .error error) :
    Stage.ofError error = .wrap := by
  unfold Store.readSkeleton at failed
  split at failed
  · cases failed
  split at failed
  · cases failed; rfl
  next source _ =>
    cases parsed : Wrapper.Skeleton.parse source with
    | error problem => rw [parsed] at failed; cases failed; rfl
    | ok skeleton => rw [parsed] at failed; cases failed

/-- A wrapper is only refused for a file or for the skeleton. -/
theorem create_error {token : Nat → String} {store : Store} {view : Path} {error : ViewError}
    (failed : (store.create token view).1 = .error error) : Stage.ofError error = .wrap := by
  refine (Store.Creation.activity token).run_ends (fun result => ∀ error, result = .error error → Stage.ofError error = .wrap)
    ?_ (.checking view) store error failed
  intro phase store result store' taken error refused
  subst refused
  change phase.step token store = _ at taken
  cases phase with
  | checking source => simp only [Store.Creation.step] at taken; grind
  | loading source =>
    simp only [Store.Creation.step] at taken
    split at taken
    · cases taken
    · split at taken
      · cases taken
      next unread => cases taken; exact readSkeleton_error unread
  | writing source skeleton => simp only [Store.Creation.step] at taken; grind [Stage.ofError]
  | claiming source own => simp only [Store.Creation.step] at taken; grind
  | discarding own winner => simp only [Store.Creation.step] at taken; grind

/-- A page is only refused for the template of the call. -/
theorem page_error {engine : Engine} {call : Call} {view : Path} {collected : String} {output : Render.Output}
    {error : ViewError} (failed : engine.page call view collected output = .error error) : Stage.ofError error = .template := by
  simp only [page, bind, Except.bind, pure, Except.pure] at failed
  split at failed
  · cases failed
  next source _ =>
    cases parsed : Page.Template.parse source with
    | error problem => rw [parsed] at failed; cases failed; rfl
    | ok template => rw [parsed] at failed; cases failed

namespace Ends
variable {collaborators : Compile.Collaborators} {token : Nat → String} {engine : Engine} {call : Call} {stage : Stage}
  {result : Except ViewError String} {calls : Journal}

theorem stage_of_error {error : ViewError} (ends : Ends collaborators token engine call stage (.error error) calls) :
    Stage.ofError error = stage := by
  cases ends with
  | lookup => rfl
  | wrap found failed => exact create_error failed
  | compile => rfl
  | render => rfl
  | template prepares rendered failed => exact page_error failed

theorem stage_of_ok {body : String} (ends : Ends collaborators token engine call stage (.ok body) calls) : stage = .send := by
  cases ends
  rfl

theorem mem_calls (ends : Ends collaborators token engine call stage result calls) {event : Event} (member : event ∈ calls) :
    CallOf collaborators token engine call calls event := by
  have rendering {view wrapper : Path} {compiled : CompiledView} {compilation : Journal} {outcome : Except Failure Render.Output}
      (prepares : Prepares collaborators token engine call view wrapper compiled compilation)
      (shape : calls = .rendered compiled.component (call.context engine.globalAssets) outcome :: compilation) :
      CallOf collaborators token engine call calls event := by
    subst shape
    obtain ⟨cache, compiles⟩ := prepares.compiled
    rcases List.mem_cons.mp member with rfl | member
    · exact .rendering prepares outcome
    · exact .compilation prepares.found prepares.wrapped compiles (List.subset_cons_self _ _) member
  cases ends with
  | lookup => cases member
  | wrap => cases member
  | compile found wrapped failed => exact .compilation found wrapped failed (List.Subset.refl _) member
  | render prepares failed => exact rendering prepares rfl
  | template prepares rendered failed => exact rendering prepares rfl
  | send prepares rendered filled => exact rendering prepares rfl

end Ends

/-- What the end of a render comes with: the error is of the stage that failed, no collaborator of a later stage was called,
and what the failed stage has no part in is as it was. -/
structure Settles (collaborators : Compile.Collaborators) (token : Nat → String) (engine : Engine) (call : Call) (stage : Stage)
    (result : Except ViewError String) (calls : Journal) (after : Engine) : Prop where
  ends : Ends collaborators token engine call stage result calls
  journal : after.compiler.journal = calls ++ engine.compiler.journal
  failed : ∀ error, result = .error error → Stage.ofError error = stage
  sent : ∀ body, result = .ok body → stage = .send
  builds : ∀ request outcome, .built request outcome ∈ calls → ∃ view wrapper, engine.found? call = some view ∧
    (engine.wrappers.create token view).1 = .ok wrapper ∧ request = .server (call.buildOptions engine.defaults) wrapper
  evaluates : ∀ module outcome, .evaluated module outcome ∈ calls → ∃ request output fileName code map,
    .built request (.ok output) ∈ calls ∧ output.artifacts = [.chunk fileName code map]
  renders : ∀ component context outcome, .rendered component context outcome ∈ calls → ∃ view wrapper compiled,
    engine.found? call = some view ∧ (engine.wrappers.create token view).1 = .ok wrapper ∧
      (engine.compiler.compile collaborators (call.job engine.defaults wrapper)).1 = .ok compiled ∧
      component = compiled.component
  unfound : stage = .lookup → after = engine
  uncompiled : stage ∈ [.lookup, .wrap, .compile] → after.compiler.cache = engine.compiler.cache

theorem render_settles (collaborators : Compile.Collaborators) (token : Nat → String) (engine : Engine) (call : Call) :
    ∃ stage calls, Settles collaborators token engine call stage (engine.render collaborators token call).1 calls
      (engine.render collaborators token call).2 := by
  obtain ⟨stage, calls, ends, journal, unfound, uncompiled⟩ := render_ends collaborators token engine call
  refine ⟨stage, calls, {
    ends, journal, unfound, uncompiled
    failed := fun error failed => (failed ▸ ends).stage_of_error
    sent := fun body sent => (sent ▸ ends).stage_of_ok
    builds := fun request outcome member => ?_
    evaluates := fun module outcome member => ?_
    renders := fun component context outcome member => ?_ }⟩
  · cases ends.mem_calls member with
    | compilation found wrapped compiles within member =>
      cases compiles.mem_calls member
      exact ⟨_, _, found, wrapped, rfl⟩
  · cases ends.mem_calls member with
    | compilation found wrapped compiles within member =>
      cases compiles.mem_calls member with
      | evaluation outcome built single => exact ⟨_, _, _, _, _, within built, single⟩
  · cases ends.mem_calls member with
    | compilation found wrapped compiles within member => cases compiles.mem_calls member
    | rendering prepares outcome =>
      obtain ⟨cache, compiles⟩ := prepares.compiled
      exact ⟨_, _, _, prepares.found, prepares.wrapped, compiles.result_eq, rfl⟩

/-- A render for any host settles, and the host is told of it once: it is sent the page or handed the error. From a new
buffered host the result of the render can be had. -/
theorem renderView_settles {State : Type} (collaborators : Compile.Collaborators) (token : Nat → String) (engine : Engine)
    (host : Host State) (name : String) (options : RenderOptions) (state : State) (notices : List Notice) (scopes : Scopes) :
    (∃ stage calls result after,
      Settles collaborators token engine { name, options, scopes := host.scopes state } stage result calls after ∧
      engine.renderView collaborators token host.noting name options (state, notices) =
        (((engine.renderView collaborators token host name options state).1, notices ++ [.ofResult result]), after) ∧
      (engine.renderView collaborators token host name options state).2 = after) ∧
    (engine.renderView collaborators token BufferedHost.host name options (.new scopes)).1.result =
      (engine.render collaborators token { name, options, scopes }).1 := by
  constructor
  · obtain ⟨stage, calls, settles⟩ := render_settles collaborators token engine { name, options, scopes := host.scopes state }
    refine ⟨stage, calls, _, _, settles, ?_⟩
    simp only [renderView, Host.noting]
    rcases engine.render collaborators token { name, options, scopes := host.scopes state } with ⟨error | body, after⟩
    · exact ⟨rfl, rfl⟩
    · exact ⟨rfl, rfl⟩
  · have unspoken : BufferedHost.host.scopes (.new scopes) = scopes := rfl
    simp only [renderView, unspoken]
    rcases engine.render collaborators token { name, options, scopes } with ⟨error | body, after⟩
    · rfl
    · rfl

end Engine
end ComponentViews
