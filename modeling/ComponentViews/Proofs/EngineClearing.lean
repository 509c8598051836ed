import ComponentViews.Engine.Clear
import ComponentViews.Engine.Render
import ComponentViews.Proofs.ScratchReset

/-! What clearing an engine comes to. The wrappers are forgotten before the directory is
touched, the compiled views only after it is there again. -/

namespace ComponentViews.Engine
open Wrapper (Store)

theorem run_resetting (phase : Store.Reset) (engine : Engine) : Clearing.activity.run (.resetting phase) engine =
    match Store.Reset.activity.run phase engine.wrappers with
    | (.ok (), wrappers) => (.ok (), { engine with wrappers, compiler := engine.compiler.clear })
    | (.error error, wrappers) => (.error error, { engine with wrappers }) := by
  let leave (result : Except ViewError Unit) (_ : Engine) : Progress Clearing (Except ViewError Unit) :=
    match result with
    | .error error => .finished (.error error)
    | .ok () => .running .forgetting
  rw [Clearing.activity.run_inside Store.Reset.activity Engine.wrappers (fun wrappers engine => { engine with wrappers })
    .resetting leave]
  · rcases Store.Reset.activity.run phase engine.wrappers with ⟨error | done, wrappers⟩
    · rfl
    · exact Activity.run_of_finished _ rfl
  · intro phase engine
    simp only [Clearing.activity, Clearing.step, Store.Reset.activity]
    rcases phase.step engine.wrappers with ⟨next | error | done, wrappers⟩ <;> rfl
  · exact fun _ _ => rfl
  · exact fun _ _ _ => rfl

/-- Clearing from its start to its end. -/
theorem clear_eq (engine : Engine) : engine.clear =
    match engine.wrappers.reset with
    | (.ok (), wrappers) => (.ok (), { engine with wrappers, compiler := engine.compiler.clear })
    | (.error error, wrappers) => (.error error, { engine with wrappers }) := run_resetting .forgetting engine

/-- Clearing forgets everything and succeeds, or forgets nothing and fails. -/
def AllOrNothing (engine : Engine) : Prop :=
  match engine.clear with
  | (.ok (), cleared) => cleared.wrappers.memo = .empty ∧ cleared.compiler.cache = .empty
  | (.error _, cleared) => cleared.wrappers.memo = engine.wrappers.memo ∧ cleared.compiler.cache = engine.compiler.cache

theorem clear_memo (engine : Engine) : engine.clear.2.wrappers.memo = .empty := by
  have forgotten := Store.reset_memo engine.wrappers
  rw [clear_eq]
  split
  next done => rwa [done] at forgotten
  next done => rwa [done] at forgotten

theorem clear_cache (engine : Engine) :
    engine.clear.2.compiler.cache = if engine.clear.1.toBool then .empty else engine.compiler.cache := by
  rw [clear_eq]
  split <;> simp [Except.toBool, Compile.Compiler.clear]

theorem clear_succeeds (engine : Engine) : engine.clear.1.toBool = engine.wrappers.reset.1.toBool := by
  rw [clear_eq]
  split
  next done => simp [done, Except.toBool]
  next done => simp [done, Except.toBool]

theorem allOrNothing_iff (engine : Engine) :
    engine.AllOrNothing ↔ engine.clear.1.toBool ∨ engine.wrappers.memo = .empty := by
  have memo := engine.clear_memo
  have cache := engine.clear_cache
  unfold AllOrNothing
  split
  next cleared done => simp_all [Except.toBool]
  next error cleared done =>
    rw [done] at memo cache ⊢
    simp only [Except.toBool, Bool.false_eq_true, if_false, false_or] at cache ⊢
    rw [memo]
    exact ⟨fun same => same.1.symm, fun empty => ⟨empty.symm, cache⟩⟩

/-- Clearing always forgets the wrappers, and the compiled views where the directory can be removed and made again. It is
all or nothing if and only if that succeeds or there were no wrappers to forget. -/
theorem clear_outcome (engine : Engine) :
    engine.clear.2.wrappers.memo = .empty ∧
    engine.clear.2.compiler.cache = (if engine.clear.1.toBool then .empty else engine.compiler.cache) ∧
    (engine.clear.1.toBool ↔
      (engine.wrappers.files.removeTree engine.wrappers.directory).1 ≠ .error .refused ∧
        ((engine.wrappers.files.removeTree engine.wrappers.directory).2.makeDirectories engine.wrappers.directory).1.toBool) ∧
    (engine.AllOrNothing ↔ engine.clear.1.toBool ∨ engine.wrappers.memo = .empty) := by
  refine ⟨engine.clear_memo, engine.clear_cache, ?_, engine.allOrNothing_iff⟩
  rw [clear_succeeds]
  exact Store.reset_succeeds_iff engine.wrappers

/-- Files among which there is one view. -/
def oneView : FileSystem :=
  match FileSystem.makeDirectory default { text := "views" } with
  | .ok files => (files.write { text := "views/P.svelte" } (.text "") false).toOption.getD files
  | .error _ => default

/-- Collaborators that never fail. -/
def willing : Compile.Collaborators where
  build _ _ := .ok { artifacts := [.chunk "view.js" "code" (some "map")], css := "css" }
  load _ _ := .ok ()
  render _ _ _ := .ok { html := "", head := "", css := "" }

/-- A call for the one view that leaves all else to the engine. -/
def plainCall : Call where
  name := "P"
  options := {
    props := .null, globalProps := .empty, globalStore := .empty, cache := none, hydratable := none, template := none }
  scopes := .empty

/-- The engine after a regular file has taken the place of its directory. -/
def obstructed (engine : Engine) : Engine :=
  let emptied := (engine.wrappers.files.removeTree engine.wrappers.directory).2
  let files := (emptied.write engine.wrappers.directory (.text "") false).toOption.getD emptied
  { engine with wrappers := { engine.wrappers with files } }

/-- A file in the place of the directory makes clearing fail after it has forgotten the one wrapper and while it keeps
the one compiled view. -/
theorem failed_clear_forgets_wrappers : ∃ engine,
    install { Config.ofDefaults with cache := some true } none oneView = .ok engine ∧
      let rendered := (engine.render willing Store.countingToken plainCall).2
      rendered.obstructed.wrappers.memo.size = 1 ∧ rendered.obstructed.compiler.cache.size = 1 ∧
        rendered.obstructed.clear.1.toBool = false ∧ rendered.obstructed.clear.2.wrappers.memo.size = 0 ∧
        rendered.obstructed.clear.2.compiler.cache.size = 1 ∧ ¬ rendered.obstructed.AllOrNothing := by
  have facts : (install { Config.ofDefaults with cache := some true } none oneView).toOption.any (fun engine =>
      let rendered := (engine.render willing Store.countingToken plainCall).2
      decide (rendered.obstructed.wrappers.memo.size = 1 ∧ rendered.obstructed.compiler.cache.size = 1 ∧
        rendered.obstructed.clear.1.toBool = false ∧ rendered.obstructed.clear.2.wrappers.memo.size = 0 ∧
        rendered.obstructed.clear.2.compiler.cache.size = 1)) := by decide +kernel
  cases installed : install { Config.ofDefaults with cache := some true } none oneView with
  | error error => simp [installed, Except.toOption] at facts
  | ok engine =>
    simp only [installed, Except.toOption, Option.any_some, decide_eq_true_eq] at facts
    obtain ⟨wrapped, cached, failed, forgotten, kept⟩ := facts
    refine ⟨engine, rfl, wrapped, cached, failed, forgotten, kept, fun whole => ?_⟩
    rcases (allOrNothing_iff _).mp whole with succeeds | empty
    · simp [failed] at succeeds
    · simp [empty, Table.size, Table.empty] at wrapped

end ComponentViews.Engine
