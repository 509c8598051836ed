import ComponentViews.Engine.Install

/-! Clearing an engine: the wrappers are reset, and if that succeeds the compiled
views are forgotten. Like rendering it is an activity, so that it may run
between the steps of other calls. -/

namespace ComponentViews.Engine

inductive Clearing where
  | resetting (phase : Wrapper.Store.Reset)
  | forgetting

namespace Clearing

def step : Clearing → Engine → Progress Clearing (Except ViewError Unit) × Engine
  | .resetting phase, engine =>
    let (progress, wrappers) := phase.step engine.wrappers
    let engine := { engine with wrappers }
    match progress with
    | .running phase => (.running (.resetting phase), engine)
    | .finished (.error error) => (.finished (.error error), engine)
    | .finished (.ok ()) => (.running .forgetting, engine)
  | .forgetting, engine => (.finished (.ok ()), { engine with compiler := engine.compiler.clear })

def remaining : Clearing → Nat
  | .resetting phase => phase.remaining + 1
  | .forgetting => 0

theorem remaining_step {phase next : Clearing} {engine engine' : Engine}
    (taken : step phase engine = (.running next, engine')) : next.remaining < phase.remaining := by
  cases phase with
  | resetting phase =>
    simp only [step] at taken
    split at taken
    next inner moved =>
      have less := Wrapper.Store.Reset.remaining_step (Prod.ext moved rfl)
      grind [remaining]
    · simp at taken
    · grind [remaining]
  | forgetting => simp [step] at taken

def activity : Activity Engine Clearing (Except ViewError Unit) where
  step := step
  remaining := remaining
  decreases := remaining_step

end Clearing

/-- Forgets every wrapper and every compiled view. -/
def clear (engine : Engine) : Except ViewError Unit × Engine := Clearing.activity.run (.resetting .forgetting) engine

end ComponentViews.Engine
