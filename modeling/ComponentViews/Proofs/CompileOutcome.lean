import ComponentViews.Proofs.CompileProvenance
import ComponentViews.Proofs.Interleaving

/-! What a compilation that runs alone comes to. The first of its parts to fail ends it, with
no call of a collaborator after that and the cache as it was. -/

namespace ComponentViews.Compile
open Build

/-- What a job has evaluated of the chunk that its build delivered. -/
def Job.module (job : Job) (chunk : String × Option String) : ModuleSource :=
  { path := job.path, code := job.code chunk.1 chunk.2, format := job.request.format }

namespace Compiler

/-- The view that a job is answered with from the cache. -/
def cached? (compiler : Compiler) (job : Job) : Option CompiledView :=
  if job.options.cache then compiler.find? job.key else none

/-- The first job in development tells the evaluator of source maps. -/
def announcement (compiler : Compiler) (dev : Bool) : Journal :=
  if dev ∧ !compiler.sourceMaps then [.sourceMapsInstalled] else []

/-- The cache with the view of a job that caches. -/
def stored (compiler : Compiler) (job : Job) (compiled : CompiledView) : Table Key CompiledView :=
  if job.options.cache then compiler.cache.insert job.key compiled else compiler.cache

/-- The compiler once a build has been found fit and the evaluator knows of source maps. -/
def fitted (compiler : Compiler) (job : Job) (output : Output) : Compiler :=
  { compiler with
    sourceMaps := compiler.sourceMaps || job.options.dev
    journal := compiler.announcement job.options.dev ++ .built job.request (.ok output) :: compiler.journal }

/-- How a compilation that runs alone ends: what it gives, the calls of collaborators that it makes, the latest first,
and the cache that it leaves. -/
inductive Ends (collaborators : Collaborators) (job : Job) (compiler : Compiler) :
    Except CompileError CompiledView → Journal → Table Key CompiledView → Prop where
  | found {compiled : CompiledView} (cached : compiler.cached? job = some compiled) :
    Ends collaborators job compiler (.ok compiled) [] compiler.cache
  | unbuilt {failure : Failure} (missed : compiler.cached? job = none)
    (failed : collaborators.build compiler.journal job.request = .error failure) :
    Ends collaborators job compiler (.error (.toolchain failure)) [.built job.request (.error failure)] compiler.cache
  | unfit {output : Output} {error : CompileError} (missed : compiler.cached? job = none)
    (built : collaborators.build compiler.journal job.request = .ok output)
    (several : singleChunk output.artifacts = .error error) :
    Ends collaborators job compiler (.error error) [.built job.request (.ok output)] compiler.cache
  | unloaded {output : Output} {chunk : String × Option String} {failure : Failure} (missed : compiler.cached? job = none)
    (built : collaborators.build compiler.journal job.request = .ok output)
    (single : singleChunk output.artifacts = .ok chunk)
    (failed : collaborators.load (compiler.fitted job output).journal (job.module chunk) = .error failure) :
    Ends collaborators job compiler (.error (.evaluate failure))
      (.evaluated (job.module chunk) (.error failure) ::
        (compiler.announcement job.options.dev ++ [.built job.request (.ok output)])) compiler.cache
  | made {output : Output} {chunk : String × Option String} {component : Component} (missed : compiler.cached? job = none)
    (built : collaborators.build compiler.journal job.request = .ok output)
    (single : singleChunk output.artifacts = .ok chunk)
    (loaded : collaborators.load (compiler.fitted job output).journal (job.module chunk) = .ok ())
    (numbered : component =
      { module := job.module chunk, evaluation := compiler.journal.countP Event.isEvaluation }) :
    Ends collaborators job compiler (.ok { component, css := output.css })
      (.evaluated (job.module chunk) (.ok component) ::
        (compiler.announcement job.options.dev ++ [.built job.request (.ok output)]))
      (compiler.stored job { component, css := output.css })

/-- A call among those of a compilation: it builds the job's request, and what it evaluates is the one chunk that a build
delivered. -/
inductive CallOf (job : Job) (calls : Journal) : Event → Prop where
  | build (outcome : Except Failure Output) : CallOf job calls (.built job.request outcome)
  | installation : CallOf job calls .sourceMapsInstalled
  | evaluation {output : Output} {fileName code : String} {map : Option String} (outcome : Except Failure Component)
    (built : .built job.request (.ok output) ∈ calls) (single : output.artifacts = [.chunk fileName code map]) :
    CallOf job calls (.evaluated (job.module (code, map)) outcome)

theorem prepare_eq_fitted (compiler : Compiler) (job : Job) (output : Output) :
    { compiler with journal := .built job.request (.ok output) :: compiler.journal }.prepare job.options.dev =
      compiler.fitted job output := by
  cases dev : job.options.dev <;> cases known : compiler.sourceMaps <;> simp [prepare, fitted, announcement, dev, known]

/-- Neither a build nor source maps are evaluations. -/
theorem fitted_evaluations (compiler : Compiler) (job : Job) (output : Output) :
    (compiler.fitted job output).journal.countP Event.isEvaluation = compiler.journal.countP Event.isEvaluation := by
  simp only [fitted, announcement, List.countP_append]
  split <;> simp [Event.isEvaluation]

section
variable (collaborators : Collaborators) (job : Job) (compiler : Compiler)

theorem run_storing (compiled : CompiledView) : (Phase.activity collaborators).run (.storing job compiled) compiler =
    (.ok compiled, { compiler with cache := compiler.stored job compiled }) := by
  refine Activity.run_of_finished _ ?_
  simp only [Phase.activity, Phase.step, stored]
  split <;> rfl

theorem run_evaluating (module : ModuleSource) (css : String) :
    (Phase.activity collaborators).run (.evaluating job module css) compiler =
      match collaborators.load compiler.journal module with
      | .error failure =>
        (.error (.evaluate failure), { compiler with journal := .evaluated module (.error failure) :: compiler.journal })
      | .ok () =>
        let component : Component := { module, evaluation := compiler.journal.countP Event.isEvaluation }
        (.ok { component, css }, { compiler with
          journal := .evaluated module (.ok component) :: compiler.journal, cache := compiler.stored job { component, css } }) := by
  split
  next failure refused =>
    exact Activity.run_of_finished _ (by simp [Phase.activity, Phase.step, Collaborators.evaluated, refused, Except.map])
  next loaded =>
    let component : Component := { module, evaluation := compiler.journal.countP Event.isEvaluation }
    have moved : (Phase.activity collaborators).step (.evaluating job module css) compiler =
        (.running (.storing job { component, css }),
          { compiler with journal := .evaluated module (.ok component) :: compiler.journal }) := by
      simp [Phase.activity, Phase.step, Collaborators.evaluated, loaded, Except.map, component]
    rw [Activity.run_of_running _ moved]
    exact run_storing ..

theorem run_building : (Phase.activity collaborators).run (.building job) compiler =
    match collaborators.build compiler.journal job.request with
    | .error failure =>
      (.error (.toolchain failure), { compiler with journal := .built job.request (.error failure) :: compiler.journal })
    | .ok output =>
      match singleChunk output.artifacts with
      | .error error => (.error error, { compiler with journal := .built job.request (.ok output) :: compiler.journal })
      | .ok chunk =>
        (Phase.activity collaborators).run (.evaluating job (job.module chunk) output.css) (compiler.fitted job output) := by
  split
  next failure failed =>
    exact Activity.run_of_finished _ (by simp [Phase.activity, Phase.step, Collaborators.built, failed])
  next output delivered =>
    split
    next error several =>
      exact Activity.run_of_finished _ (by simp [Phase.activity, Phase.step, Collaborators.built, delivered, several])
    next chunk single =>
      exact Activity.run_of_running _ (by
        simp [Phase.activity, Phase.step, Collaborators.built, delivered, single, Job.module, prepare_eq_fitted])

theorem compile_eq : compiler.compile collaborators job =
    match compiler.cached? job with
    | some compiled => (.ok compiled, compiler)
    | none => (Phase.activity collaborators).run (.building job) compiler := by
  unfold compile
  split
  next compiled cached =>
    unfold cached? at cached
    exact Activity.run_of_finished _ (by simp only [Phase.activity, Phase.step, cached])
  next missed =>
    unfold cached? at missed
    exact Activity.run_of_running _ (by simp only [Phase.activity, Phase.step, missed])

theorem compile_of_cached {collaborators : Collaborators} {job : Job} {compiler : Compiler} {compiled : CompiledView}
    (cached : compiler.cached? job = some compiled) : compiler.compile collaborators job = (.ok compiled, compiler) := by
  rw [compile_eq, cached]

/-- A compilation ends in one of these ways, and its calls are what the journal gains. -/
theorem compile_ends : ∃ calls,
    Ends collaborators job compiler (compiler.compile collaborators job).1 calls (compiler.compile collaborators job).2.cache ∧
      (compiler.compile collaborators job).2.journal = calls ++ compiler.journal := by
  rw [compile_eq]
  split
  next compiled cached => exact ⟨[], .found cached, rfl⟩
  next missed =>
    rw [run_building]
    split
    next failure failed => exact ⟨_, .unbuilt missed failed, rfl⟩
    next output built =>
      split
      next error several => exact ⟨_, .unfit missed built several, rfl⟩
      next chunk single =>
        have journal : (compiler.fitted job output).journal =
            compiler.announcement job.options.dev ++ [.built job.request (.ok output)] ++ compiler.journal := by simp [fitted]
        rw [run_evaluating]
        split
        next failure failed =>
          exact ⟨_, .unloaded missed built single failed, congrArg (List.cons _) journal⟩
        next loaded =>
          rw [fitted_evaluations]
          exact ⟨_, .made missed built single loaded rfl, congrArg (List.cons _) journal⟩

/-- A job that does not cache compiles the same whatever the cache holds, and leaves it alone. -/
theorem compile_uncached (uncached : job.options.cache = false) (cache : Table Key CompiledView) :
    { compiler with cache }.compile collaborators job =
      ((compiler.compile collaborators job).1, { (compiler.compile collaborators job).2 with cache }) := by
  have missed : ∀ other : Compiler, other.cached? job = none := fun other => by simp [cached?, uncached]
  rw [compile_eq, compile_eq, missed, missed]
  rw [run_building, run_building]
  cases built : collaborators.build compiler.journal job.request with
  | error failure => rfl
  | ok output =>
    simp only
    cases single : singleChunk output.artifacts with
    | error error => rfl
    | ok chunk =>
      have journal : ({ compiler with cache }.fitted job output).journal = (compiler.fitted job output).journal := rfl
      simp only
      rw [run_evaluating, run_evaluating, journal]
      cases collaborators.load (compiler.fitted job output).journal (job.module chunk) with
      | error failure => rfl
      | ok => simp [stored, uncached, fitted]

end

namespace Ends
variable {collaborators : Collaborators} {job : Job} {compiler : Compiler} {result : Except CompileError CompiledView}
  {calls : Journal} {cache : Table Key CompiledView}

theorem cache_of_error {error : CompileError} (ends : Ends collaborators job compiler (.error error) calls cache) :
    cache = compiler.cache := by
  cases ends <;> rfl

theorem missed_of_error {error : CompileError} (ends : Ends collaborators job compiler (.error error) calls cache) :
    compiler.cached? job = none := by
  cases ends <;> assumption

/-- The ways to end exclude each other. -/
theorem result_eq (ends : Ends collaborators job compiler result calls cache) :
    (compiler.compile collaborators job).1 = result := by
  rw [compile_eq]
  cases ends with
  | found cached => rw [cached]
  | unbuilt missed failed => rw [missed, run_building, failed]
  | unfit missed built several => simp only [missed, run_building, built, several]
  | unloaded missed built single failed => simp only [missed, run_building, built, single, run_evaluating, failed]
  | made missed built single loaded numbered =>
    simp only [missed, run_building, built, single, run_evaluating, loaded, fitted_evaluations, numbered]

theorem announcement_calls (compiler : Compiler) (dev : Bool) {event : Event} (member : event ∈ compiler.announcement dev) :
    event = .sourceMapsInstalled := by
  unfold announcement at member
  split at member
  · exact List.mem_singleton.mp member
  · cases member

theorem builds (ends : Ends collaborators job compiler result calls cache) :
    calls.countP Event.isBuild = if (compiler.cached? job).isSome then 0 else 1 := by
  have quiet : (compiler.announcement job.options.dev).countP Event.isBuild = 0 :=
    List.countP_eq_zero.mpr fun event member => by simp [announcement_calls compiler _ member, Event.isBuild]
  cases ends with
  | found cached => simp [cached]
  | unbuilt missed failed => simp [missed, Event.isBuild]
  | unfit missed built several => simp [missed, Event.isBuild]
  | unloaded missed built single failed => simp [missed, quiet, Event.isBuild]
  | made missed built single loaded numbered => simp [missed, quiet, Event.isBuild]

theorem mem_calls (ends : Ends collaborators job compiler result calls cache) {event : Event} (member : event ∈ calls) :
    CallOf job calls event := by
  have evaluating {output : Output} {chunk : String × Option String} {outcome : Except Failure Component}
      (single : singleChunk output.artifacts = .ok chunk)
      (shape : calls = .evaluated (job.module chunk) outcome ::
        (compiler.announcement job.options.dev ++ [.built job.request (.ok output)])) : CallOf job calls event := by
    obtain ⟨fileName, artifacts⟩ := singleChunk_eq_ok single
    subst shape
    rcases List.mem_cons.mp member with rfl | member
    · exact .evaluation outcome (by simp) artifacts
    rcases (List.mem_append.mp member).imp_right List.mem_singleton.mp with announced | built
    · exact announcement_calls compiler _ announced ▸ .installation
    · cases built; exact .build _
  cases ends with
  | found cached => cases member
  | unbuilt missed failed => cases List.mem_singleton.mp member; exact .build _
  | unfit missed built several => cases List.mem_singleton.mp member; exact .build _
  | unloaded missed built single failed => exact evaluating single rfl
  | made missed built single loaded numbered => exact evaluating single rfl

end Ends
end Compiler
end ComponentViews.Compile
