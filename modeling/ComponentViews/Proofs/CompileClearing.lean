import ComponentViews.Proofs.CompileHistory

/-! What a compiler answers from its cache when clearings come between the steps of
compilations. A clearing forgets what has been entered, but not what a compilation under
way has built and is still to enter. -/

namespace ComponentViews.Compile
open Build

/-- An operation before its first step. -/
def Operation.phase : Operation → Compiler.Phase ⊕ Unit
  | .compile job => .inl (.consulting job)
  | .clear => .inr ()

namespace Compiler

/-- A compilation or a clearing, as far as it has come. -/
abbrev Call := Progress (Phase ⊕ Unit) (Except CompileError CompiledView ⊕ Unit)

/-- Compilations and clearings on one compiler. -/
def sharing (collaborators : Collaborators) :
    Activity Compiler (Phase ⊕ Unit) (Except CompileError CompiledView ⊕ Unit) :=
  (Phase.activity collaborators).either (.atomic fun compiler => ((), compiler.clear))

/-- A step with the call that takes it and the compiler that it finds. -/
abbrev Step := Nat × (Phase ⊕ Unit) × Compiler

/-- The steps of operations on a new compiler, in the order of a schedule. -/
def history (collaborators : Collaborators) (operations : List Operation) (schedule : List Nat) : List Step :=
  (sharing collaborators).trace schedule (operations.map fun operation => .running operation.phase, .new)

/-- A call has built a module and its styles by one of some steps. -/
def Built (collaborators : Collaborators) (steps : List Step) (maker : Nat) (job : Job) (module : ModuleSource)
    (css : String) : Prop :=
  ∃ start output chunk, (maker, .inl (.building job), start) ∈ steps ∧
    collaborators.build start.journal job.request = .ok output ∧ singleChunk output.artifacts = .ok chunk ∧
    module = job.module chunk ∧ css = output.css

/-- What a call has to show for itself in its phases. -/
def Shows (collaborators : Collaborators) (steps : List Step) (caller : Nat) :
    Call → Prop
  | .running (.inl (.evaluating job module css)) => Built collaborators steps caller job module css
  | .running (.inl (.storing job compiled)) =>
    Built collaborators steps caller job compiled.component.module compiled.css
  | _ => True

/-- A view was built and then entered under a key, and no clearing has come since. -/
def Stands (collaborators : Collaborators) (steps : List Step) (key : Key) (compiled : CompiledView) : Prop :=
  ∃ earlier maker job holder later, steps = earlier ++ (maker, .inl (.storing job compiled), holder) :: later ∧
    job.options.cache ∧ job.key = key ∧ Built collaborators earlier maker job compiled.component.module compiled.css ∧
    ∀ step ∈ later, step.2.1 ≠ .inr ()

variable {collaborators : Collaborators} {steps : List Step} {job : Job} {compiler : Compiler}

theorem Built.mono {maker : Nat} {module : ModuleSource} {css : String} {more : List Step}
    (built : Built collaborators steps maker job module css) (within : steps ⊆ more) :
    Built collaborators more maker job module css := by
  obtain ⟨start, output, chunk, member, rest⟩ := built
  exact ⟨start, output, chunk, within member, rest⟩

theorem Shows.mono {caller : Nat} {call : Call} {more : List Step}
    (shows : Shows collaborators steps caller call) (within : steps ⊆ more) : Shows collaborators more caller call := by
  match call with
  | .running (.inl (.consulting _)) => trivial
  | .running (.inl (.building _)) => trivial
  | .running (.inl (.evaluating _ _ _)) => exact Built.mono shows within
  | .running (.inl (.storing _ _)) => exact Built.mono shows within
  | .running (.inr _) => trivial
  | .finished _ => trivial

theorem Stands.later {key : Key} {compiled : CompiledView} (stands : Stands collaborators steps key compiled) (caller : Nat)
    (phase : Phase) (compiler : Compiler) : Stands collaborators (steps ++ [(caller, .inl phase, compiler)]) key compiled := by
  obtain ⟨earlier, maker, job, holder, later, rfl, caches, same, built, unbroken⟩ := stands
  refine ⟨earlier, maker, job, holder, later ++ [(caller, .inl phase, compiler)], by simp, caches, same, built, ?_⟩
  intro step member
  rcases List.mem_append.mp member with old | new
  · exact unbroken step old
  · rw [List.mem_singleton.mp new]
    exact Sum.inl_ne_inr

/-- A step of a compilation has its build to show, and what it leaves in the cache was there or is entered now. -/
theorem step_shows (compiler : Compiler) {caller : Nat} {phase : Phase}
    (shows : Shows collaborators steps caller (.running (.inl phase))) :
    Shows collaborators (steps ++ [(caller, .inl phase, compiler)]) caller (phase.step collaborators compiler).1.asLeft ∧
      ∀ key compiled, (phase.step collaborators compiler).2.find? key = some compiled →
        compiler.find? key = some compiled ∨
          Stands collaborators (steps ++ [(caller, .inl phase, compiler)]) key compiled := by
  cases phase with
  | consulting job =>
    simp only [Phase.step]
    split
    · exact ⟨trivial, fun _ _ found => .inl found⟩
    · exact ⟨trivial, fun _ _ found => .inl found⟩
  | building job =>
    simp only [Phase.step, Collaborators.built]
    split
    next failure failed => exact ⟨trivial, fun _ _ found => .inl found⟩
    next output built =>
      split
      next error several => exact ⟨trivial, fun _ _ found => .inl found⟩
      next code map single =>
        refine ⟨⟨compiler, output, (code, map), by simp, built, single, rfl, rfl⟩, fun key compiled found => .inl ?_⟩
        rwa [find?, prepare_cache] at found
  | evaluating job module css =>
    simp only [Phase.step, Collaborators.evaluated]
    split
    next failure failed => exact ⟨trivial, fun _ _ found => .inl found⟩
    next component loaded =>
      refine ⟨?_, fun _ _ found => .inl found⟩
      have same : component.module = module := by
        cases evaluated : collaborators.load compiler.journal module with
        | error failure => rw [evaluated] at loaded; cases loaded
        | ok => rw [evaluated] at loaded; cases loaded; rfl
      subst same
      exact Built.mono shows (List.subset_append_left _ _)
  | storing job compiled =>
    simp only [Phase.step]
    split
    next caches =>
      refine ⟨trivial, fun key other found => ?_⟩
      rw [find?, Table.find?_insert] at found
      split at found
      next same =>
        cases found
        exact .inr ⟨steps, caller, job, compiler, [], rfl, caches, same.symm, shows, by simp⟩
      next => exact .inl found
    next => exact ⟨trivial, fun _ _ found => .inl found⟩

/-- Every call under way and every cached view has its build to show. -/
structure Accounted (collaborators : Collaborators) (steps : List Step)
    (calls : List (Call)) (compiler : Compiler) : Prop where
  calls : ∀ caller call, calls[caller]? = some call → Shows collaborators steps caller call
  cache : ∀ key compiled, compiler.find? key = some compiled → Stands collaborators steps key compiled

theorem Accounted.step {calls : List (Call)}
    (accounted : Accounted collaborators steps calls compiler) {caller : Nat} {phase : Phase ⊕ Unit}
    (found : calls[caller]? = some (.running phase)) :
    Accounted collaborators (steps ++ [(caller, phase, compiler)])
      (calls.set caller ((sharing collaborators).step phase compiler).1) ((sharing collaborators).step phase compiler).2 := by
  have next (shows : Shows collaborators (steps ++ [(caller, phase, compiler)]) caller
      ((sharing collaborators).step phase compiler).1) (index : Nat) call
      (there : (calls.set caller ((sharing collaborators).step phase compiler).1)[index]? = some call) :
      Shows collaborators (steps ++ [(caller, phase, compiler)]) index call := by
    rw [List.getElem?_set] at there
    split at there
    next same =>
      split at there
      · cases there
        exact same ▸ shows
      · cases there
    next => exact (accounted.calls index call there).mono (List.subset_append_left _ _)
  cases phase with
  | inl phase =>
    obtain ⟨shows, kept⟩ := step_shows compiler (accounted.calls caller _ found)
    have moved := (Phase.activity collaborators).either_step_inl (.atomic fun compiler => ((), compiler.clear)) phase compiler
    refine ⟨next ?_, fun key compiled cached => ?_⟩
    · rw [sharing, moved]
      exact shows
    · rw [sharing, moved] at cached
      exact (kept key compiled cached).elim (fun old => (accounted.cache key compiled old).later caller phase compiler) id
  | inr =>
    have emptied : ((sharing collaborators).step (.inr ()) compiler).2 = compiler.clear := rfl
    refine ⟨next trivial, fun key compiled cached => ?_⟩
    rw [emptied] at cached
    simp [clear, find?] at cached

/-- A view that a job is answered with was built by some steps, and entered for the job's key by some. -/
def Supplied (collaborators : Collaborators) (built entered : List Step) (job : Job) (compiled : CompiledView) : Prop :=
  ∃ maker made holder, (maker, .inl (.storing made compiled), holder) ∈ entered ∧ made.options.cache ∧ made.key = job.key ∧
    Built collaborators built maker made compiled.component.module compiled.css

/-- A view that stands after a clearing was entered after it. -/
theorem Stands.supplied {before middle : List Step} {clearing : Nat} {cleared : Compiler} {compiled : CompiledView}
    (stands : Stands collaborators (before ++ (clearing, .inr (), cleared) :: middle) job.key compiled) :
    Supplied collaborators middle middle job compiled ∨ Supplied collaborators before middle job compiled := by
  obtain ⟨earlier, maker, made, holder, later, split, caches, same, built, unbroken⟩ := stands
  rcases List.append_eq_append_iff.mp split with ⟨first, shape, rest⟩ | ⟨last, shape, rest⟩
  · -- The clearing is among the steps up to the entry.
    rcases List.cons_eq_append_iff.mp rest with ⟨rfl, impossible⟩ | ⟨between, rfl, rfl⟩
    · simp at impossible
    subst shape
    obtain ⟨start, output, chunk, member, facts⟩ := built
    have entered : (maker, Sum.inl (Phase.storing made compiled), holder) ∈
      between ++ (maker, .inl (.storing made compiled), holder) :: later := by simp
    rcases List.mem_append.mp member with old | new
    · exact .inr ⟨maker, made, holder, entered, caches, same, start, output, chunk, old, facts⟩
    · refine .inl ⟨maker, made, holder, entered, caches, same, start, output, chunk, ?_, facts⟩
      have inside : (maker, Sum.inl (Phase.building made), start) ∈ between := by simpa using new
      exact List.mem_append_left _ inside
  · -- The clearing would come after the entry.
    have clearing_later : (clearing, Sum.inr (), cleared) ∈ later := by
      rcases List.cons_eq_append_iff.mp rest with ⟨rfl, impossible⟩ | ⟨between, rfl, rfl⟩
      · simp at impossible
      · simp
    exact absurd rfl (unbroken _ clearing_later)

section
variable {operations : List Operation} {schedule : List Nat} {before middle rest : List Step} {clearing caller : Nat}
  {cleared found : Compiler} {compiled : CompiledView}

theorem accounted_history (collaborators : Collaborators) (operations : List Operation) (schedule : List Nat) :
    Accounted collaborators (history collaborators operations schedule)
      ((sharing collaborators).interleave schedule (operations.map fun operation => .running operation.phase, .new)).1
      ((sharing collaborators).interleave schedule (operations.map fun operation => .running operation.phase, .new)).2 := by
  refine (sharing collaborators).trace_induction (motive := Accounted collaborators)
    (fun steps calls state index phase before running => before.step running) schedule _ ⟨fun caller call there => ?_, ?_⟩
  · obtain ⟨operation, -, rfl⟩ := List.mem_map.mp (List.mem_of_getElem? there)
    cases operation <;> trivial
  · intro key compiled cached
    simp [new, find?] at cached

/-- A job that is looked up after a clearing and is answered from the cache gets a view that was entered since the clearing.
The view was built since then as well, or the compilation that made it was under way when the clearing came. -/
theorem answered_since_clearing (split : history collaborators operations schedule =
      before ++ (clearing, .inr (), cleared) :: (middle ++ (caller, .inl (.consulting job), found) :: rest))
    (answered : found.cached? job = some compiled) :
    Supplied collaborators middle middle job compiled ∨ Supplied collaborators before middle job compiled := by
  have split' : history collaborators operations schedule =
      (before ++ (clearing, .inr (), cleared) :: middle) ++ (caller, .inl (.consulting job), found) :: rest := by
    rw [split]
    simp
  obtain ⟨first, taken, reached⟩ := (sharing collaborators).trace_eq_append split'
  have accounted := accounted_history collaborators operations first
  rw [history, taken, reached] at accounted
  exact (accounted.cache job.key compiled (find?_of_cached? answered).2).supplied

end

/-- A compilation, a clearing, and a second compilation of the same view. -/
def recompilation : List Operation := [.compile (viewJob true), .clear, .compile (viewJob true)]

/-- The compiler after some steps of these. -/
def recompiling (schedule : List Nat) : Compiler :=
  ((sharing fallible).interleave schedule (recompilation.map fun operation => .running operation.phase, .new)).2

/-- The module that the toolchain delivers for the view. -/
def viewModule : ModuleSource := (viewJob true).module ("code", none)

def viewMade : CompiledView := { component := { module := viewModule, evaluation := 0 }, css := "" }

/-- After a clearing that came first, the second compilation is answered with what the first one has built since. -/
theorem answer_built_since_clearing : ∃ middle found,
    history fallible recompilation [1, 0, 0, 0, 0, 2] =
      [] ++ (1, .inr (), .new) :: (middle ++ (2, .inl (.consulting (viewJob true)), found) :: []) ∧
    found.cached? (viewJob true) = some viewMade ∧ Supplied fallible middle middle (viewJob true) viewMade := by
  let middle : List Step := [
    (0, .inl (.consulting (viewJob true)), recompiling [1]),
    (0, .inl (.building (viewJob true)), recompiling [1, 0]),
    (0, .inl (.evaluating (viewJob true) viewModule ""), recompiling [1, 0, 0]),
    (0, .inl (.storing (viewJob true) viewMade), recompiling [1, 0, 0, 0])]
  have split : history fallible recompilation [1, 0, 0, 0, 0, 2] =
      [] ++ (1, .inr (), .new) :: (middle ++ (2, .inl (.consulting (viewJob true)), recompiling [1, 0, 0, 0, 0]) :: []) := rfl
  have answered : (recompiling [1, 0, 0, 0, 0]).cached? (viewJob true) = some viewMade := by decide +kernel
  refine ⟨middle, recompiling [1, 0, 0, 0, 0], split, answered, (answered_since_clearing split answered).resolve_right ?_⟩
  rintro ⟨maker, made, holder, -, -, -, start, output, chunk, before, -⟩
  exact absurd before List.not_mem_nil

/-- A clearing between the build and the entry of a compilation does not keep what was built from the next compilation. -/
theorem late_entry_outlasts_clearing : ¬ ∀ (collaborators : Collaborators) (operations : List Operation) (schedule : List Nat)
    (before middle rest : List Step) (clearing caller : Nat) (cleared found : Compiler) (job : Job) (compiled : CompiledView),
    history collaborators operations schedule =
      before ++ (clearing, .inr (), cleared) :: (middle ++ (caller, .inl (.consulting job), found) :: rest) →
    found.cached? job = some compiled → ¬ Supplied collaborators before middle job compiled := by
  intro dropped
  let before : List Step := [
    (0, .inl (.consulting (viewJob true)), recompiling []),
    (0, .inl (.building (viewJob true)), recompiling [0])]
  let middle : List Step := [
    (0, .inl (.evaluating (viewJob true) viewModule ""), recompiling [0, 0, 1]),
    (0, .inl (.storing (viewJob true) viewMade), recompiling [0, 0, 1, 0])]
  refine dropped fallible recompilation [0, 0, 1, 0, 0, 2] before middle [] 1 2 (recompiling [0, 0])
    (recompiling [0, 0, 1, 0, 0]) (viewJob true) viewMade rfl (by decide +kernel) ?_
  have entered : (0, Sum.inl (Phase.storing (viewJob true) viewMade), recompiling [0, 0, 1, 0]) ∈ middle :=
    List.mem_cons_of_mem _ List.mem_cons_self
  have built : (0, Sum.inl (Phase.building (viewJob true)), recompiling [0]) ∈ before :=
    List.mem_cons_of_mem _ List.mem_cons_self
  exact ⟨0, viewJob true, _, entered, rfl, rfl, _, { artifacts := [.chunk "view.js" "code" none], css := "" }, ("code", none),
    built, rfl, rfl, rfl, rfl⟩

end Compiler
end ComponentViews.Compile
