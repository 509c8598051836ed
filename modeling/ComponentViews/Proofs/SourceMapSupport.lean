import ComponentViews.Proofs.CompileClearing

/-! When the evaluator is told of source maps. The first compilation in development whose build
delivers a single chunk tells it, and the compiler remembers that through clearings, so the
evaluator is told once, and before anything is evaluated in development. -/

namespace ComponentViews.Compile.Compiler
open Build

/-- In a step a compilation in development gets past the check for a single chunk. -/
def Passes (collaborators : Collaborators) : Phase ⊕ Unit → Compiler → Prop
  | .inl (.building job), compiler => job.options.dev ∧ ∃ output chunk,
      collaborators.build compiler.journal job.request = .ok output ∧ singleChunk output.artifacts = .ok chunk
  | _, _ => False

/-- What a step adds to the calls of collaborators: it tells of source maps where it is the first one to pass, and the
compiler remembers that it has. -/
structure Tells (collaborators : Collaborators) (phase : Phase ⊕ Unit) (before after : Compiler) (next : Call) : Prop where
  grows : ∃ calls, after.journal = calls ++ before.journal ∧
    calls.countP Event.isInstallation + before.sourceMaps.toNat = after.sourceMaps.toNat
  remembers : after.sourceMaps ↔ before.sourceMaps ∨ Passes collaborators phase before
  ready : ∀ job module css, next = .running (.inl (.evaluating job module css)) → job.options.dev → after.sourceMaps

variable {collaborators : Collaborators} {steps : List Step} {compiler : Compiler}

/-- A step that makes one call of another kind, or none, leaves it at what the evaluator knows. -/
theorem Tells.quiet {phase : Phase ⊕ Unit} {after : Compiler} {next : Call} (calls : Journal)
    (journal : after.journal = calls ++ compiler.journal) (others : ∀ event ∈ calls, event.isInstallation = false)
    (same : after.sourceMaps = compiler.sourceMaps) (stays : ¬ Passes collaborators phase compiler)
    (leaves : ∀ job module css, next ≠ .running (.inl (.evaluating job module css))) :
    Tells collaborators phase compiler after next := by
  have none : calls.countP Event.isInstallation = 0 := List.countP_eq_zero.mpr fun event member => by simp [others event member]
  refine ⟨⟨calls, journal, by rw [none, same, Nat.zero_add]⟩, ?_, fun job module css evaluates => ?_⟩
  · rw [same, or_iff_left stays]
  · exact absurd evaluates (leaves job module css)

theorem building_tells (job : Job) (compiler : Compiler) :
    Tells collaborators (.inl (.building job)) compiler (Phase.step collaborators (.building job) compiler).2
      (Phase.step collaborators (.building job) compiler).1.asLeft := by
  simp only [Phase.step, Collaborators.built]
  cases delivered : collaborators.build compiler.journal job.request with
  | error failure =>
    refine .quiet [.built job.request (.error failure)] rfl (by simp [Event.isInstallation]) rfl ?_ (fun _ _ _ next => by cases next)
    rintro ⟨-, output, chunk, delivers, -⟩
    cases delivered.symm.trans delivers
  | ok output =>
    simp only
    cases single : singleChunk output.artifacts with
    | error error =>
      refine .quiet [.built job.request (.ok output)] rfl (by simp [Event.isInstallation]) rfl ?_ (fun _ _ _ next => by cases next)
      rintro ⟨-, output', chunk, delivers, single'⟩
      cases delivered.symm.trans delivers
      cases single.symm.trans single'
    | ok chunk =>
      have passes : Passes collaborators (.inl (.building job)) compiler ↔ job.options.dev = true :=
        ⟨fun passed => passed.1, fun dev => ⟨dev, output, chunk, delivered, single⟩⟩
      simp only [prepare_eq_fitted]
      refine ⟨⟨compiler.announcement job.options.dev ++ [.built job.request (.ok output)], by simp [fitted], ?_⟩, ?_, ?_⟩
      · cases dev : job.options.dev <;> cases known : compiler.sourceMaps <;>
          simp [fitted, announcement, dev, known, List.countP_cons, Event.isInstallation]
      · rw [passes]
        simp [fitted]
      · rintro job' module css next dev
        cases next
        simp [fitted, dev]

theorem step_tells (collaborators : Collaborators) (phase : Phase ⊕ Unit) (compiler : Compiler) :
    Tells collaborators phase compiler ((sharing collaborators).step phase compiler).2
      ((sharing collaborators).step phase compiler).1 := by
  cases phase with
  | inr => exact .quiet [] rfl (by simp) rfl id fun _ _ _ next => by cases next
  | inl phase =>
    rw [sharing, Activity.either_step_inl]
    change Tells collaborators (.inl phase) compiler (phase.step collaborators compiler).2
      (phase.step collaborators compiler).1.asLeft
    cases phase with
    | consulting job =>
      simp only [Phase.step]
      split
      · exact .quiet [] rfl (by simp) rfl id fun _ _ _ next => by cases next
      · exact .quiet [] rfl (by simp) rfl id fun _ _ _ next => by cases next
    | building job => exact building_tells job compiler
    | evaluating job module css =>
      simp only [Phase.step, Collaborators.evaluated]
      split
      · exact .quiet [_] rfl (by simp [Event.isInstallation]) rfl id fun _ _ _ next => by cases next
      · exact .quiet [_] rfl (by simp [Event.isInstallation]) rfl id fun _ _ _ next => by cases next
    | storing job compiled =>
      simp only [Phase.step]
      split
      · exact .quiet [] rfl (by simp) rfl id fun _ _ _ next => by cases next
      · exact .quiet [] rfl (by simp) rfl id fun _ _ _ next => by cases next

/-- The evaluator has been told once or not yet, by the first step that passed, and whatever waits for its evaluation in
development waits for it with source maps. -/
structure Announced (collaborators : Collaborators) (steps : List Step) (calls : List Call) (compiler : Compiler) : Prop where
  told : compiler.journal.countP Event.isInstallation = compiler.sourceMaps.toNat
  known : compiler.sourceMaps ↔ ∃ step ∈ steps, Passes collaborators step.2.1 step.2.2
  waiting : ∀ job module css, .running (.inl (.evaluating job module css)) ∈ calls → job.options.dev → compiler.sourceMaps
  evaluated : ∀ caller job module css found, (caller, .inl (.evaluating job module css), found) ∈ steps → job.options.dev →
    .sourceMapsInstalled ∈ found.journal
  grown : ∀ step ∈ steps, step.2.2.journal <:+ compiler.journal

theorem mem_journal_iff {calls : List Call} (announced : Announced collaborators steps calls compiler) :
    .sourceMapsInstalled ∈ compiler.journal ↔ compiler.sourceMaps := by
  have counted : 0 < compiler.journal.countP Event.isInstallation ↔ .sourceMapsInstalled ∈ compiler.journal := by
    rw [List.countP_pos_iff]
    constructor
    · rintro ⟨event, member, installs⟩
      cases event <;> simp_all [Event.isInstallation]
    · exact fun member => ⟨_, member, rfl⟩
  rw [← counted, announced.told]
  cases compiler.sourceMaps <;> simp

theorem Announced.step {calls : List Call} (announced : Announced collaborators steps calls compiler) {caller : Nat}
    {phase : Phase ⊕ Unit} (found : calls[caller]? = some (.running phase)) :
    Announced collaborators (steps ++ [(caller, phase, compiler)])
      (calls.set caller ((sharing collaborators).step phase compiler).1) ((sharing collaborators).step phase compiler).2 := by
  obtain ⟨⟨made, journal, count⟩, remembers, ready⟩ := step_tells collaborators phase compiler
  generalize ((sharing collaborators).step phase compiler).2 = after at *
  generalize ((sharing collaborators).step phase compiler).1 = next at *
  refine ⟨?_, ?_, ?_, ?_, ?_⟩
  · rw [journal, List.countP_append, announced.told, count]
  · simp [remembers, announced.known, or_and_right, exists_or]
  · intro job module css member dev
    rcases List.mem_or_eq_of_mem_set member with old | new
    · exact remembers.mpr (.inl (announced.waiting job module css old dev))
    · exact ready job module css new.symm dev
  · intro caller' job module css holder member dev
    rcases List.mem_append.mp member with old | new
    · exact announced.evaluated caller' job module css holder old dev
    · cases List.mem_singleton.mp new
      exact (mem_journal_iff announced).mpr (announced.waiting job module css (List.mem_of_getElem? found) dev)
  · intro step member
    have before : compiler.journal <:+ after.journal := journal ▸ List.suffix_append _ _
    rcases List.mem_append.mp member with old | new
    · exact (announced.grown step old).trans before
    · rw [List.mem_singleton.mp new]
      exact before

section
variable (collaborators : Collaborators) (operations : List Operation) (schedule : List Nat)

/-- The compiler that operations leave when they start on a new one and step in the order of a schedule. -/
def afterwards : Compiler :=
  ((sharing collaborators).interleave schedule (operations.map fun operation => .running operation.phase, .new)).2

theorem announced_history : ∃ calls, Announced collaborators (history collaborators operations schedule) calls
    (afterwards collaborators operations schedule) := by
  refine ⟨_, (sharing collaborators).trace_induction (motive := Announced collaborators)
    (fun steps calls state index phase before running => before.step running) schedule _ ?_⟩
  refine ⟨rfl, by simp [new], fun job module css member => ?_, by simp, by simp⟩
  obtain ⟨operation, -, start⟩ := List.mem_map.mp member
  cases operation <;> cases start

/-- However compilations and clearings are interleaved, the evaluator is told of source maps at most once; before every
evaluation in development; only when, and as soon as, a compilation in development has got past the check for a single
chunk; and not again after a clearing. -/
theorem source_maps_in_time :
    (afterwards collaborators operations schedule).journal.countP Event.isInstallation ≤ 1 ∧
    (∀ caller job module css found,
      (caller, .inl (.evaluating job module css), found) ∈ history collaborators operations schedule →
        job.options.dev → .sourceMapsInstalled ∈ found.journal) ∧
    (.sourceMapsInstalled ∈ (afterwards collaborators operations schedule).journal ↔
      ∃ step ∈ history collaborators operations schedule, Passes collaborators step.2.1 step.2.2) ∧
    ∀ clearing cleared, (clearing, .inr (), cleared) ∈ history collaborators operations schedule →
      ∃ later, (afterwards collaborators operations schedule).journal = later ++ cleared.journal ∧
        (.sourceMapsInstalled ∈ cleared.journal → .sourceMapsInstalled ∉ later) := by
  obtain ⟨calls, announced⟩ := announced_history collaborators operations schedule
  have once : (afterwards collaborators operations schedule).journal.countP Event.isInstallation ≤ 1 := by
    rw [announced.told]
    exact Bool.toNat_le _
  refine ⟨once, announced.evaluated, (mem_journal_iff announced).trans announced.known, fun clearing cleared member => ?_⟩
  obtain ⟨later, journal⟩ : cleared.journal <:+ _ := announced.grown _ member
  refine ⟨later, journal.symm, fun told again => ?_⟩
  have first : 0 < cleared.journal.countP Event.isInstallation := List.countP_pos_iff.mpr ⟨_, told, rfl⟩
  have second : 0 < later.countP Event.isInstallation := List.countP_pos_iff.mpr ⟨_, again, rfl⟩
  rw [← journal, List.countP_append] at once
  omega

end
end ComponentViews.Compile.Compiler
