import ComponentViews.Compile.Compiler

/-! Where compiled views come from. The cache key holds little of a job, so an entry is
only as good as the build that made it, which the journal remembers. -/

namespace ComponentViews.Compile

open Build

/-- A build of a job has succeeded, and the module and styles are what it delivered. -/
def Delivered (job : Job) (module : ModuleSource) (css : String) (journal : Journal) : Prop :=
  ∃ output fileName code map, .built job.request (.ok output) ∈ journal ∧
    output.artifacts = [.chunk fileName code map] ∧ css = output.css ∧
    module = { path := job.path, code := job.code code map, format := job.request.format }

/-- Which job each evaluation was for, by the cache key of the job. -/
abbrev Makers := List (Nat × Key)

/-- A compiled view was evaluated for a job, after a build of the job, from the one chunk that the build delivered. -/
def MadeFor (makers : Makers) (job : Job) (compiled : CompiledView) (journal : Journal) : Prop :=
  (compiled.component.evaluation, job.key) ∈ makers ∧ ∃ output fileName code map,
    [.evaluated compiled.component.module (.ok compiled.component), .built job.request (.ok output)].Sublist journal ∧
    output.artifacts = [.chunk fileName code map] ∧ compiled.css = output.css ∧
    compiled.component.module = { path := job.path, code := job.code code map, format := job.request.format }

theorem Delivered.mono {job : Job} {module : ModuleSource} {css : String} {before after : Journal}
    (delivered : Delivered job module css before) (grows : before.Sublist after) : Delivered job module css after := by
  obtain ⟨output, fileName, code, map, built, rest⟩ := delivered
  exact ⟨output, fileName, code, map, grows.subset built, rest⟩

theorem MadeFor.mono {makers more : Makers} {job : Job} {compiled : CompiledView} {before after : Journal}
    (made : MadeFor makers job compiled before) (within : makers ⊆ more) (grows : before.Sublist after) :
    MadeFor more job compiled after := by
  obtain ⟨member, output, fileName, code, map, calls, rest⟩ := made
  exact ⟨within member, output, fileName, code, map, calls.trans grows, rest⟩

/-- Two jobs that no collaborator can tell apart: they differ at most in whether they cache. -/
def Job.Alike (first second : Job) : Prop :=
  first.path = second.path ∧ { first.options with cache := second.options.cache } = second.options

theorem Job.Alike.request {first second : Job} (alike : first.Alike second) : first.request = second.request := by
  rw [Job.request, Job.request, ← alike.2, alike.1]
  rfl

theorem Job.Alike.code {first second : Job} (alike : first.Alike second) (code : String) (map : Option String) :
    first.code code map = second.code code map := by
  have dev : first.options.dev = second.options.dev := by rw [← alike.2]
  simp only [Job.code, dev]

theorem Job.Alike.key {first second : Job} (alike : first.Alike second) : first.key = second.key := by
  rw [Job.key, Job.key, ← alike.2, alike.1]

theorem MadeFor.alike {makers : Makers} {first second : Job} {compiled : CompiledView} {journal : Journal}
    (made : MadeFor makers first compiled journal) (alike : first.Alike second) : MadeFor makers second compiled journal := by
  obtain ⟨member, output, fileName, code, map, calls, artifacts, css, module⟩ := made
  rw [alike.request] at calls module
  rw [alike.code, alike.1] at module
  exact ⟨alike.key ▸ member, output, fileName, code, map, calls, artifacts, css, module⟩

/-- Evaluations are numbered, each number used once. -/
structure Counted (makers : Makers) (journal : Journal) : Prop where
  distinct : (makers.map Prod.fst).Nodup
  before : ∀ maker ∈ makers, maker.1 < journal.countP Event.isEvaluation

theorem Counted.mono {makers : Makers} {before after : Journal} (counted : Counted makers before)
    (grows : before.Sublist after) : Counted makers after :=
  ⟨counted.distinct, fun maker member => Nat.lt_of_lt_of_le (counted.before maker member) grows.countP_le⟩

namespace Compiler

/-- Every entry of the cache was made for a job of its key, among given jobs. -/
def Provided (jobs : Job → Prop) (makers : Makers) (compiler : Compiler) : Prop :=
  ∀ key compiled, compiler.find? key = some compiled →
    ∃ job, jobs job ∧ job.key = key ∧ MadeFor makers job compiled compiler.journal

/-- The evaluation that a step makes. -/
def Phase.makes : Phase → Compiler → Makers
  | .evaluating job _ _, compiler => [(compiler.journal.countP Event.isEvaluation, job.key)]
  | _, _ => []

/-- What a compilation of a job has to show for itself in its phases. -/
def Phase.Sound (makers : Makers) (job : Job) (journal : Journal) : Phase → Prop
  | .consulting own => own = job
  | .building own => own = job
  | .evaluating own module css => own = job ∧ Delivered job module css journal
  | .storing own compiled => own = job ∧ MadeFor makers job compiled journal

/-- What a compilation has to show for itself when it goes on or ends. -/
def Achieved (makers : Makers) (job : Job) (journal : Journal) : Progress Phase (Except CompileError CompiledView) → Prop
  | .running phase => phase.Sound makers job journal
  | .finished (.ok compiled) => MadeFor makers job compiled journal
  | .finished (.error _) => True

variable {jobs : Job → Prop} {makers more : Makers} {job : Job} {compiler compiler' : Compiler}

theorem Phase.Sound.mono {phase : Phase} {before after : Journal} (sound : phase.Sound makers job before)
    (within : makers ⊆ more) (grows : before.Sublist after) : phase.Sound more job after := by
  cases phase with
  | consulting => exact sound
  | building => exact sound
  | evaluating => exact ⟨sound.1, sound.2.mono grows⟩
  | storing => exact ⟨sound.1, sound.2.mono within grows⟩

theorem Provided.mono {wider : Job → Prop} (provided : Provided jobs makers compiler) (within : ∀ job, jobs job → wider job) :
    Provided wider makers compiler := by
  intro key compiled found
  obtain ⟨job, known, rest⟩ := provided key compiled found
  exact ⟨job, within job known, rest⟩

theorem Provided.journal (provided : Provided jobs makers compiler) (within : makers ⊆ more)
    (cache : compiler'.cache = compiler.cache) (grows : compiler.journal.Sublist compiler'.journal) :
    Provided jobs more compiler' := by
  intro key compiled found
  rw [find?, cache] at found
  obtain ⟨job, known, same, made⟩ := provided key compiled found
  exact ⟨job, known, same, made.mono within grows⟩

theorem Provided.of_empty (empty : compiler.cache = .empty) : Provided jobs makers compiler := by
  intro key compiled found
  simp [find?, empty] at found

theorem singleChunk_eq_ok {artifacts : List Artifact} {code : String} {map : Option String}
    (single : singleChunk artifacts = .ok (code, map)) : ∃ fileName, artifacts = [.chunk fileName code map] := by
  unfold singleChunk at single
  split at single <;> cases single
  exact ⟨_, rfl⟩

theorem prepare_cache (compiler : Compiler) (dev : Bool) : (compiler.prepare dev).cache = compiler.cache := by
  unfold prepare
  split <;> rfl

theorem prepare_journal (compiler : Compiler) (dev : Bool) : compiler.journal.Sublist (compiler.prepare dev).journal := by
  unfold prepare
  split
  · exact List.sublist_cons_self _ _
  · exact List.Sublist.refl _

/-- What a step of a compilation keeps of the provenance of the cache and adds for its own job. -/
structure Provides (jobs : Job → Prop) (makers : Makers) (job : Job) (before after : Compiler)
    (next : Progress Phase (Except CompileError CompiledView)) : Prop where
  provided : Provided jobs makers after
  counted : Counted makers after.journal
  grows : before.journal.Sublist after.journal
  achieved : Achieved makers job after.journal next

theorem Provides.quiet {next : Progress Phase (Except CompileError CompiledView)} (provided : Provided jobs makers compiler)
    (counted : Counted makers compiler.journal) (cache : compiler'.cache = compiler.cache)
    (grows : compiler.journal.Sublist compiler'.journal) (achieved : Achieved makers job compiler'.journal next) :
    Provides jobs makers job compiler compiler' next :=
  ⟨provided.journal (List.Subset.refl _) cache grows, counted.mono grows, grows, achieved⟩

section
variable (collaborators : Collaborators)

theorem consulting_provides (provided : Provided jobs makers compiler) (counted : Counted makers compiler.journal)
    (alike : ∀ other, jobs other → other.key = job.key → other.Alike job) :
    Provides jobs makers job compiler (Phase.step collaborators (.consulting job) compiler).2
      (Phase.step collaborators (.consulting job) compiler).1 := by
  simp only [Phase.step]
  split
  next compiled found =>
    have cached : compiler.find? job.key = some compiled := by
      split at found
      · exact found
      · cases found
    obtain ⟨other, known, same, made⟩ := provided _ compiled cached
    exact .quiet provided counted rfl (List.Sublist.refl _) (made.alike (alike other known same))
  next => exact .quiet provided counted rfl (List.Sublist.refl _) rfl

theorem building_provides (provided : Provided jobs makers compiler) (counted : Counted makers compiler.journal) :
    Provides jobs makers job compiler (Phase.step collaborators (.building job) compiler).2
      (Phase.step collaborators (.building job) compiler).1 := by
  simp only [Phase.step, Collaborators.built]
  have grown := List.sublist_cons_self (.built job.request (collaborators.build compiler.journal job.request))
    compiler.journal
  cases answer : collaborators.build compiler.journal job.request with
  | error failure =>
    rw [answer] at grown
    exact .quiet provided counted rfl grown trivial
  | ok output =>
    rw [answer] at grown
    simp only
    cases single : singleChunk output.artifacts with
    | error error => exact .quiet provided counted rfl grown trivial
    | ok chunk =>
      obtain ⟨fileName, shape⟩ := singleChunk_eq_ok single
      have prepared := prepare_journal { compiler with journal := .built job.request (.ok output) :: compiler.journal }
        job.options.dev
      refine .quiet provided counted (prepare_cache _ _) (grown.trans prepared) ⟨rfl, ?_⟩
      exact ⟨output, fileName, chunk.1, chunk.2, prepared.subset List.mem_cons_self, shape, rfl, rfl⟩

/-- An evaluation gets a number that none had before. -/
theorem evaluating_provides {module : ModuleSource} {css : String} (provided : Provided jobs makers compiler)
    (counted : Counted makers compiler.journal) (delivered : Delivered job module css compiler.journal) :
    Provides jobs (makers ++ (Phase.evaluating job module css).makes compiler) job compiler
      (Phase.step collaborators (.evaluating job module css) compiler).2
      (Phase.step collaborators (.evaluating job module css) compiler).1 := by
  obtain ⟨output, fileName, code, map, built, artifacts, styles, shape⟩ := delivered
  have within : makers ⊆ makers ++ (Phase.evaluating job module css).makes compiler := List.subset_append_left _ _
  have numbered : ∀ outcome, Counted (makers ++ (Phase.evaluating job module css).makes compiler)
      (.evaluated module outcome :: compiler.journal) := by
    intro outcome
    have next : (Event.evaluated module outcome :: compiler.journal).countP Event.isEvaluation =
        compiler.journal.countP Event.isEvaluation + 1 := List.countP_cons_of_pos rfl
    constructor
    · rw [List.map_append]
      refine List.perm_append_comm.nodup_iff.mp (List.nodup_cons.mpr ⟨fun used => ?_, counted.distinct⟩)
      obtain ⟨maker, member, same⟩ := List.mem_map.mp used
      exact absurd (counted.before maker member) (by omega)
    · intro maker member
      rw [next]
      rcases List.mem_append.mp member with old | new
      · exact Nat.lt_succ_of_lt (counted.before maker old)
      · rw [List.mem_singleton.mp new]
        exact Nat.lt_succ_self _
  simp only [Phase.step, Collaborators.evaluated]
  cases answer : collaborators.load compiler.journal module with
  | error failure =>
    have grown := List.sublist_cons_self (.evaluated module (.error failure)) compiler.journal
    exact ⟨provided.journal within rfl grown, numbered _, grown, trivial⟩
  | ok =>
    let component : Component := { module, evaluation := compiler.journal.countP Event.isEvaluation }
    have grown := List.sublist_cons_self (.evaluated module (.ok component)) compiler.journal
    refine ⟨provided.journal within rfl grown, numbered _, grown, rfl, List.mem_append_right _ (List.mem_singleton_self _), ?_⟩
    exact ⟨output, fileName, code, map, (List.singleton_sublist.mpr built).cons_cons _, artifacts, styles, shape⟩

theorem storing_provides {compiled : CompiledView} (provided : Provided jobs makers compiler)
    (counted : Counted makers compiler.journal) (known : jobs job) (made : MadeFor makers job compiled compiler.journal) :
    Provides jobs makers job compiler (Phase.step collaborators (.storing job compiled) compiler).2
      (Phase.step collaborators (.storing job compiled) compiler).1 := by
  simp only [Phase.step]
  split
  next =>
    refine ⟨fun key other found => ?_, counted, List.Sublist.refl _, made⟩
    simp only [find?, Table.find?_insert] at found
    split at found
    next same =>
      cases found
      exact ⟨job, known, same.symm, made⟩
    next => exact provided key other found
  next => exact ⟨provided, counted, List.Sublist.refl _, made⟩

/-- A step keeps the provenance of the cache, as long as jobs of one key are alike. -/
theorem step_provides {phase : Phase} (provided : Provided jobs makers compiler)
    (counted : Counted makers compiler.journal) (known : jobs job)
    (alike : ∀ other, jobs other → other.key = job.key → other.Alike job)
    (sound : phase.Sound makers job compiler.journal) :
    Provides jobs (makers ++ phase.makes compiler) job compiler (phase.step collaborators compiler).2
      (phase.step collaborators compiler).1 := by
  cases phase with
  | consulting own =>
    obtain rfl : own = job := sound
    simpa only [Phase.makes, List.append_nil] using consulting_provides collaborators provided counted alike
  | building own =>
    obtain rfl : own = job := sound
    simpa only [Phase.makes, List.append_nil] using building_provides collaborators provided counted
  | evaluating own module css =>
    obtain ⟨rfl, delivered⟩ : own = job ∧ Delivered job module css compiler.journal := sound
    exact evaluating_provides collaborators provided counted delivered
  | storing own compiled =>
    obtain ⟨rfl, made⟩ : own = job ∧ MadeFor makers job compiled compiler.journal := sound
    simpa only [Phase.makes, List.append_nil] using storing_provides collaborators provided counted known made

end
end Compiler
end ComponentViews.Compile
