import ComponentViews.Proofs.CompileOutcome
import Mathlib.Data.List.DropRight

/-! Compilations and clearings one after the other on one compiler. What the cache holds can be
told from the records of what was asked: the first view of each key since the last clearing. -/

namespace ComponentViews.Compile

/-- What is asked of a compiler. -/
inductive Operation where
  | compile (job : Job)
  | clear

/-- What was asked of a compiler, a compilation with its result. -/
inductive Record where
  | compilation (job : Job) (result : Except CompileError CompiledView)
  | clearing

namespace Record

def isCompilation : Record → Bool
  | .compilation _ _ => true
  | .clearing => false

/-- What a compilation that succeeds has to put into the cache, if its job caches. -/
def stored? : Record → Option (Key × CompiledView)
  | .compilation job (.ok compiled) => if job.options.cache then some (job.key, compiled) else none
  | _ => none

end Record

/-- The records since the last clearing. -/
def sinceClearing (records : List Record) : List Record := records.rtakeWhile Record.isCompilation

/-- The views compiled for the cache since the last clearing, the first one first. -/
def entered (records : List Record) : List (Key × CompiledView) := (sinceClearing records).filterMap Record.stored?

namespace Compiler

/-- Does what is asked, and records it. -/
def perform (collaborators : Collaborators) (compiler : Compiler) : Operation → Record × Compiler
  | .compile job => (.compilation job (compiler.compile collaborators job).1, (compiler.compile collaborators job).2)
  | .clear => (.clearing, compiler.clear)

/-- Does what is asked, one after the other; the records stand in that order. -/
def performAll (collaborators : Collaborators) (compiler : Compiler) (operations : List Operation) : List Record × Compiler :=
  operations.foldl (fun done operation =>
    (done.1 ++ [(done.2.perform collaborators operation).1], (done.2.perform collaborators operation).2)) ([], compiler)

/-- How often the toolchain is called to compile a job. -/
def Builds (collaborators : Collaborators) (compiler : Compiler) (job : Job) (times : Nat) : Prop :=
  (compiler.compile collaborators job).2.journal.countP Event.isBuild = compiler.journal.countP Event.isBuild + times

/-- The law of the cache for a job that comes after what was recorded. -/
structure Lawful (collaborators : Collaborators) (records : List Record) (compiler : Compiler) (job : Job) : Prop where
  /-- The cached keys are those of the jobs that cache and have succeeded since the last clearing, each key once. -/
  keys : (compiler.cache.entries.map Prod.fst).Nodup ∧ ∀ key, key ∈ compiler.cache.entries.map Prod.fst ↔
    ∃ made compiled, .compilation made (.ok compiled) ∈ sinceClearing records ∧ made.options.cache ∧ made.key = key
  /-- The toolchain is called once, or not at all where the job caches and its key is cached. -/
  builds : Builds collaborators compiler job
    (if job.options.cache ∧ job.key ∈ compiler.cache.entries.map Prod.fst then 0 else 1)
  /-- Where the job caches and its key is cached, the answer is the first view compiled for the key. -/
  found : job.options.cache → job.key ∈ compiler.cache.entries.map Prod.fst → ∃ compiled,
    (entered records).lookup job.key = some compiled ∧ compiler.compile collaborators job = (.ok compiled, compiler)
  /-- A view that has just been made is none of those that were returned before. -/
  fresh : Builds collaborators compiler job 1 → ∀ compiled, (compiler.compile collaborators job).1 = .ok compiled →
    ∀ other, .compilation other (.ok compiled) ∉ records
  /-- A job that does not cache compiles the same with any other cache, and leaves that as it is. -/
  uncached : job.options.cache = false → ∀ cache, { compiler with cache }.compile collaborators job =
    ((compiler.compile collaborators job).1, { (compiler.compile collaborators job).2 with cache })
  /-- A failure leaves the cache as it is. The next job of the key calls the toolchain again, except that it is answered from
  the cache where it caches, the key is cached and the job that failed did not cache. -/
  failed : ∀ error, (compiler.compile collaborators job).1 = .error error →
    (compiler.compile collaborators job).2.cache = compiler.cache ∧
      ∀ between next, (∀ other, .compile other ∈ between → other.key ≠ job.key) → next.key = job.key →
        (next.options.cache → job.options.cache ∨ job.key ∉ compiler.cache.entries.map Prod.fst) →
          Builds collaborators (performAll collaborators (compiler.compile collaborators job).2 between).2 next 1

variable {collaborators : Collaborators} {compiler : Compiler}

theorem performAll_concat (operations : List Operation) (operation : Operation) :
    performAll collaborators compiler (operations ++ [operation]) =
      ((performAll collaborators compiler operations).1 ++
        [((performAll collaborators compiler operations).2.perform collaborators operation).1],
        ((performAll collaborators compiler operations).2.perform collaborators operation).2) := by
  simp only [performAll, List.foldl_append, List.foldl_cons, List.foldl_nil]

theorem sinceClearing_compilation (records : List Record) (job : Job) (result : Except CompileError CompiledView) :
    sinceClearing (records ++ [.compilation job result]) = sinceClearing records ++ [.compilation job result] :=
  List.rtakeWhile_concat_pos _ _ _ rfl

theorem sinceClearing_clearing (records : List Record) : sinceClearing (records ++ [.clearing]) = [] :=
  List.rtakeWhile_concat_neg _ _ _ Bool.false_ne_true

theorem entered_compilation (records : List Record) (job : Job) (result : Except CompileError CompiledView) :
    entered (records ++ [.compilation job result]) =
      entered records ++ (Record.compilation job result).stored?.toList := by
  rw [entered, sinceClearing_compilation, List.filterMap_append]
  cases entry : (Record.compilation job result).stored? <;> simp [entered, entry]

theorem entered_clearing (records : List Record) : entered (records ++ [.clearing]) = [] := by
  rw [entered, sinceClearing_clearing]
  rfl

theorem mem_entered_iff {records : List Record} {key : Key} {compiled : CompiledView} : (key, compiled) ∈ entered records ↔
    ∃ made : Job, .compilation made (.ok compiled) ∈ sinceClearing records ∧ made.options.cache ∧ made.key = key := by
  rw [entered, List.mem_filterMap]
  constructor
  · rintro ⟨record, member, entry⟩
    unfold Record.stored? at entry
    split at entry
    next job other =>
      split at entry
      next caches => cases entry; exact ⟨job, member, caches, rfl⟩
      next => cases entry
    next => cases entry
  · rintro ⟨made, member, caches, rfl⟩
    exact ⟨_, member, by simp [Record.stored?, caches]⟩

theorem mem_entered_of_lookup {records : List Record} {key : Key} {compiled : CompiledView}
    (first : (entered records).lookup key = some compiled) : (key, compiled) ∈ entered records :=
  @Table.mem_entries_of_find? _ _ _ ⟨entered records⟩ key compiled first

theorem mem_of_mem_sinceClearing {records : List Record} {record : Record} (member : record ∈ sinceClearing records) :
    record ∈ records := (List.rtakeWhile_suffix _ records).subset member

theorem find?_of_cached? {job : Job} {compiled : CompiledView} (cached : compiler.cached? job = some compiled) :
    job.options.cache ∧ compiler.cache.find? job.key = some compiled := by
  unfold cached? at cached
  split at cached
  next caches => exact ⟨caches, cached⟩
  next => cases cached

theorem lookup_stored?_ne {job : Job} {key : Key} (other : key ≠ job.key) (result : Except CompileError CompiledView) :
    (Record.compilation job result).stored?.toList.lookup key = none := by
  cases result with
  | error error => rfl
  | ok compiled =>
    simp only [Record.stored?]
    split
    · simp [List.lookup_eq_none_iff, other]
    · rfl

/-- What a compilation leaves in the cache: what was there, and what its record has to put there. -/
theorem Ends.find?_eq {job : Job} {result : Except CompileError CompiledView} {calls : Journal} {cache : Table Key CompiledView}
    (ends : Ends collaborators job compiler result calls cache) (key : Key) :
    cache.find? key = (compiler.cache.find? key).or ((Record.compilation job result).stored?.toList.lookup key) := by
  by_cases own : key = job.key
  · subst own
    cases ends with
    | found cached =>
      obtain ⟨caches, first⟩ := find?_of_cached? cached
      simp [Record.stored?, caches, first]
    | unbuilt missed failed => simp [Record.stored?]
    | unfit missed built several => simp [Record.stored?]
    | unloaded missed built single failed => simp [Record.stored?]
    | made missed built single loaded numbered =>
      simp only [stored, Record.stored?]
      split
      next caches =>
        have absent : compiler.cache.find? job.key = none := by simpa only [cached?, caches, if_true, find?] using missed
        simp [absent]
      next => simp
  · rw [lookup_stored?_ne own, Option.or_none]
    cases ends with
    | made missed built single loaded numbered =>
      unfold stored
      split
      · rw [Table.find?_insert, if_neg own]
      · rfl
    | _ => rfl

/-- What the records tell of a compiler. -/
structure Recorded (records : List Record) (compiler : Compiler) : Prop where
  distinct : (compiler.cache.entries.map Prod.fst).Nodup
  find?_eq : ∀ key, compiler.cache.find? key = (entered records).lookup key
  numbered : ∀ job compiled, .compilation job (.ok compiled) ∈ records →
    compiled.component.evaluation < compiler.journal.countP Event.isEvaluation

theorem Ends.distinct {job : Job} {result : Except CompileError CompiledView} {calls : Journal} {cache : Table Key CompiledView}
    (ends : Ends collaborators job compiler result calls cache) (distinct : (compiler.cache.entries.map Prod.fst).Nodup) :
    (cache.entries.map Prod.fst).Nodup := by
  cases ends with
  | made missed built single loaded numbered =>
    unfold stored
    split
    · exact Table.nodup_keys_insert distinct _ _
    · exact distinct
  | _ => exact distinct

/-- A view that is not answered from the cache has the number of the next evaluation. -/
theorem Ends.evaluation {job : Job} {compiled : CompiledView} {calls : Journal} {cache : Table Key CompiledView}
    (ends : Ends collaborators job compiler (.ok compiled) calls cache) (missed : compiler.cached? job = none) :
    compiled.component.evaluation = compiler.journal.countP Event.isEvaluation ∧ 0 < calls.countP Event.isEvaluation := by
  cases ends with
  | found cached => cases missed.symm.trans cached
  | made missed built single loaded numbered => exact ⟨by rw [numbered], by simp [Event.isEvaluation]⟩

theorem Recorded.perform {records : List Record} (recorded : Recorded records compiler) (operation : Operation) :
    Recorded (records ++ [(compiler.perform collaborators operation).1]) (compiler.perform collaborators operation).2 := by
  cases operation with
  | clear =>
    refine ⟨by simp [Compiler.perform, clear, Table.empty], fun key => ?_, fun job compiled member => ?_⟩
    · simp [Compiler.perform, clear, entered_clearing]
    · exact recorded.numbered job compiled (by simpa [Compiler.perform] using member)
  | compile job =>
    obtain ⟨calls, ends, journal⟩ := compile_ends collaborators job compiler
    simp only [Compiler.perform]
    refine ⟨ends.distinct recorded.distinct, fun key => ?_, fun other compiled member => ?_⟩
    · rw [ends.find?_eq, recorded.find?_eq, entered_compilation, List.lookup_append]
    · rw [journal, List.countP_append]
      rcases List.mem_append.mp member with old | new
      · exact Nat.lt_of_lt_of_le (recorded.numbered other compiled old) (Nat.le_add_left _ _)
      · obtain ⟨rfl, result⟩ : other = job ∧ .ok compiled = (compiler.compile collaborators job).1 := by simpa using new
        cases cached : compiler.cached? other with
        | none =>
          rw [← result] at ends
          obtain ⟨number, evaluates⟩ := ends.evaluation cached
          omega
        | some first =>
          rw [compile_of_cached cached] at result
          cases result
          have listed := (find?_of_cached? cached).2
          rw [recorded.find?_eq] at listed
          obtain ⟨made, member, -, -⟩ := mem_entered_iff.mp (mem_entered_of_lookup listed)
          exact Nat.lt_of_lt_of_le (recorded.numbered made _ (mem_of_mem_sinceClearing member)) (Nat.le_add_left _ _)

theorem recorded_performAll (collaborators : Collaborators) (operations : List Operation) :
    Recorded (performAll collaborators .new operations).1 (performAll collaborators .new operations).2 := by
  induction operations using List.reverseRecOn with
  | nil => exact ⟨.nil, fun _ => rfl, by simp [performAll]⟩
  | append_singleton operations operation ih =>
    rw [performAll_concat]
    exact ih.perform operation

/-- A key that is not cached stays so while its jobs are left alone. -/
theorem find?_performAll {key : Key} (absent : compiler.cache.find? key = none) {operations : List Operation}
    (apart : ∀ other, .compile other ∈ operations → other.key ≠ key) :
    (performAll collaborators compiler operations).2.cache.find? key = none := by
  induction operations using List.reverseRecOn with
  | nil => exact absent
  | append_singleton operations operation ih =>
    rw [performAll_concat]
    cases operation with
    | clear => rfl
    | compile job =>
      obtain ⟨calls, ends, -⟩ := compile_ends collaborators job (performAll collaborators compiler operations).2
      have other : key ≠ job.key := (apart job (by simp)).symm
      refine (ends.find?_eq key).trans ?_
      rw [ih fun job member => apart job (List.mem_append_left _ member), lookup_stored?_ne other]
      rfl

theorem builds_of_cached? (collaborators : Collaborators) (compiler : Compiler) (job : Job) :
    Builds collaborators compiler job (if (compiler.cached? job).isSome then 0 else 1) := by
  obtain ⟨calls, ends, journal⟩ := compile_ends collaborators job compiler
  rw [Builds, journal, List.countP_append, ends.builds, Nat.add_comm]

/-- Whatever was asked of a compiler before, one after the other, a job is compiled by the law of the cache. -/
theorem compilations_lawful (collaborators : Collaborators) (operations : List Operation) (job : Job) :
    Lawful collaborators (performAll collaborators .new operations).1 (performAll collaborators .new operations).2 job := by
  have recorded := recorded_performAll collaborators operations
  generalize (performAll collaborators .new operations).1 = records at *
  generalize (performAll collaborators .new operations).2 = compiler at *
  have listed : ∀ key, key ∈ compiler.cache.entries.map Prod.fst ↔ ∃ compiled, compiler.cache.find? key = some compiled := by
    intro key
    rw [← Option.ne_none_iff_exists', ne_eq, Table.find?_eq_none_iff, not_not]
  have cached : (compiler.cached? job).isSome ↔ job.options.cache ∧ job.key ∈ compiler.cache.entries.map Prod.fst := by
    rw [listed, cached?]
    split
    next caches => simp [caches, Option.isSome_iff_exists, find?]
    next idle => simp [idle]
  refine ⟨⟨recorded.distinct, fun key => ?_⟩, ?_, fun caches member => ?_, fun builds compiled made other member => ?_,
    fun idle => compile_uncached collaborators job compiler idle, fun error failed => ?_⟩
  · rw [listed]
    constructor
    · rintro ⟨compiled, found⟩
      rw [recorded.find?_eq] at found
      obtain ⟨made, member, caches, same⟩ := mem_entered_iff.mp (mem_entered_of_lookup found)
      exact ⟨made, compiled, member, caches, same⟩
    · rintro ⟨made, compiled, member, caches, same⟩
      have listed := List.mem_map_of_mem (f := Prod.fst) (mem_entered_iff.mpr ⟨made, member, caches, same⟩)
      rw [← Option.ne_none_iff_exists', recorded.find?_eq]
      exact fun absent => (@Table.find?_eq_none_iff _ _ _ ⟨entered records⟩ key).mp absent listed
  · simpa only [cached] using builds_of_cached? collaborators compiler job
  · obtain ⟨compiled, found⟩ := Option.isSome_iff_exists.mp (cached.mpr ⟨caches, member⟩)
    exact ⟨compiled, recorded.find?_eq _ ▸ (find?_of_cached? found).2, compile_of_cached found⟩
  · obtain ⟨calls, ends, -⟩ := compile_ends collaborators job compiler
    have missed : compiler.cached? job = none := by
      cases first : compiler.cached? job with
      | none => rfl
      | some first =>
        simp [Builds, compile_of_cached first] at builds
    rw [made] at ends
    exact absurd (recorded.numbered other compiled member) (by rw [(ends.evaluation missed).1]; exact Nat.lt_irrefl _)
  · obtain ⟨calls, ends, -⟩ := compile_ends collaborators job compiler
    rw [failed] at ends
    refine ⟨ends.cache_of_error, fun between next apart same rebuilt => ?_⟩
    have missed : (performAll collaborators (compiler.compile collaborators job).2 between).2.cached? next = none := by
      rw [cached?]
      split
      next caches =>
        have absent : compiler.cache.find? job.key = none := by
          rcases rebuilt caches with cached | absent
          · simpa only [cached?, cached, if_true, find?] using ends.missed_of_error
          · exact Table.find?_eq_none_iff.mpr absent
        rw [same]
        exact find?_performAll (ends.cache_of_error ▸ absent) apart
      next => rfl
    have builds := builds_of_cached? collaborators
      (performAll collaborators (compiler.compile collaborators job).2 between).2 next
    simpa only [missed, Option.isSome_none, Bool.false_eq_true, if_false] using builds

/-- Collaborators of which the toolchain fails when it is called a second time. -/
def fallible : Collaborators where
  build journal _ :=
    if journal.countP Event.isBuild = 1 then .error (.ofMessage "out of memory")
    else .ok { artifacts := [.chunk "view.js" "code" none], css := "" }
  load _ _ := .ok ()
  render _ _ _ := .ok { html := "", head := "", css := "" }

/-- A job for a view, which caches or not. -/
def viewJob (cache : Bool) : Job :=
  { path := { text := "w.svelte" }, options := { Build.Options.forEnv "production" with cache } }

/-- A job that does not cache may fail beside a cached view of its key, from which the next job is then answered. -/
theorem failure_beside_cached_view : ¬ ∀ (collaborators : Collaborators) (operations : List Operation) (job next : Job)
    (error : CompileError),
    ((performAll collaborators .new operations).2.compile collaborators job).1 = .error error → next.key = job.key →
      Builds collaborators (performAll collaborators .new (operations ++ [.compile job])).2 next 1 := by
  intro rebuilt
  have failed : ((performAll fallible .new [.compile (viewJob true)]).2.compile fallible (viewJob false)).1 =
      .error (.toolchain (.ofMessage "out of memory")) := by decide +kernel
  have builds := rebuilt fallible [.compile (viewJob true)] (viewJob false) (viewJob true) _ failed rfl
  revert builds
  unfold Builds
  decide +kernel

end Compiler
end ComponentViews.Compile
