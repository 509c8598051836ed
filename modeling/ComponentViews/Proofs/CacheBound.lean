import ComponentViews.Proofs.RenderProvenance

/-! How large the compile cache gets. Only the wrapper that the memo holds for a view is
compiled, never one that lost a race, so a view has at most two entries. -/

namespace ComponentViews

namespace Compile.Compiler

/-- The job of a compilation, whatever its phase. -/
def Phase.job : Phase → Job
  | .consulting job => job
  | .building job => job
  | .evaluating job _ _ => job
  | .storing job _ => job

theorem Phase.step_job {collaborators : Collaborators} {phase next : Phase} {compiler compiler' : Compiler}
    (taken : phase.step collaborators compiler = (.running next, compiler')) : next.job = phase.job := by
  cases phase <;> simp only [Phase.step] at taken <;> grind [Phase.job]

/-- A step leaves the cache as it is, or enters a view of its job. -/
theorem Phase.step_cache (collaborators : Collaborators) (phase : Phase) (compiler : Compiler) :
    (phase.step collaborators compiler).2.cache = compiler.cache ∨
      ∃ compiled, (phase.step collaborators compiler).2.cache = compiler.cache.insert phase.job.key compiled := by
  cases phase with
  | consulting job => left; simp only [Phase.step]; split <;> rfl
  | building job =>
    left
    simp only [Phase.step]
    split
    · rfl
    · split
      · rfl
      · exact prepare_cache _ _
  | evaluating job module css => left; simp only [Phase.step]; split <;> rfl
  | storing job compiled =>
    simp only [Phase.step]
    split
    · exact .inr ⟨compiled, rfl⟩
    · exact .inl rfl

end Compile.Compiler

namespace Engine
open Wrapper (Store)
open Wrapper.Store (Fresh Creation)
open Compile (Compiler)

/-- A store holds a wrapper for some source. -/
def Remembered (store : Store) (wrapper : Path) : Prop := ∃ source, store.memo.find? source = some wrapper

/-- What a creation of a wrapper relies on: the winner of a race is remembered. -/
def Yields (store : Store) : Progress Creation (Except ViewError Path) → Prop
  | .running (.discarding _ winner) => Remembered store winner
  | .finished (.ok wrapper) => Remembered store wrapper
  | _ => True

/-- What a render relies on: what it compiles is remembered. -/
def Rendering.Relies (store : Store) : Rendering → Prop
  | .wrapping _ _ phase => Yields store (.running phase)
  | .compiling _ _ wrapper phase => Remembered store wrapper ∧ phase.job.path = wrapper
  | _ => True

/-- A call renders and may rely on the store, or it has ended. -/
def Relies (store : Store) : Progress (Rendering ⊕ Clearing) Answer → Prop
  | .running (.inl phase) => phase.Relies store
  | .running (.inr _) => False
  | .finished _ => True

/-- A cached view is one of a remembered wrapper. -/
structure Keyed (engine : Engine) : Prop where
  distinct : (engine.compiler.cache.entries.map Prod.fst).Nodup
  remembered : ∀ key ∈ engine.compiler.cache.entries.map Prod.fst, ∃ wrapper,
    Remembered engine.wrappers wrapper ∧ key.path = wrapper.components

/-- Neither the memo nor the cache has lost a key. -/
structure Grows (before after : Engine) : Prop where
  memo : before.wrappers.memo.entries <+: after.wrappers.memo.entries
  cache : before.compiler.cache.entries.map Prod.fst <+: after.compiler.cache.entries.map Prod.fst

variable {token : Nat → String} {store store' : Store} {engine before after : Engine}

theorem Grows.refl (engine : Engine) : Grows engine engine := ⟨List.prefix_refl _, List.prefix_refl _⟩

theorem Grows.trans {last : Engine} (first : Grows before after) (second : Grows after last) : Grows before last :=
  ⟨first.memo.trans second.memo, first.cache.trans second.cache⟩

theorem Remembered.mono {wrapper : Path} (remembered : Remembered store wrapper)
    (grows : store.memo.entries <+: store'.memo.entries) : Remembered store' wrapper :=
  remembered.imp fun _ found => Table.find?_of_prefix grows found

theorem Yields.mono {progress : Progress Creation (Except ViewError Path)} (yields : Yields store progress)
    (grows : store.memo.entries <+: store'.memo.entries) : Yields store' progress := by
  match progress with
  | .running (.discarding _ _) => exact Remembered.mono yields grows
  | .running (.checking _) => trivial
  | .running (.loading _) => trivial
  | .running (.writing _ _) => trivial
  | .running (.claiming _ _) => trivial
  | .finished (.ok _) => exact Remembered.mono yields grows
  | .finished (.error _) => trivial

theorem Relies.mono {call : Progress (Rendering ⊕ Clearing) Answer} (relies : Relies store call)
    (grows : store.memo.entries <+: store'.memo.entries) : Relies store' call := by
  match call with
  | .running (.inl (.looking _ _)) => trivial
  | .running (.inl (.wrapping _ _ _)) => exact Yields.mono relies grows
  | .running (.inl (.compiling _ _ _ _)) => exact ⟨relies.1.mono grows, relies.2⟩
  | .running (.inl (.rendering _ _ _ _)) => trivial
  | .running (.inl (.templating _ _ _ _)) => trivial
  | .running (.inr _) => exact relies
  | .finished _ => trivial

/-- A creation only ever adds to the memo, and yields what is remembered. -/
theorem creation_yields (token : Nat → String) {phase : Creation} (yields : Yields store (.running phase)) :
    store.memo.entries <+: (phase.step token store).2.memo.entries ∧
      Yields (phase.step token store).2 (phase.step token store).1 := by
  cases phase with
  | checking source =>
    simp only [Creation.step]
    split
    next wrapper found => exact ⟨List.prefix_refl _, source.components, found⟩
    next => exact ⟨List.prefix_refl _, trivial⟩
  | loading source =>
    simp only [Creation.step]
    split
    · exact ⟨List.prefix_refl _, trivial⟩
    · split
      · exact ⟨List.prefix_refl _, trivial⟩
      · exact ⟨List.prefix_refl _, trivial⟩
  | writing source skeleton =>
    simp only [Creation.step]
    split
    · exact ⟨List.prefix_refl _, trivial⟩
    · exact ⟨List.prefix_refl _, trivial⟩
  | claiming source own =>
    -- Only this step changes the memo, and only for a source that has no wrapper yet.
    simp only [Creation.step]
    split
    next absent =>
      refine ⟨?_, source.components, by simp⟩
      rw [Table.entries_insert_of_find?_eq_none absent]
      exact List.prefix_append _ _
    next winner found =>
      split
      · exact ⟨List.prefix_refl _, source.components, found⟩
      · exact ⟨List.prefix_refl _, source.components, found⟩
  | discarding own winner =>
    simp only [Creation.step]
    split
    · exact ⟨List.prefix_refl _, yields⟩
    · exact ⟨List.prefix_refl _, yields⟩

/-- What a step of a render leaves. -/
structure Keeps (before after : Engine) (next : Progress (Rendering ⊕ Clearing) Answer) : Prop where
  keyed : Keyed after
  grows : Grows before after
  relies : Relies after.wrappers next

theorem Keyed.of_wrappers (keyed : Keyed engine) (grows : engine.wrappers.memo.entries <+: store.memo.entries) :
    Keyed { engine with wrappers := store } where
  distinct := keyed.distinct
  remembered key member := by
    obtain ⟨wrapper, remembered, path⟩ := keyed.remembered key member
    exact ⟨wrapper, remembered.mono grows, path⟩

/-- A compilation of a remembered wrapper adds at most its own key to the cache. -/
theorem Keyed.of_compiler (collaborators : Compile.Collaborators) {phase : Compiler.Phase} (keyed : Keyed engine)
    (remembered : Remembered engine.wrappers phase.job.path) :
    Keyed { engine with compiler := (phase.step collaborators engine.compiler).2 } ∧
      engine.compiler.cache.entries.map Prod.fst <+:
        (phase.step collaborators engine.compiler).2.cache.entries.map Prod.fst := by
  rcases phase.step_cache collaborators engine.compiler with same | ⟨compiled, entered⟩
  · rw [same]
    exact ⟨⟨same ▸ keyed.distinct, same ▸ keyed.remembered⟩, List.prefix_refl _⟩
  · rw [entered, Table.keys_insert]
    refine ⟨⟨?_, fun key member => ?_⟩, ?_⟩
    · rw [entered]
      exact Table.nodup_keys_insert keyed.distinct _ _
    · rw [entered, Table.keys_insert] at member
      split at member
      · exact keyed.remembered key member
      · rcases List.mem_append.mp member with old | new
        · exact keyed.remembered key old
        · exact ⟨_, remembered, by rw [List.mem_singleton.mp new]; rfl⟩
    · split
      · exact List.prefix_refl _
      · exact List.prefix_append _ _

theorem rendering_keeps (collaborators : Compile.Collaborators) (token : Nat → String) {phase : Rendering}
    (keyed : Keyed engine) (relies : phase.Relies engine.wrappers) :
    Keeps engine (phase.step collaborators token engine).2 (phase.step collaborators token engine).1.asLeft := by
  cases phase with
  | looking call candidates =>
    cases candidates with
    | nil => exact ⟨keyed, .refl _, trivial⟩
    | cons candidate rest =>
      simp only [Rendering.step]
      split
      · exact ⟨keyed, .refl _, trivial⟩
      · exact ⟨keyed, .refl _, trivial⟩
  | wrapping call view phase =>
    obtain ⟨grows, yields⟩ := creation_yields token relies
    rw [wrapping_engine]
    refine ⟨keyed.of_wrappers grows, ⟨grows, List.prefix_refl _⟩, ?_⟩
    simp only [Rendering.step]
    cases next : (phase.step token engine.wrappers).1 with
    | running phase =>
      rw [next] at yields
      exact yields
    | finished result =>
      rw [next] at yields
      cases result with
      | error error => trivial
      | ok wrapper => exact ⟨yields, rfl⟩
  | compiling call view wrapper phase =>
    obtain ⟨remembered, path⟩ : Remembered engine.wrappers wrapper ∧ phase.job.path = wrapper := relies
    obtain ⟨keyed, grows⟩ := keyed.of_compiler collaborators (path.symm ▸ remembered)
    rw [compiling_engine]
    refine ⟨keyed, ⟨List.prefix_refl _, grows⟩, ?_⟩
    simp only [Rendering.step]
    cases next : (phase.step collaborators engine.compiler).1 with
    | running later => exact ⟨remembered, (Compiler.Phase.step_job (Prod.ext next rfl)) ▸ path⟩
    | finished result => cases result <;> trivial
  | rendering call view wrapper compiled =>
    simp only [Rendering.step]
    split
    · exact ⟨⟨keyed.distinct, keyed.remembered⟩, ⟨List.prefix_refl _, List.prefix_refl _⟩, trivial⟩
    · exact ⟨⟨keyed.distinct, keyed.remembered⟩, ⟨List.prefix_refl _, List.prefix_refl _⟩, trivial⟩
  | templating call view collected output => exact ⟨keyed, .refl _, trivial⟩

/-- The paths and hydrations that views may have been cached under. -/
def cacheable (store : Store) : List Compile.Key :=
  store.memo.entries.flatMap fun (_, wrapper) =>
    [{ path := wrapper.components, hydratable := true }, { path := wrapper.components, hydratable := false }]

theorem length_cacheable (store : Store) : (cacheable store).length = 2 * store.memo.size := by
  rw [cacheable, Table.size]
  induction store.memo.entries with
  | nil => rfl
  | cons entry rest ih => simp only [List.flatMap_cons, List.length_append, List.length_cons, List.length_nil, ih]; omega

theorem Keyed.size_le (keyed : Keyed engine) : engine.compiler.size ≤ 2 * engine.wrappers.memo.size := by
  rw [← length_cacheable, Compiler.size, Table.size, ← List.length_map (f := Prod.fst)]
  refine keyed.distinct.length_le_of_subset fun key member => ?_
  obtain ⟨wrapper, ⟨source, found⟩, path⟩ := keyed.remembered key member
  refine List.mem_flatMap.mpr ⟨(source, wrapper), Table.mem_entries_of_find? found, ?_⟩
  obtain ⟨components, hydratable⟩ := key
  obtain rfl : components = wrapper.components := path
  cases hydratable <;> simp

section
variable (collaborators : Compile.Collaborators) (token : Nat → String)

/-- Calls that all render keep the cache to what the memo holds, and neither loses a key. -/
theorem interleave_keeps (schedule : List Nat) (configuration : List (Progress (Rendering ⊕ Clearing) Answer) × Engine)
    (keyed : Keyed configuration.2) (relies : ∀ call ∈ configuration.1, Relies configuration.2.wrappers call) :
    Keyed ((serving collaborators token).interleave schedule configuration).2 ∧
      Grows configuration.2 ((serving collaborators token).interleave schedule configuration).2 ∧
      ∀ call ∈ ((serving collaborators token).interleave schedule configuration).1,
        Relies ((serving collaborators token).interleave schedule configuration).2.wrappers call := by
  refine (serving collaborators token).interleave_induction (motive := fun calls state =>
    Keyed state ∧ Grows configuration.2 state ∧ ∀ call ∈ calls, Relies state.wrappers call) ?_ schedule configuration
    ⟨keyed, .refl _, relies⟩
  intro calls state index phase before found
  obtain ⟨keyed, grows, relies⟩ := before
  cases phase with
  | inr phase => exact (relies _ (List.mem_of_getElem? found)).elim
  | inl phase =>
    have keeps := rendering_keeps collaborators token keyed (relies _ (List.mem_of_getElem? found))
    rw [serving, Activity.either_step_inl]
    refine ⟨keeps.keyed, grows.trans keeps.grows, fun call member => ?_⟩
    rcases List.mem_or_eq_of_mem_set member with old | new
    · exact (relies call old).mono keeps.grows.memo
    · exact new ▸ keeps.relies

end

/-- Distinct sources have distinct wrappers, only wrappers in the memo are cached, and so the cache is bounded by the memo. -/
structure Bounded (token : Nat → String) (engine : Engine) : Prop where
  remembered : ∀ key ∈ engine.compiler.cache.entries.map Prod.fst, ∃ source wrapper,
    engine.wrappers.memo.find? source = some wrapper ∧ key.path = wrapper.components
  distinct : Fresh token engine.wrappers.drawn → ∀ first second wrapper wrapper',
    engine.wrappers.memo.find? first = some wrapper → engine.wrappers.memo.find? second = some wrapper' →
      wrapper.components = wrapper'.components → first = second
  bounded : engine.compiler.size ≤ 2 * engine.wrappers.memo.size

/-- An engine that was just installed, or just cleared with success. -/
inductive Renewed (engine : Engine) : Prop where
  | installed {config : Config} {processEnv : Option String} {files : FileSystem}
    (done : install config processEnv files = .ok engine) : Renewed engine
  | cleared {before : Engine} (done : before.clear = (.ok (), engine)) : Renewed engine

theorem Renewed.empty (renewed : Renewed engine) : engine.wrappers.memo = .empty ∧ engine.compiler.cache = .empty := by
  cases renewed with
  | installed done =>
    obtain ⟨memo, compiler⟩ := install_eq_ok done
    exact ⟨memo, by rw [compiler]; rfl⟩
  | @cleared before done =>
    have memo := before.clear_memo
    have cache := before.clear_cache
    rw [done] at memo cache
    exact ⟨memo, cache⟩

/-- Renders of calls, each with the paths to try for its view. -/
def renders (calls : List (Call × List Path)) : List Request := calls.map fun (call, candidates) => .render call candidates

/-- However renders are interleaved on an engine that was installed or cleared before them, at every moment the compile
cache is bounded by the views, and neither the cache nor the memo ever gets smaller. -/
theorem renders_bounded {collaborators : Compile.Collaborators} (renewed : Renewed engine) (calls : List (Call × List Path))
    (schedule later : List Nat) :
    Bounded token (outcome collaborators token engine (renders calls) schedule).2 ∧
      (outcome collaborators token engine (renders calls) schedule).2.compiler.size ≤
        (outcome collaborators token engine (renders calls) (schedule ++ later)).2.compiler.size ∧
      (outcome collaborators token engine (renders calls) schedule).2.wrappers.memo.size ≤
        (outcome collaborators token engine (renders calls) (schedule ++ later)).2.wrappers.memo.size := by
  obtain ⟨memo, cache⟩ := renewed.empty
  have started : ∀ call ∈ (requested engine (renders calls)).1, Relies engine.wrappers call := by
    intro call member
    simp only [requested, renders, List.map_map, List.mem_map] at member
    obtain ⟨request, -, rfl⟩ := member
    trivial
  have nothing : Keyed engine := ⟨by simp [cache, Table.empty], by simp [cache, Table.empty]⟩
  obtain ⟨keyed, -, relies⟩ := interleave_keeps collaborators token schedule (requested engine (renders calls)) nothing started
  obtain ⟨-, grows, -⟩ := interleave_keeps collaborators token later _ keyed relies
  rw [outcome, outcome, Activity.interleave_append]
  refine ⟨⟨fun key member => ?_, fun fresh first second wrapper wrapper' found found' same => ?_, keyed.size_le⟩, ?_, ?_⟩
  · obtain ⟨wrapper, ⟨source, found⟩, path⟩ := keyed.remembered key member
    exact ⟨source, wrapper, found, path⟩
  · obtain ⟨traced, -⟩ := outcome_serves memo cache fresh
    have file := traced.memo first wrapper found
    have file' := traced.memo second wrapper' found'
    obtain rfl := traced.told.eq_of_same fresh (List.mem_map_of_mem file) (List.mem_map_of_mem file') (beq_iff_eq.mpr same)
    exact congrArg Prod.snd (List.inj_on_of_nodup_map traced.told.distinct file file' rfl)
  · simpa only [Compiler.size, Table.size, List.length_map] using grows.cache.length_le
  · exact grows.memo.length_le

/-- Two calls for one view, of which one turns hydration off. -/
def bothHydrations : List (Call × List Path) :=
  [(plainCall, [{ text := "views/P.svelte" }]),
    ({ plainCall with options := { plainCall.options with hydratable := some false } }, [{ text := "views/P.svelte" }])]

/-- Two calls that take turns both write a wrapper. One wrapper stays, and the cache gets as large as the bound allows. -/
theorem racing_renders_reach_bound : ∃ engine,
    install { Config.ofDefaults with cache := some true } none oneView = .ok engine ∧
      let final := (outcome willing Store.countingToken engine (renders bothHydrations) (List.replicate 11 [0, 1]).flatten).2
      final.wrappers.drawn = 2 ∧ Fresh Store.countingToken final.wrappers.drawn ∧ final.wrappers.memo.size = 1 ∧
        final.compiler.size = 2 ∧ Bounded Store.countingToken final := by
  have facts : (install { Config.ofDefaults with cache := some true } none oneView).toOption.any (fun engine =>
      let final := (outcome willing Store.countingToken engine (renders bothHydrations) (List.replicate 11 [0, 1]).flatten).2
      final.wrappers.drawn == 2 && final.wrappers.memo.size == 1 && final.compiler.size == 2) := by decide +kernel
  cases installed : install { Config.ofDefaults with cache := some true } none oneView with
  | error error => simp [installed, Except.toOption] at facts
  | ok engine =>
    simp only [installed, Except.toOption, Option.any_some, Bool.and_eq_true, beq_iff_eq] at facts
    obtain ⟨⟨drawn, memo⟩, cache⟩ := facts
    refine ⟨engine, rfl, drawn, ?_, memo, cache, (renders_bounded (.installed installed) bothHydrations _ []).1⟩
    rw [drawn]
    exact ⟨by decide +kernel, by decide +kernel⟩

end Engine
end ComponentViews
