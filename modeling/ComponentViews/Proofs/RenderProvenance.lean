import ComponentViews.Proofs.CompileProvenance
import ComponentViews.Proofs.EngineClearing

/-! What a render is served while renders and clearings of one engine are interleaved. The
name of a wrapper file is drawn once, for one view, so a cache key of one call never
stands for a build of another view. -/

namespace ComponentViews.Engine
open Wrapper (Store)
open Wrapper.Store (Fresh Told fileName Creation)
open Compile (Job Journal Makers MadeFor Counted CompiledView)
open Compile.Compiler (Provided)

/-- A request to an engine: a call with the paths to try for its view, or to clear the engine. -/
inductive Request where
  | render (call : Call) (candidates : List Path)
  | clear

/-- A request before its first step. -/
def Request.phase : Request → Rendering ⊕ Clearing
  | .render call candidates => .inl (.looking call candidates)
  | .clear => .inr (.resetting .forgetting)

abbrev Answer := Except ViewError String ⊕ Except ViewError Unit

/-- Renders and clearings on one engine. -/
def serving (collaborators : Compile.Collaborators) (token : Nat → String) : Activity Engine (Rendering ⊕ Clearing) Answer :=
  (Rendering.activity collaborators token).either Clearing.activity

/-- The file that a step writes, with the source whose wrapper it is. -/
def writes (token : Nat → String) : Creation → Store → List (Path × List Path.Component)
  | .writing source _, store => [(store.fileFor token, source.components)]
  | _, _ => []

/-- The file that a step of a render writes. -/
def Rendering.writes (token : Nat → String) : Rendering → Engine → List (Path × List Path.Component)
  | .wrapping _ _ phase, engine => Engine.writes token phase engine.wrappers
  | _, _ => []

/-- The evaluation that a step of a render makes. -/
def Rendering.makes : Rendering → Engine → Makers
  | .compiling _ _ _ phase, engine => phase.makes engine.compiler
  | _, _ => []

/-- The files that steps have set out to write, each with the source whose wrapper it is. -/
def written (token : Nat → String) (taken : List ((Rendering ⊕ Clearing) × Engine)) : List (Path × List Path.Component) :=
  taken.flatMap fun
    | (.inl phase, engine) => phase.writes token engine
    | (.inr _, _) => []

/-- The evaluations that steps have made, each with the cache key that it was for. -/
def evaluated (taken : List ((Rendering ⊕ Clearing) × Engine)) : Makers :=
  taken.flatMap fun
    | (.inl phase, engine) => phase.makes engine
    | (.inr _, _) => []

/-- What a call has compiled for a wrapper. -/
def Call.job (call : Call) (defaults : Build.Options) (wrapper : Path) : Job :=
  { path := wrapper, options := call.buildOptions defaults }

/-- The jobs that calls may have: for a wrapper that was written, with the options of some call. -/
def Served (defaults : Build.Options) (files : List (Path × List Path.Component)) (job : Job) : Prop :=
  (∃ call : Call, job.options = call.buildOptions defaults) ∧ ∃ key, (job.path, key) ∈ files

/-- What a call for a wrapper knows of it. -/
def Wraps (view : Path) (files : List (Path × List Path.Component)) : Creation → Prop
  | .checking source => source = view
  | .loading source => source = view
  | .writing source _ => source = view
  | .claiming source own => source = view ∧ (own, view.components) ∈ files
  | .discarding _ winner => (winner, view.components) ∈ files

/-- What a call has to show for itself in its phases. -/
def Rendering.Sound (defaults : Build.Options) (files : List (Path × List Path.Component)) (makers : Makers)
    (journal : Journal) : Rendering → Prop
  | .wrapping _ view phase => Wraps view files phase
  | .compiling call view wrapper phase =>
    (wrapper, view.components) ∈ files ∧ phase.Sound makers (call.job defaults wrapper) journal
  | .rendering call view wrapper compiled =>
    (wrapper, view.components) ∈ files ∧ MadeFor makers (call.job defaults wrapper) compiled journal
  | _ => True

/-- What a call of either kind has to show for itself. -/
def Sound (defaults : Build.Options) (files : List (Path × List Path.Component)) (makers : Makers) (journal : Journal) :
    Progress (Rendering ⊕ Clearing) Answer → Prop
  | .running (.inl phase) => phase.Sound defaults files makers journal
  | _ => True

/-- What renders and clearings keep: names are drawn once, evaluations numbered once, and whatever is remembered or
cached says for which view. -/
structure Traced (token : Nat → String) (defaults : Build.Options) (directory : Path)
    (files : List (Path × List Path.Component)) (makers : Makers) (engine : Engine) : Prop where
  options : engine.defaults = defaults
  scratch : engine.wrappers.directory = directory
  told : Told token directory engine.wrappers.drawn (files.map Prod.fst)
  memo : ∀ key wrapper, engine.wrappers.memo.find? key = some wrapper → (wrapper, key) ∈ files
  cache : Provided (Served defaults files) makers engine.compiler
  counted : Counted makers engine.compiler.journal

variable {token : Nat → String} {defaults : Build.Options} {directory : Path}
  {files moreFiles : List (Path × List Path.Component)} {makers moreMakers : Makers} {engine : Engine}

theorem Wraps.mono {view : Path} {phase : Creation} (wraps : Wraps view files phase) (within : files ⊆ moreFiles) :
    Wraps view moreFiles phase := by
  cases phase with
  | checking => exact wraps
  | loading => exact wraps
  | writing => exact wraps
  | claiming => exact ⟨wraps.1, within wraps.2⟩
  | discarding => exact within wraps

theorem Sound.mono {before after : Journal} {call : Progress (Rendering ⊕ Clearing) Answer}
    (sound : Sound defaults files makers before call) (within : files ⊆ moreFiles) (within' : makers ⊆ moreMakers)
    (grows : before.Sublist after) : Sound defaults moreFiles moreMakers after call := by
  match call with
  | .running (.inl (.looking _ _)) => trivial
  | .running (.inl (.wrapping _ _ _)) => exact Wraps.mono sound within
  | .running (.inl (.compiling _ _ _ _)) => exact ⟨within sound.1, sound.2.mono within' grows⟩
  | .running (.inl (.rendering _ _ _ _)) => exact ⟨within sound.1, sound.2.mono within' grows⟩
  | .running (.inl (.templating _ _ _ _)) => trivial
  | .running (.inr _) => trivial
  | .finished _ => trivial

/-- Jobs of one cache key are alike. -/
theorem Traced.alike (traced : Traced token defaults directory files makers engine)
    (fresh : Fresh token engine.wrappers.drawn) {first second : Job} (served : Served defaults files first)
    (served' : Served defaults files second) (same : first.key = second.key) : first.Alike second := by
  obtain ⟨⟨call, options⟩, key, member⟩ := served
  obtain ⟨⟨call', options'⟩, key', member'⟩ := served'
  have path : first.path = second.path := by
    refine traced.told.eq_of_same fresh (List.mem_map_of_mem member) (List.mem_map_of_mem member') ?_
    exact beq_iff_eq.mpr (congrArg Compile.Key.path same)
  have hydratable : first.options.hydratable = second.options.hydratable := congrArg Compile.Key.hydratable same
  refine ⟨path, ?_⟩
  rw [options, options'] at hydratable ⊢
  simp only [Call.buildOptions] at hydratable ⊢
  rw [hydratable]

/-- What is left of a call for a wrapper after a step. -/
def Wrapped (view : Path) (files : List (Path × List Path.Component)) : Progress Creation (Except ViewError Path) → Prop
  | .running phase => Wraps view files phase
  | .finished (.ok wrapper) => (wrapper, view.components) ∈ files
  | .finished (.error _) => True

theorem wrapping_step {view : Path} {phase : Creation} {store : Store}
    (told : Told token store.directory store.drawn (files.map Prod.fst))
    (memo : ∀ key wrapper, store.memo.find? key = some wrapper → (wrapper, key) ∈ files)
    (wraps : Wraps view files phase) (fresh : Fresh token (phase.step token store).2.drawn) :
    (phase.step token store).2.directory = store.directory ∧
      Told token store.directory (phase.step token store).2.drawn ((files ++ writes token phase store).map Prod.fst) ∧
      (∀ key wrapper, (phase.step token store).2.memo.find? key = some wrapper →
        (wrapper, key) ∈ files ++ writes token phase store) ∧
      Wrapped view (files ++ writes token phase store) (phase.step token store).1 := by
  cases phase with
  | checking source =>
    obtain rfl : source = view := wraps
    simp only [Creation.step, writes, List.append_nil]
    split
    next wrapper found => exact ⟨rfl, told, memo, memo _ _ found⟩
    next => exact ⟨rfl, told, memo, rfl⟩
  | loading source =>
    simp only [Creation.step, writes, List.append_nil]
    split
    · exact ⟨rfl, told, memo, wraps⟩
    · split
      · exact ⟨rfl, told, memo, wraps⟩
      · exact ⟨rfl, told, memo, trivial⟩
  | writing source skeleton =>
    obtain rfl : source = view := wraps
    have old : ∀ key wrapper, store.memo.find? key = some wrapper →
        (wrapper, key) ∈ files ++ [(store.fileFor token, source.components)] :=
      fun key wrapper found => List.mem_append_left _ (memo key wrapper found)
    have moved : ((files ++ [(store.fileFor token, source.components)]).map Prod.fst).Perm
        (store.directory / fileName token store.drawn :: files.map Prod.fst) := by
      rw [List.map_append]
      exact List.perm_append_comm
    simp only [Creation.step, writes] at fresh ⊢
    split at fresh
    · exact ⟨rfl, (told.draw fresh).perm moved, old, rfl, by simp⟩
    · exact ⟨rfl, (told.draw fresh).perm moved, old, trivial⟩
  | claiming source own =>
    obtain ⟨rfl, member⟩ : source = view ∧ (own, view.components) ∈ files := wraps
    simp only [Creation.step, writes, List.append_nil]
    split
    next absent =>
      refine ⟨rfl, told, fun key wrapper found => ?_, member⟩
      rw [Table.find?_insert] at found
      split at found
      next same => cases found; rw [same]; exact member
      next => exact memo key wrapper found
    next winner found =>
      split
      · exact ⟨rfl, told, memo, memo _ _ found⟩
      · exact ⟨rfl, told, memo, memo _ _ found⟩
  | discarding own winner =>
    simp only [Creation.step, writes, List.append_nil]
    split
    · exact ⟨rfl, told, memo, wraps⟩
    · exact ⟨rfl, told, memo, wraps⟩

/-- What a step of a call of either kind leaves. -/
structure Serves (token : Nat → String) (defaults : Build.Options) (directory : Path)
    (files : List (Path × List Path.Component)) (makers : Makers) (before after : Engine)
    (next : Progress (Rendering ⊕ Clearing) Answer) : Prop where
  traced : Traced token defaults directory files makers after
  grows : before.compiler.journal.Sublist after.compiler.journal
  sound : Sound defaults files makers after.compiler.journal next

theorem Traced.of_wrappers {store : Store} (traced : Traced token defaults directory files makers engine)
    (within : files ⊆ moreFiles) (scratch : store.directory = engine.wrappers.directory)
    (told : Told token directory store.drawn (moreFiles.map Prod.fst))
    (memo : ∀ key wrapper, store.memo.find? key = some wrapper → (wrapper, key) ∈ moreFiles) :
    Traced token defaults directory moreFiles makers { engine with wrappers := store } where
  options := traced.options
  scratch := scratch.trans traced.scratch
  told := told
  memo := memo
  cache := traced.cache.mono fun _ served => ⟨served.1, served.2.imp fun _ member => within member⟩
  counted := traced.counted

theorem wrapping_engine (collaborators : Compile.Collaborators) (call : Call) (view : Path) (phase : Creation) :
    (Rendering.step collaborators token (.wrapping call view phase) engine).2 =
      { engine with wrappers := (phase.step token engine.wrappers).2 } := by
  simp only [Rendering.step]
  split <;> rfl

theorem compiling_engine (collaborators : Compile.Collaborators) (call : Call) (view wrapper : Path)
    (phase : Compile.Compiler.Phase) :
    (Rendering.step collaborators token (.compiling call view wrapper phase) engine).2 =
      { engine with compiler := (phase.step collaborators engine.compiler).2 } := by
  simp only [Rendering.step]
  split <;> rfl

theorem resetting_engine (phase : Store.Reset) :
    (Clearing.step (.resetting phase) engine).2 = { engine with wrappers := (phase.step engine.wrappers).2 } := by
  simp only [Clearing.step]
  split <;> rfl

theorem rendering_serves {collaborators : Compile.Collaborators} {phase : Rendering}
    (traced : Traced token defaults directory files makers engine)
    (sound : phase.Sound defaults files makers engine.compiler.journal)
    (fresh : Fresh token (phase.step collaborators token engine).2.wrappers.drawn) :
    Serves token defaults directory (files ++ phase.writes token engine) (makers ++ phase.makes engine) engine
      (phase.step collaborators token engine).2 (phase.step collaborators token engine).1.asLeft := by
  cases phase with
  | looking call candidates =>
    simp only [Rendering.writes, Rendering.makes, List.append_nil]
    cases candidates with
    | nil => exact ⟨traced, List.Sublist.refl _, trivial⟩
    | cons candidate rest =>
      simp only [Rendering.step]
      split
      · exact ⟨traced, List.Sublist.refl _, rfl⟩
      · exact ⟨traced, List.Sublist.refl _, trivial⟩
  | wrapping call view phase =>
    simp only [Rendering.writes, Rendering.makes, List.append_nil]
    rw [wrapping_engine] at fresh ⊢
    obtain ⟨scratch, told, memo, wrapped⟩ := wrapping_step (by rw [traced.scratch]; exact traced.told) traced.memo sound fresh
    rw [traced.scratch] at told
    refine ⟨traced.of_wrappers (List.subset_append_left _ _) scratch told memo, List.Sublist.refl _, ?_⟩
    simp only [Rendering.step]
    cases next : (phase.step token engine.wrappers).1 with
    | running phase =>
      rw [next] at wrapped
      exact wrapped
    | finished result =>
      rw [next] at wrapped
      cases result with
      | error error => trivial
      | ok wrapper =>
        have member : (wrapper, view.components) ∈ files ++ writes token phase engine.wrappers := wrapped
        refine ⟨member, ?_⟩
        rw [Call.job, traced.options]
        rfl
  | compiling call view wrapper phase =>
    simp only [Rendering.writes, Rendering.makes, List.append_nil]
    obtain ⟨member, sound⟩ : (wrapper, view.components) ∈ files ∧
      phase.Sound makers (call.job defaults wrapper) engine.compiler.journal := sound
    rw [compiling_engine] at fresh ⊢
    have served : Served defaults files (call.job defaults wrapper) := ⟨⟨call, rfl⟩, view.components, member⟩
    have provides := Compile.Compiler.step_provides collaborators traced.cache traced.counted served
      (fun _ served' same => traced.alike fresh served' served same) sound
    have achieved := provides.achieved
    refine ⟨{ traced with cache := provides.provided, counted := provides.counted }, provides.grows, ?_⟩
    simp only [Rendering.step]
    cases next : (phase.step collaborators engine.compiler).1 with
    | running phase =>
      rw [next] at achieved
      exact ⟨member, achieved⟩
    | finished result =>
      rw [next] at achieved
      cases result with
      | error error => trivial
      | ok compiled => exact ⟨member, achieved⟩
  | rendering call view wrapper compiled =>
    simp only [Rendering.writes, Rendering.makes, List.append_nil, Rendering.step, Compile.Collaborators.rendered]
    have grown := List.sublist_cons_self (.rendered compiled.component (call.context engine.globalAssets)
      (collaborators.render engine.compiler.journal compiled.component (call.context engine.globalAssets)))
      engine.compiler.journal
    have cache : Provided (Served defaults files) makers { engine.compiler with
        journal := .rendered compiled.component (call.context engine.globalAssets)
          (collaborators.render engine.compiler.journal compiled.component (call.context engine.globalAssets)) ::
            engine.compiler.journal } := traced.cache.journal (List.Subset.refl _) rfl grown
    split
    · exact ⟨{ traced with cache, counted := traced.counted.mono grown }, grown, trivial⟩
    · exact ⟨{ traced with cache, counted := traced.counted.mono grown }, grown, trivial⟩
  | templating call view collected output =>
    simp only [Rendering.writes, Rendering.makes, List.append_nil]
    exact ⟨traced, List.Sublist.refl _, trivial⟩

/-- A step of a reset stays in its directory, and remembers no more than before. -/
theorem reset_step (phase : Store.Reset) (store : Store) :
    (phase.step store).2.directory = store.directory ∧
      ∀ key wrapper, (phase.step store).2.memo.find? key = some wrapper → store.memo.find? key = some wrapper := by
  cases phase with
  | forgetting => exact ⟨rfl, fun _ _ found => by simp [Store.Reset.step] at found⟩
  | removing => rw [Store.removing_step]; exact ⟨rfl, fun _ _ found => found⟩
  | recreating => rw [Store.recreating_step]; exact ⟨rfl, fun _ _ found => found⟩

theorem clearing_serves {phase : Clearing} (traced : Traced token defaults directory files makers engine) :
    Serves token defaults directory files makers engine (phase.step engine).2 (phase.step engine).1.asRight := by
  have sound : Sound defaults files makers (phase.step engine).2.compiler.journal (phase.step engine).1.asRight := by
    cases (phase.step engine).1 <;> trivial
  cases phase with
  | resetting phase =>
    rw [resetting_engine] at sound ⊢
    obtain ⟨scratch, remembered⟩ := reset_step phase engine.wrappers
    refine ⟨traced.of_wrappers (List.Subset.refl _) scratch ?_ fun key wrapper found => ?_, List.Sublist.refl _, sound⟩
    · rw [Store.reset_drawn]
      exact traced.told
    · exact traced.memo key wrapper (remembered key wrapper found)
  | forgetting =>
    refine ⟨{ traced with cache := fun key compiled found => ?_ }, List.Sublist.refl _, sound⟩
    simp [Clearing.step, Compile.Compiler.find?, Compile.Compiler.clear] at found

theorem serving_serves {collaborators : Compile.Collaborators} {taken : List ((Rendering ⊕ Clearing) × Engine)}
    {phase : Rendering ⊕ Clearing}
    (traced : Traced token defaults directory (written token taken) (evaluated taken) engine)
    (sound : Sound defaults (written token taken) (evaluated taken) engine.compiler.journal (.running phase))
    (fresh : Fresh token ((serving collaborators token).step phase engine).2.wrappers.drawn) :
    Serves token defaults directory (written token (taken ++ [(phase, engine)])) (evaluated (taken ++ [(phase, engine)])) engine
      ((serving collaborators token).step phase engine).2 ((serving collaborators token).step phase engine).1 := by
  rw [written, evaluated, List.flatMap_append, List.flatMap_append, List.flatMap_singleton, List.flatMap_singleton]
  cases phase with
  | inl phase =>
    rw [serving, Activity.either_step_inl] at fresh ⊢
    exact rendering_serves traced sound fresh
  | inr phase =>
    rw [serving, Activity.either_step_inr]
    simp only [List.append_nil]
    exact clearing_serves traced

theorem drawn_le_serving (collaborators : Compile.Collaborators) (phase : Rendering ⊕ Clearing) (engine : Engine) :
    engine.wrappers.drawn ≤ ((serving collaborators token).step phase engine).2.wrappers.drawn := by
  cases phase with
  | inl phase =>
    rw [serving, Activity.either_step_inl]
    change _ ≤ (phase.step collaborators token engine).2.wrappers.drawn
    cases phase with
    | looking call candidates => cases candidates <;> simp only [Rendering.step] <;> grind
    | wrapping call view phase =>
      rw [wrapping_engine]
      exact Store.drawn_le_step token phase engine.wrappers
    | compiling call view wrapper phase => rw [compiling_engine]
    | rendering call view wrapper compiled => simp only [Rendering.step]; grind
    | templating call view collected output => exact Nat.le_refl _
  | inr phase =>
    rw [serving, Activity.either_step_inr]
    change _ ≤ (phase.step engine).2.wrappers.drawn
    cases phase with
    | resetting phase =>
      rw [resetting_engine]
      exact Nat.le_of_eq (Store.reset_drawn phase engine.wrappers).symm
    | forgetting => exact Nat.le_refl _

section
variable (collaborators : Compile.Collaborators) (token : Nat → String) (engine : Engine) (requests : List Request)
  (schedule : List Nat)

/-- Requests to an engine, none of which has taken a step. -/
def requested : List (Progress (Rendering ⊕ Clearing) Answer) × Engine :=
  (requests.map fun request => .running request.phase, engine)

/-- The steps that a schedule takes. -/
def history : List ((Rendering ⊕ Clearing) × Engine) :=
  (serving collaborators token).steps schedule (requested engine requests)

/-- What a schedule comes to. -/
def outcome : List (Progress (Rendering ⊕ Clearing) Answer) × Engine :=
  (serving collaborators token).interleave schedule (requested engine requests)

end

theorem install_eq_ok {config : Config} {processEnv : Option String} {files : FileSystem}
    (installed : install config processEnv files = .ok engine) :
    engine.wrappers.memo = .empty ∧ engine.compiler = .new := by
  simp only [install, bind, Except.bind, pure, Except.pure] at installed
  split at installed
  · cases installed
  split at installed
  · cases installed
  next wrappers reset =>
    split at installed
    · cases installed
    · cases installed
      have forgotten := Store.reset_memo (.new files (files.absolute config.serverScratch) config.wrapperTemplatePath)
      rw [reset] at forgotten
      exact ⟨forgotten, rfl⟩

/-- Whatever the interleaving, the calls of an engine have their provenance to show. -/
theorem outcome_serves {collaborators : Compile.Collaborators} {requests : List Request} {schedule : List Nat}
    (memo : engine.wrappers.memo = .empty) (cache : engine.compiler.cache = .empty)
    (fresh : Fresh token (outcome collaborators token engine requests schedule).2.wrappers.drawn) :
    Traced token engine.defaults engine.wrappers.directory (written token (history collaborators token engine requests schedule))
      (evaluated (history collaborators token engine requests schedule))
      (outcome collaborators token engine requests schedule).2 ∧
    ∀ call ∈ (outcome collaborators token engine requests schedule).1,
      Sound engine.defaults (written token (history collaborators token engine requests schedule))
        (evaluated (history collaborators token engine requests schedule))
        (outcome collaborators token engine requests schedule).2.compiler.journal call := by
  refine (serving collaborators token).steps_induction (motive := fun taken calls state =>
    Fresh token state.wrappers.drawn →
      Traced token engine.defaults engine.wrappers.directory (written token taken) (evaluated taken) state ∧
        ∀ call ∈ calls, Sound engine.defaults (written token taken) (evaluated taken) state.compiler.journal call)
    ?_ schedule [] (requested engine requests) ?_ fresh
  · intro taken calls state index phase before found fresh
    obtain ⟨traced, sound⟩ := before (fresh.mono (drawn_le_serving collaborators phase state))
    have serves := serving_serves traced (sound _ (List.mem_of_getElem? found)) fresh
    refine ⟨serves.traced, fun call member => ?_⟩
    rcases List.mem_or_eq_of_mem_set member with old | new
    · refine (sound call old).mono ?_ ?_ serves.grows
      · rw [written, written, List.flatMap_append]
        exact List.subset_append_left _ _
      · rw [evaluated, evaluated, List.flatMap_append]
        exact List.subset_append_left _ _
    · exact new ▸ serves.sound
  · intro _
    refine ⟨⟨rfl, rfl, .nil, ?_, .of_empty cache, ⟨.nil, by simp [evaluated]⟩⟩, ?_⟩
    · simp [requested, memo]
    · intro call member
      obtain ⟨request, -, rfl⟩ := List.mem_map.mp member
      cases request <;> trivial

/-- However renders and clearings are interleaved on an installed engine, a call that comes to render is served what a
build of its own wrapper by its own options delivered. It was evaluated for no other wrapper or hydration, and the
wrapper was written for no other view. -/
theorem rendering_provenance {collaborators : Compile.Collaborators} {config : Config} {processEnv : Option String}
    {files : FileSystem} (installed : install config processEnv files = .ok engine) {requests : List Request}
    {schedule : List Nat} (fresh : Fresh token (outcome collaborators token engine requests schedule).2.wrappers.drawn)
    {call : Call} {view wrapper : Path} {compiled : CompiledView}
    (reached : .running (.inl (.rendering call view wrapper compiled)) ∈
      (outcome collaborators token engine requests schedule).1) :
    (∃ output fileName code map,
      [.evaluated compiled.component.module (.ok compiled.component),
        .built (.server (call.buildOptions engine.defaults) wrapper) (.ok output)].Sublist
          (outcome collaborators token engine requests schedule).2.compiler.journal ∧
      output.artifacts = [.chunk fileName code map] ∧ compiled.css = output.css ∧
      compiled.component.module.path = wrapper ∧ compiled.component.module.format = .cjs ∧
      compiled.component.module.code = match map with
        | some map => if (call.buildOptions engine.defaults).dev then Build.SourceMap.appendInline code map else code
        | none => code) ∧
    (∀ key, (compiled.component.evaluation, key) ∈ evaluated (history collaborators token engine requests schedule) ↔
      key = { path := wrapper.components, hydratable := (call.buildOptions engine.defaults).hydratable }) ∧
    (∀ key, (wrapper, key) ∈ written token (history collaborators token engine requests schedule) ↔
      key = view.components) := by
  obtain ⟨memo, compiler⟩ := install_eq_ok installed
  obtain ⟨traced, sound⟩ := outcome_serves memo (by rw [compiler]; rfl) fresh
  obtain ⟨file, maker, output, fileName, code, map, calls, artifacts, css, module⟩ := sound _ reached
  refine ⟨⟨output, fileName, code, map, calls, artifacts, css, ?_, ?_, ?_⟩, fun key => ⟨fun other => ?_, ?_⟩,
    fun key => ⟨fun other => ?_, ?_⟩⟩
  · rw [module]
    rfl
  · rw [module]
    rfl
  · rw [module]
    rfl
  · exact congrArg Prod.snd (List.inj_on_of_nodup_map traced.counted.distinct other maker rfl)
  · rintro rfl
    exact maker
  · exact congrArg Prod.snd (List.inj_on_of_nodup_map traced.told.distinct other file rfl)
  · rintro rfl
    exact file

/-- Whether a call has come to render. -/
def isRendering : Progress (Rendering ⊕ Clearing) Answer → Bool
  | .running (.inl (.rendering _ _ _ _)) => true
  | _ => false

theorem isRendering_iff {progress : Progress (Rendering ⊕ Clearing) Answer} : isRendering progress ↔
    ∃ call view wrapper compiled, progress = .running (.inl (.rendering call view wrapper compiled)) := by
  unfold isRendering
  split <;> simp_all

/-- Two requests for one view, and one to clear. -/
def twoRenders : List Request :=
  [.render plainCall [{ text := "views/P.svelte" }], .render plainCall [{ text := "views/P.svelte" }], .clear]

/-- The second of two calls comes to render without a build of its own, while a clearing is under way. -/
theorem cached_render_has_provenance : ∃ engine,
    install { Config.ofDefaults with cache := some true } none oneView = .ok engine ∧
      let final := outcome willing Store.countingToken engine twoRenders [0, 0, 0, 0, 0, 0, 0, 0, 0, 1, 1, 2, 1]
      Fresh Store.countingToken final.2.wrappers.drawn ∧ final.2.compiler.journal.countP Compile.Event.isBuild = 1 ∧
        ∃ call view wrapper compiled,
          final.1[1]? = some (Progress.running (Sum.inl (Rendering.rendering call view wrapper compiled))) ∧
          ∀ key, (wrapper, key) ∈ written Store.countingToken (history willing Store.countingToken engine twoRenders
            [0, 0, 0, 0, 0, 0, 0, 0, 0, 1, 1, 2, 1]) ↔ key = view.components := by
  have facts : (install { Config.ofDefaults with cache := some true } none oneView).toOption.any (fun engine =>
      let final := outcome willing Store.countingToken engine twoRenders [0, 0, 0, 0, 0, 0, 0, 0, 0, 1, 1, 2, 1]
      final.2.wrappers.drawn == 1 && final.2.compiler.journal.countP Compile.Event.isBuild == 1 &&
        final.1[1]?.any isRendering) := by decide +kernel
  cases installed : install { Config.ofDefaults with cache := some true } none oneView with
  | error error => simp [installed, Except.toOption] at facts
  | ok engine =>
    simp only [installed, Except.toOption, Option.any_some, Bool.and_eq_true, beq_iff_eq] at facts
    obtain ⟨⟨drawn, built⟩, there⟩ := facts
    have fresh : Fresh Store.countingToken (outcome willing Store.countingToken engine twoRenders
        [0, 0, 0, 0, 0, 0, 0, 0, 0, 1, 1, 2, 1]).2.wrappers.drawn := by
      rw [drawn]
      exact ⟨by decide +kernel, by decide +kernel⟩
    obtain ⟨progress, found, there⟩ := (Option.any_eq_true _ _).mp there
    obtain ⟨call, view, wrapper, compiled, rfl⟩ := isRendering_iff.mp there
    exact ⟨engine, rfl, fresh, built, call, view, wrapper, compiled, found,
      (rendering_provenance installed fresh (List.mem_of_getElem? found)).2.2⟩

end ComponentViews.Engine
