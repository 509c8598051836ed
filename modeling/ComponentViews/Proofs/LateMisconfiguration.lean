import ComponentViews.Proofs.EntryScripts
import ComponentViews.Proofs.RenderOutcome
import ComponentViews.Proofs.SkeletonSlots

/-! Which calls end in a configuration error. The skeleton of the wrappers is read by the first call that
needs it and not at installation, so what is wrong with it is found only then; a call has
no other configuration error. -/

namespace ComponentViews.Engine
open Wrapper (Store Skeleton Misslotted)
open Wrapper.Store (Creation)

/-- Something is wrong with the source of the skeleton that is configured. -/
def Malformed (config : Config) (files : FileSystem) (problem : Misconfiguration) : Prop :=
  ∃ path source, config.wrapperTemplatePath = some path ∧ files.readText? path = some source ∧ Misslotted source problem

/-- The file of the skeleton, where one is configured, reads as it did. -/
def SameSkeleton (config : Config) (before after : FileSystem) : Prop :=
  ∀ path, config.wrapperTemplatePath = some path → after.readText? path = before.readText? path

/-- The calls on an engine, each as far as it has come. -/
abbrev Calls : Type := List (Progress (Rendering ⊕ Clearing) Answer)

section
variable (collaborators : Compile.Collaborators) (token : Nat → String)

/-- What comes of an installed engine: requests arrive, one call after another takes a step, and files are changed by others,
but the file of the skeleton stays as it is. -/
inductive History (installed : Engine) : Calls → Engine → Prop where
  | installed : History installed [] installed
  | asked {calls : Calls} {engine : Engine} (before : History installed calls engine)
    (call : Call) : History installed (calls ++ [.running (.inl (.start engine call))]) engine
  | cleared {calls : Calls} {engine : Engine} (before : History installed calls engine) :
    History installed (calls ++ [.running (.inr (.resetting .forgetting))]) engine
  | advanced {calls : Calls} {engine : Engine} (before : History installed calls engine)
    {index : Nat} {phase : Rendering ⊕ Clearing} (found : calls[index]? = some (.running phase))
    (same : SameSkeleton installed.config installed.wrappers.files
      ((serving collaborators token).step phase engine).2.wrappers.files) :
    History installed (calls.set index ((serving collaborators token).step phase engine).1)
      ((serving collaborators token).step phase engine).2
  | changed {calls : Calls} {engine : Engine} (before : History installed calls engine)
    {files : FileSystem} (same : SameSkeleton installed.config installed.wrappers.files files) :
    History installed calls { engine with wrappers := { engine.wrappers with files } }

end

/-- What a store keeps that was set up with a path, where the skeleton reads so: it has loaded none but that one, and
remembers no wrapper while there is none to load. -/
structure Knows (path : Option Path) (read : Except ViewError Skeleton) (store : Store) : Prop where
  path : store.skeletonPath = path
  skeleton : ∀ skeleton, store.skeleton = some skeleton → read = .ok skeleton
  memo : ∀ error, read = .error error → store.memo = .empty

/-- A call for a wrapper is past the loading only with a skeleton. -/
def Past (read : Except ViewError Skeleton) : Creation → Prop
  | .checking _ => True
  | .loading _ => True
  | _ => ∃ skeleton, read = .ok skeleton

/-- A call is past its wrapper only with a skeleton. -/
def Rendering.Past (read : Except ViewError Skeleton) : Rendering → Prop
  | .looking _ _ => True
  | .wrapping _ _ phase => Engine.Past read phase
  | _ => ∃ skeleton, read = .ok skeleton

/-- A result is the error that the skeleton is read with, or there is a skeleton and no configuration error. -/
def Shows {Result : Type} (read : Except ViewError Skeleton) (result : Except ViewError Result) : Prop :=
  (∃ error, read = .error error ∧ result = .error error) ∨
    (∃ skeleton, read = .ok skeleton) ∧ ∀ problem, result ≠ .error (.configuration problem)

/-- A call has not got past the skeleton where there is none, or has ended for want of a view or as the skeleton reads. -/
def Accounted (read : Except ViewError Skeleton) : Progress (Rendering ⊕ Clearing) Answer → Prop
  | .running (.inl phase) => phase.Past read
  | .finished (.inl result) => (∃ name roots, result = .error (.lookup name roots)) ∨ Shows read result
  | _ => True

variable {config : Config} {path : Option Path} {read : Except ViewError Skeleton} {store : Store} {engine state : Engine}
  {collaborators : Compile.Collaborators} {token : Nat → String} {calls : Calls}

theorem Shows.of_ok {Result : Type} (usable : ∃ skeleton, read = .ok skeleton) (value : Result) : Shows read (.ok value) := by
  refine .inr ⟨usable, fun problem same => ?_⟩
  cases same

theorem Shows.of_error {Result : Type} {error : ViewError} (usable : ∃ skeleton, read = .ok skeleton)
    (other : ∀ problem, error ≠ .configuration problem) : Shows read (Except.error error : Except ViewError Result) := by
  refine .inr ⟨usable, fun problem same => other problem ?_⟩
  cases same
  rfl

theorem Shows.ok {Result : Type} {value : Result} (shows : Shows read (.ok value)) : ∃ skeleton, read = .ok skeleton := by
  rcases shows with ⟨error, -, same⟩ | ⟨usable, -⟩
  · cases same
  · exact usable

theorem Shows.error {Result Other : Type} {error : ViewError}
    (shows : Shows read (Except.error error : Except ViewError Result)) :
    Shows read (Except.error error : Except ViewError Other) := by
  rcases shows with ⟨other, refused, same⟩ | ⟨usable, other⟩
  · cases same
    exact .inl ⟨error, refused, rfl⟩
  · refine .of_error usable fun problem same => other problem ?_
    rw [same]

theorem Shows.configuration_iff {Result : Type} {result : Except ViewError Result} (shows : Shows read result)
    (problem : Misconfiguration) : result = .error (.configuration problem) ↔ read = .error (.configuration problem) := by
  rcases shows with ⟨error, refused, rfl⟩ | ⟨⟨skeleton, usable⟩, other⟩
  · rw [refused]
    constructor
    · intro same
      cases same
      rfl
    · intro same
      cases same
      rfl
  · rw [usable]
    exact ⟨fun same => absurd same (other problem), fun same => by cases same⟩

theorem readSkeleton_configuration_iff (store : Store) (problem : Misconfiguration) :
    store.readSkeleton = .error (.configuration problem) ↔
    ∃ path source, store.skeletonPath = some path ∧ store.files.readText? path = some source ∧ Misslotted source problem := by
  simp only [← Skeleton.parse_eq_error_iff]
  unfold Store.readSkeleton
  cases configured : store.skeletonPath with
  | none => simp
  | some path =>
    cases text : store.files.readText? path with
    | none => simp [text]
    | some source =>
      cases parsed : Skeleton.parse source with
      | error other => simp [text, parsed, Except.mapError]
      | ok skeleton => simp [text, parsed, Except.mapError]

namespace Knows

theorem template (knows : Knows path read store) (reads : store.readSkeleton = read) : store.template = read := by
  unfold Store.template
  split
  next skeleton loaded => exact (knows.skeleton skeleton loaded).symm
  next => exact reads

/-- A step of a call for a wrapper, which finds the skeleton as it reads. -/
theorem creation (knows : Knows path read store) (reads : store.template = read) (token : Nat → String) {phase : Creation}
    (past : Past read phase) :
    Knows path read (phase.step token store).2 ∧
      match (phase.step token store).1 with
      | .running next => Past read next
      | .finished result => Shows read result := by
  -- A wrapper was entered by a call that had a skeleton.
  have usable {source wrapper : Path} (found : store.find? source = some wrapper) : ∃ skeleton, read = .ok skeleton := by
    cases outcome : read with
    | ok skeleton => exact ⟨skeleton, rfl⟩
    | error error => simp [Store.find?, knows.memo error outcome] at found
  cases phase with
  | checking source =>
    simp only [Creation.step]
    split
    next wrapper found => exact ⟨knows, .of_ok (usable found) wrapper⟩
    next => exact ⟨knows, trivial⟩
  | loading source =>
    have step := Store.loading_step token source store
    change Creation.step token (.loading source) store = _ at step
    rw [step, reads]
    cases outcome : read with
    | error error =>
      rw [outcome] at knows
      exact ⟨knows, .inl ⟨error, rfl, rfl⟩⟩
    | ok skeleton =>
      rw [outcome] at knows
      exact ⟨{ knows with skeleton := fun other same => by rw [Option.some.inj same] }, skeleton, rfl⟩
  | writing source skeleton =>
    simp only [Creation.step]
    split
    · exact ⟨⟨knows.path, knows.skeleton, knows.memo⟩, past⟩
    · exact ⟨⟨knows.path, knows.skeleton, knows.memo⟩, .of_error past (by simp)⟩
  | claiming source own =>
    have memo (store : Store) (error : ViewError) (refused : read = .error error) : store.memo = .empty := by
      obtain ⟨skeleton, outcome⟩ : ∃ skeleton, read = .ok skeleton := past
      rw [outcome] at refused
      cases refused
    simp only [Creation.step]
    split
    next absent => exact ⟨⟨knows.path, knows.skeleton, memo _⟩, .of_ok past own⟩
    next winner found =>
      split
      · exact ⟨knows, .of_ok past winner⟩
      · exact ⟨knows, past⟩
  | discarding own winner =>
    simp only [Creation.step]
    split
    · exact ⟨⟨knows.path, knows.skeleton, knows.memo⟩, .of_ok past winner⟩
    · exact ⟨knows, .of_ok past winner⟩

theorem reset (knows : Knows path read store) (phase : Store.Reset) : Knows path read (phase.step store).2 := by
  cases phase with
  | forgetting => exact ⟨knows.path, knows.skeleton, fun _ _ => rfl⟩
  | removing =>
    rw [Store.removing_step]
    exact ⟨knows.path, knows.skeleton, knows.memo⟩
  | recreating =>
    rw [Store.recreating_step]
    exact ⟨knows.path, knows.skeleton, knows.memo⟩

/-- A call for a wrapper that runs on its own. -/
theorem create (knows : Knows path read store) (reads : store.template = read) (token : Nat → String) (view : Path) :
    Shows read (store.create token view).1 := by
  rw [Store.create_eq, reads]
  split
  next wrapper found =>
    have first : Past read (.checking view) := trivial
    have checked := (knows.creation reads token first).2
    simp only [Creation.step, found] at checked
    exact checked
  next =>
    split
    next error => exact .inl ⟨error, rfl, rfl⟩
    next skeleton =>
      split
      · exact .of_ok ⟨skeleton, rfl⟩ _
      · exact .of_error ⟨skeleton, rfl⟩ (by simp)

end Knows

theorem page_not_configuration (engine : Engine) (call : Call) (view : Path) (collected : String) (output : Render.Output)
    (problem : Misconfiguration) : engine.page call view collected output ≠ .error (.configuration problem) := by
  intro refused
  have stage := page_error refused
  cases stage

/-- A step of a render. -/
theorem rendering_accounted (collaborators : Compile.Collaborators) (token : Nat → String) (knows : Knows path read engine.wrappers)
    (reads : engine.wrappers.template = read) {phase : Rendering} (past : phase.Past read) :
    Knows path read (phase.step collaborators token engine).2.wrappers ∧
      Accounted read (phase.step collaborators token engine).1.asLeft := by
  cases phase with
  | looking call candidates =>
    cases candidates with
    | nil => exact ⟨knows, .inl ⟨_, _, rfl⟩⟩
    | cons candidate rest =>
      simp only [Rendering.step]
      split
      · exact ⟨knows, trivial⟩
      · exact ⟨knows, trivial⟩
  | wrapping call view phase =>
    obtain ⟨knows, next⟩ := knows.creation reads token past
    rw [wrapping_engine]
    refine ⟨knows, ?_⟩
    simp only [Rendering.step]
    cases progress : (phase.step token engine.wrappers).1 with
    | running phase =>
      rw [progress] at next
      exact next
    | finished result =>
      rw [progress] at next
      cases result with
      | error error => exact .inr next.error
      | ok wrapper => exact next.ok
  | compiling call view wrapper phase =>
    rw [compiling_engine]
    refine ⟨knows, ?_⟩
    simp only [Rendering.step]
    split
    · exact past
    · exact .inr (.of_error past (by simp))
    · exact past
  | rendering call view wrapper compiled =>
    simp only [Rendering.step]
    split
    · exact ⟨knows, .inr (.of_error past (by simp))⟩
    · exact ⟨knows, past⟩
  | templating call view collected output =>
    exact ⟨knows, .inr (.inr ⟨past, page_not_configuration engine call view collected output⟩)⟩

theorem clearing_knows (knows : Knows path read engine.wrappers) (phase : Clearing) :
    Knows path read (phase.step engine).2.wrappers := by
  cases phase with
  | resetting phase =>
    rw [resetting_engine]
    exact knows.reset phase
  | forgetting => exact knows

/-- A step of a call of either kind. -/
theorem serving_accounted (collaborators : Compile.Collaborators) (token : Nat → String) (knows : Knows path read engine.wrappers)
    (reads : engine.wrappers.template = read) {phase : Rendering ⊕ Clearing} (accounted : Accounted read (.running phase)) :
    Knows path read ((serving collaborators token).step phase engine).2.wrappers ∧
      Accounted read ((serving collaborators token).step phase engine).1 := by
  cases phase with
  | inl phase =>
    rw [serving, Activity.either_step_inl]
    exact rendering_accounted collaborators token knows reads accounted
  | inr phase =>
    rw [serving, Activity.either_step_inr]
    refine ⟨clearing_knows knows phase, ?_⟩
    change Accounted read (phase.step engine).1.asRight
    cases (phase.step engine).1 with
    | running next => trivial
    | finished result => trivial

theorem History.same {installed : Engine} (history : History collaborators token installed calls engine) :
    SameSkeleton installed.config installed.wrappers.files engine.wrappers.files := by
  induction history with
  | installed => exact fun _ _ => rfl
  | asked before call same => exact same
  | cleared before same => exact same
  | advanced before found same _ => exact same
  | changed before same _ => exact same

theorem Knows.reads {installed : Engine} (knows : Knows installed.config.wrapperTemplatePath read engine.wrappers)
    (same : SameSkeleton installed.config installed.wrappers.files engine.wrappers.files)
    (path : installed.wrappers.skeletonPath = installed.config.wrapperTemplatePath)
    (reads : installed.wrappers.readSkeleton = read) : engine.wrappers.template = read := by
  apply knows.template
  rw [← reads, Store.readSkeleton, Store.readSkeleton, knows.path, path]
  split
  next => rfl
  next path configured => rw [same path configured]

/-- What holds of an installed engine holds of all that comes of it. -/
theorem History.accounted {installed : Engine} (history : History collaborators token installed calls engine)
    (knows : Knows installed.config.wrapperTemplatePath read installed.wrappers) (reads : installed.wrappers.readSkeleton = read) :
    Knows installed.config.wrapperTemplatePath read engine.wrappers ∧ ∀ call ∈ calls, Accounted read call := by
  induction history with
  | installed => exact ⟨knows, fun call member => absurd member List.not_mem_nil⟩
  | asked before call accounted =>
    refine ⟨accounted.1, List.forall_mem_append.mpr ⟨accounted.2, ?_⟩⟩
    exact List.forall_mem_singleton.mpr trivial
  | cleared before accounted =>
    refine ⟨accounted.1, List.forall_mem_append.mpr ⟨accounted.2, ?_⟩⟩
    exact List.forall_mem_singleton.mpr trivial
  | advanced before found same accounted =>
    obtain ⟨now, every⟩ := accounted
    -- The call finds the file as it was at installation, since it was so before the step.
    have step := serving_accounted collaborators token now (now.reads before.same knows.path reads)
      (every _ (List.mem_of_getElem? found))
    refine ⟨step.1, fun call member => ?_⟩
    rcases List.mem_or_eq_of_mem_set member with old | new
    · exact every call old
    · exact new ▸ step.2
  | changed before same accounted => exact ⟨⟨accounted.1.path, accounted.1.skeleton, accounted.1.memo⟩, accounted.2⟩

/-- A render that runs alone ends for want of a view, or as the skeleton reads. -/
theorem render_shows (collaborators : Compile.Collaborators) (token : Nat → String) (knows : Knows path read engine.wrappers)
    (reads : engine.wrappers.template = read) (call : Call) :
    (engine.found? call = none ∧ (engine.render collaborators token call).1 = .error (.lookup call.name engine.roots)) ∨
      ((engine.found? call).isSome ∧ Shows read (engine.render collaborators token call).1) := by
  obtain ⟨stage, journal, ends, -⟩ := render_ends collaborators token engine call
  generalize (engine.render collaborators token call).1 = result at ends
  have past {view wrapper : Path} (found : engine.found? call = some view)
      (wrapped : (engine.wrappers.create token view).1 = .ok wrapper) :
      (engine.found? call).isSome ∧ ∃ skeleton, read = .ok skeleton := by
    have shows := knows.create reads token view
    rw [wrapped] at shows
    exact ⟨by rw [found]; rfl, shows.ok⟩
  cases ends with
  | lookup absent => exact .inl ⟨absent, rfl⟩
  | @wrap view error found failed =>
    have shows := knows.create reads token view
    rw [failed] at shows
    exact .inr ⟨by rw [found]; rfl, shows.error⟩
  | compile found wrapped failed =>
    obtain ⟨known, usable⟩ := past found wrapped
    exact .inr ⟨known, .of_error usable (by simp)⟩
  | render prepares failed =>
    obtain ⟨known, usable⟩ := past prepares.found prepares.wrapped
    exact .inr ⟨known, .of_error usable (by simp)⟩
  | template prepares rendered failed =>
    obtain ⟨known, usable⟩ := past prepares.found prepares.wrapped
    rw [← failed]
    exact .inr ⟨known, .inr ⟨usable, page_not_configuration engine call _ _ _⟩⟩
  | send prepares rendered filled =>
    obtain ⟨known, usable⟩ := past prepares.found prepares.wrapped
    exact .inr ⟨known, .of_ok usable _⟩

/-- An engine as installation leaves it has not looked at its skeleton. -/
theorem install_knows {processEnv : Option String} {files : FileSystem} (installed : install config processEnv files = .ok engine) :
    engine.config = config ∧ Knows config.wrapperTemplatePath engine.wrappers.readSkeleton engine.wrappers := by
  have memo := (install_eq_ok installed).1
  simp only [install, bind, Except.bind, pure, Except.pure] at installed
  split at installed
  · cases installed
  split at installed
  · cases installed
  next wrappers reset =>
    split at installed
    · cases installed
    · cases installed
      obtain ⟨made, -, -, rfl⟩ := Store.reset_eq_ok reset
      refine ⟨rfl, rfl, fun skeleton loaded => ?_, fun _ _ => rfl⟩
      cases loaded

/-- On an installed engine a call ends in a configuration error if and only if there is a view for it and the configured skeleton
has not exactly one slot, and then in the error that says so: whatever has come of the engine, for a render that
runs alone and for every render that has ended among others. -/
theorem render_configuration_iff {processEnv : Option String} {files : FileSystem}
    (installed : install config processEnv files = .ok engine) (collaborators : Compile.Collaborators) (token : Nat → String)
    (problem : Misconfiguration) (calls : Calls) (state : Engine)
    (history : History collaborators token engine calls state) :
    (∀ call, (state.render collaborators token call).1 = .error (.configuration problem) ↔
      Malformed config engine.wrappers.files problem ∧ (state.found? call).isSome) ∧
    (∀ result, .finished (.inl result) ∈ calls → (result = .error (.configuration problem) ↔
      Malformed config engine.wrappers.files problem ∧ ∀ name roots, result ≠ .error (.lookup name roots))) := by
  obtain ⟨rfl, knows⟩ := install_knows installed
  obtain ⟨now, accounted⟩ := history.accounted knows rfl
  have reads := now.reads history.same knows.path rfl
  have malformed := readSkeleton_configuration_iff engine.wrappers problem
  rw [knows.path] at malformed
  constructor
  · intro call
    rw [Malformed, ← malformed]
    rcases render_shows collaborators token now reads call with ⟨absent, ended⟩ | ⟨found, shows⟩
    · rw [ended, absent]
      simp
    · rw [shows.configuration_iff problem]
      exact ⟨fun refused => ⟨refused, found⟩, fun both => both.1⟩
  · intro result member
    rw [Malformed, ← malformed]
    rcases accounted _ member with ⟨name, roots, rfl⟩ | shows
    · constructor
      · intro same
        cases same
      · exact fun both => absurd rfl (both.2 name roots)
    · rw [← shows.configuration_iff problem]
      constructor
      · rintro rfl
        exact ⟨rfl, by simp⟩
      · exact fun both => both.1

/-- A configuration with a file for the skeleton. -/
def skeletal : Config := { Config.ofDefaults with wrapperTemplatePath := some { text := "W.svelte" } }

/-- Files among which there are one view and a skeleton. -/
def withSkeleton (source : String) : FileSystem :=
  (oneView.write { text := "W.svelte" } (.text source) false).toOption.getD oneView

/-- Two slots make no skeleton, and the first render says so. -/
theorem repeated_slot_fails_render : ∃ engine,
    install skeletal none (withSkeleton (Wrapper.slot ++ Wrapper.slot)) = .ok engine ∧
    History willing Store.countingToken engine [.running (.inl (.start engine plainCall))] engine ∧
    (engine.render willing Store.countingToken plainCall).1 = .error (.configuration (.slotRepeated Wrapper.slot)) := by
  have facts : (install skeletal none (withSkeleton (Wrapper.slot ++ Wrapper.slot))).toOption.any (fun engine =>
      decide (engine.wrappers.files.readText? { text := "W.svelte" } = some (Wrapper.slot ++ Wrapper.slot)) &&
        (engine.found? plainCall).isSome) := by decide +kernel
  have twice : Misslotted (Wrapper.slot ++ Wrapper.slot) (.slotRepeated Wrapper.slot) := by
    have whole : (Wrapper.slot ++ Wrapper.slot).toList =
        [] ++ (Wrapper.slot.toList ++ ([] ++ (Wrapper.slot.toList ++ []))) := by simp
    exact .repeated whole
  cases installed : install skeletal none (withSkeleton (Wrapper.slot ++ Wrapper.slot)) with
  | error error => simp [installed, Except.toOption] at facts
  | ok engine =>
    simp only [installed, Except.toOption, Option.any_some, Bool.and_eq_true, decide_eq_true_eq] at facts
    have history : History willing Store.countingToken engine [.running (.inl (.start engine plainCall))] engine :=
      .asked .installed plainCall
    have settled := render_configuration_iff installed willing Store.countingToken (.slotRepeated Wrapper.slot) _ engine history
    exact ⟨engine, rfl, history, (settled.1 plainCall).mpr ⟨⟨_, _, rfl, facts.1, twice⟩, facts.2⟩⟩

/-- An engine is installed with a skeleton that has no slot, and the first render fails for it. -/
theorem slotless_skeleton_fails_render : ∃ engine, install skeletal none (withSkeleton "no slot") = .ok engine ∧
    (engine.render willing Store.countingToken plainCall).1 = .error (.configuration (.slotMissing Wrapper.slot)) := by
  have facts : (install skeletal none (withSkeleton "no slot")).toOption.any (fun engine =>
      decide ((engine.render willing Store.countingToken plainCall).1 = .error (.configuration (.slotMissing Wrapper.slot)))) := by
    decide +kernel
  cases installed : install skeletal none (withSkeleton "no slot") with
  | error error => simp [installed, Except.toOption] at facts
  | ok engine =>
    simp only [installed, Except.toOption, Option.any_some, decide_eq_true_eq] at facts
    exact ⟨engine, rfl, facts⟩

end ComponentViews.Engine
