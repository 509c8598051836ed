import ComponentViews.Proofs.BundleLookup
import ComponentViews.Proofs.EntryViews
import ComponentViews.Proofs.ScratchReset

/-! The scripts that a run leaves for its views. A run writes wrapper files and scripts only,
and the script of a view lasts unless a later view has the same key. -/

namespace ComponentViews

namespace FileSystem
open FileTree

variable {files files' : FileSystem} {path : Path} {touched : Location → Prop}

theorem locate_mono {target : Target} (led : files.locate path = .ok target)
    (kept : KeepsDirectories files.tree files'.tree) (same : files'.workingDirectory = files.workingDirectory) :
    files'.locate path = .ok target := by
  obtain ⟨fits, led⟩ := locate_eq_ok_iff.mp led
  exact locate_eq_ok_iff.mpr ⟨fits, base_congr same path ▸ follow_mono kept led⟩

/-- Directories stay, and so do files, but for those that are touched. -/
structure Touches (touched : Location → Prop) (before after : FileSystem) : Prop where
  workingDirectory : after.workingDirectory = before.workingDirectory
  directories : KeepsDirectories before.tree after.tree
  files : ∀ location content executable, ¬ touched location →
    before.tree.get? location = some (.file content executable) → after.tree.get? location = some (.file content executable)

theorem Touches.refl (touched : Location → Prop) (files : FileSystem) : Touches touched files files :=
  ⟨rfl, fun _ listed => listed, fun _ _ _ _ stands => stands⟩

theorem Touches.trans {before middle after : FileSystem} (first : Touches touched before middle)
    (last : Touches touched middle after) : Touches touched before after :=
  ⟨last.workingDirectory.trans first.workingDirectory,
    fun location listed => last.directories location (first.directories location listed),
    fun location content executable spared stands =>
      last.files location content executable spared (first.files location content executable spared stands)⟩

theorem Touches.mono {before after : FileSystem} {more : Location → Prop} (touches : Touches touched before after)
    (within : ∀ location, touched location → more location) : Touches more before after :=
  ⟨touches.workingDirectory, touches.directories,
    fun location content executable spared => touches.files location content executable (mt (within location) spared)⟩

theorem Touches.home {before after : FileSystem} (touches : Touches touched before after) (path : Path) :
    after.home path = before.home path := home_congr (by rw [touches.workingDirectory]) path

/-- A path keeps finding a file that is not touched. -/
theorem Touches.find? {before after : FileSystem} (touches : Touches touched before after) {content : Content}
    {executable : Bool} (spared : ¬ touched (before.home path)) (found : before.find? path = some (.file content executable)) :
    after.find? path = some (.file content executable) := by
  cases led : before.locate path with
  | error denial => simp [FileSystem.find?, led] at found
  | ok target =>
    have reached := location_of_locate led
    cases target with
    | removed location => simp [FileSystem.find?, led, Target.entry?] at found
    | standing location =>
      obtain rfl : location = before.home path := reached
      have stands : before.tree.get? (before.home path) = some (.file content executable) := by
        simpa [FileSystem.find?, led, Target.entry?] using found
      have led := locate_mono led touches.directories touches.workingDirectory
      simp [FileSystem.find?, led, Target.entry?, touches.files _ content executable spared stands]

theorem Grows.touches (grows : Grows files files') : Touches (fun _ => False) files files' :=
  ⟨grows.workingDirectory, grows.directories, fun location content executable _ => (grows.files location content executable).mpr⟩

/-- Writing a file touches it alone, and the file is found then. -/
theorem write_touches {content : Content} {executable : Bool} (written : files.write path content executable = .ok files') :
    Touches (· = files.home path) files files' ∧ files'.find? path = some (.file content executable) := by
  cases led : files.locate path with
  | error denial => simp [write, led, bind, Except.bind] at written
  | ok target =>
    have reached := location_of_locate led
    simp only [write, led, bind, Except.bind] at written
    obtain ⟨location, rfl, free, changes⟩ := place_ok written
    have kept := changes.keepsDirectories free
    have led' := locate_mono led kept changes.1
    refine ⟨⟨changes.1, kept, fun other content executable spared stands => ?_⟩, ?_⟩
    · rw [changes.2, if_neg (by rintro rfl; exact spared reached), stands]
    · simp [FileSystem.find?, led', Target.entry?, changes.2]

end FileSystem

namespace Wrapper.Store

variable {token : Nat → String} {source wrapper : Path} {store after : Store}

theorem loading_step (token : Nat → String) (source : Path) (store : Store) : (Creation.activity token).step (.loading source) store =
    match store.template with
    | .ok skeleton => (.running (.writing source skeleton), { store with skeleton := some skeleton })
    | .error error => (.finished (.error error), store) := by
  obtain ⟨directory, skeletonPath, kept, memo, files, drawn⟩ := store
  cases kept with
  | some skeleton => rfl
  | none => rfl

/-- The step that writes a wrapper, and the one that enters it where the memo has none. -/
theorem writing_run (skeleton : Skeleton) (absent : store.find? source = none) :
    (Creation.activity token).run (.writing source skeleton) store =
      match store.files.write (store.fileFor token) (.text (skeleton.render source)) false with
      | .ok files => (.ok (store.fileFor token), { store with
          memo := store.memo.insert source.components (store.fileFor token), files, drawn := store.drawn + 1 })
      | .error _ => (.error (.io (store.fileFor token)), { store with drawn := store.drawn + 1 }) := by
  have step : (Creation.activity token).step (.writing source skeleton) store =
      match store.files.write (store.fileFor token) (.text (skeleton.render source)) false with
      | .ok files => (.running (.claiming source (store.fileFor token)), { store with drawn := store.drawn + 1, files })
      | .error _ => (.finished (.error (.io (store.fileFor token))), { store with drawn := store.drawn + 1 }) := rfl
  split
  next files written =>
    rw [written] at step
    rw [Activity.run_of_running _ step]
    refine Activity.run_of_finished _ ?_
    change Creation.step token (.claiming source (store.fileFor token)) { store with drawn := store.drawn + 1, files } = _
    have absent : ({ store with drawn := store.drawn + 1, files } : Store).find? source = none := absent
    simp only [Creation.step, absent]
  next denial refused =>
    rw [refused] at step
    exact Activity.run_of_finished _ step

/-- A call for a wrapper that runs on its own. -/
theorem create_eq (token : Nat → String) (source : Path) (store : Store) : store.create token source =
    match store.find? source with
    | some wrapper => (.ok wrapper, store)
    | none =>
      match store.template with
      | .error error => (.error error, store)
      | .ok skeleton =>
        match store.files.write (store.fileFor token) (.text (skeleton.render source)) false with
        | .ok files => (.ok (store.fileFor token), { store with
            skeleton := some skeleton, memo := store.memo.insert source.components (store.fileFor token), files,
            drawn := store.drawn + 1 })
        | .error _ => (.error (.io (store.fileFor token)), { store with skeleton := some skeleton, drawn := store.drawn + 1 }) := by
  have first : (Creation.activity token).step (.checking source) store =
      match store.find? source with
      | some wrapper => (.finished (.ok wrapper), store)
      | none => (.running (.loading source), store) := rfl
  have second := loading_step token source store
  rw [create]
  cases absent : store.find? source with
  | some wrapper =>
    rw [absent] at first
    exact Activity.run_of_finished _ first
  | none =>
    rw [absent] at first
    rw [Activity.run_of_running _ first]
    cases known : store.template with
    | error error =>
      rw [known] at second
      exact Activity.run_of_finished _ second
    | ok skeleton =>
      rw [known] at second
      rw [Activity.run_of_running _ second]
      exact writing_run skeleton absent

/-- A wrapper that is given is the memo's, or else it is drawn, written and entered there. -/
theorem create_eq_ok (created : store.create token source = (.ok wrapper, after)) :
    store.find? source = some wrapper ∧ after = store ∨
      store.find? source = none ∧ wrapper = store.fileFor token ∧
        ∃ skeleton files, store.template = .ok skeleton ∧
          store.files.write wrapper (.text (skeleton.render source)) false = .ok files ∧
          after = { store with
            skeleton := some skeleton, memo := store.memo.insert source.components wrapper, files, drawn := store.drawn + 1 } := by
  rw [create_eq] at created
  split at created
  next known found => cases created; exact .inl ⟨found, rfl⟩
  next absent =>
    split at created
    · cases created
    next skeleton known =>
      split at created
      next files written => cases created; exact .inr ⟨absent, rfl, skeleton, files, known, written, rfl⟩
      · cases created

/-- A store that remembers wrappers has loaded its skeleton. -/
def Loaded (store : Store) : Prop := store.skeleton = none → store.memo = .empty

theorem exists_skeleton_of_find? (loaded : Loaded store) (found : store.find? source = some wrapper) :
    ∃ skeleton, store.skeleton = some skeleton := by
  refine Option.isSome_iff_exists.mp (Option.isSome_iff_ne_none.mpr fun unread => ?_)
  rw [find?, loaded unread] at found
  cases found

end Wrapper.Store

namespace Browser.Entries
open FileTree FileSystem
open Wrapper.Store (Fresh Loaded fileName Written template)

variable {token : Nat → String} {entries prepared before middle after : Entries} {directory view wrapper : Path}
  {views more : List Path} {location : Location}

/-- Where a run that adds views writes files: wrappers that are drawn by it, and the scripts of the views' keys. -/
def MayWrite (token : Nat → String) (directory : Path) (views : List Path) (before after : Entries) (location : Location) : Prop :=
  (∃ number, before.wrappers.drawn ≤ number ∧ number < after.wrappers.drawn ∧
    location = before.files.home (before.wrappers.directory / fileName token number)) ∨
  ∃ view ∈ views, location = before.files.home (before.inputFor (View.key [directory] view))

/-- What adding views keeps. -/
structure Keeps (token : Nat → String) (directory : Path) (views : List Path) (before after : Entries) : Prop where
  setting : SameSetting before after
  store : after.wrappers.directory = before.wrappers.directory
  template : Loaded before.wrappers → Loaded after.wrappers ∧ after.wrappers.template = before.wrappers.template
  drawn : before.wrappers.drawn ≤ after.wrappers.drawn
  memo : ∀ view, after.wrappers.find? view = before.wrappers.find? view ∨
    before.wrappers.find? view = none ∧ ∃ added ∈ views, added.components = view.components
  files : Touches (MayWrite token directory views before after) before.files after.files

theorem Keeps.refl (token : Nat → String) (directory : Path) (entries : Entries) : Keeps token directory [] entries entries :=
  ⟨⟨rfl, rfl, rfl, rfl⟩, rfl, fun loaded => ⟨loaded, rfl⟩, le_rfl, fun _ => .inl rfl, .refl _ _⟩

theorem Keeps.trans (first : Keeps token directory views before middle) (last : Keeps token directory more middle after) :
    Keeps token directory (views ++ more) before after where
  setting := first.setting.trans last.setting
  store := last.store.trans first.store
  template loaded := by
    obtain ⟨loaded, same⟩ := first.template loaded
    exact ⟨(last.template loaded).1, (last.template loaded).2.trans same⟩
  drawn := first.drawn.trans last.drawn
  memo view := by
    have earlier := first.memo view
    have later := last.memo view
    grind
  files := by
    refine (first.files.mono ?_).trans (last.files.mono ?_)
    · rintro location (⟨number, least, bound, here⟩ | ⟨view, member, here⟩)
      · exact .inl ⟨number, least, bound.trans_le last.drawn, here⟩
      · exact .inr ⟨view, List.mem_append_left _ member, here⟩
    · rintro location (⟨number, least, bound, here⟩ | ⟨view, member, here⟩)
      · exact .inl ⟨number, first.drawn.trans least, bound, by rw [here, first.files.home, first.store]⟩
      · refine .inr ⟨view, List.mem_append_right _ member, ?_⟩
        rw [here, first.files.home, inputFor_congr first.setting]

theorem Keeps.find? (keeps : Keeps token directory views before after) (found : before.wrappers.find? view = some wrapper) :
    after.wrappers.find? view = some wrapper := by
  rcases keeps.memo view with same | ⟨missing, -⟩
  · exact same.trans found
  · rw [found] at missing
    cases missing

theorem Adds.keeps (adds : Adds token directory view wrapper before after) : Keeps token directory [view] before after := by
  obtain ⟨setting, store, made, files, wrapped, grows, written, rest⟩ := adds
  have within : ∀ touched : Location → Prop,
      touched (before.files.home (before.inputFor (View.key [directory] view))) →
      Touches touched before.files store.files → Touches touched before.files after.files := by
    intro touched here wraps
    have parted := wraps.trans (grows.touches.mono fun _ => False.elim)
    have changed : after.files = files := by rw [Entries.files, rest]
    rw [changed]
    refine parted.trans ((write_touches written).1.mono fun location written => ?_)
    rwa [written, parted.home]
  have target : MayWrite token directory [view] before after (before.files.home (before.inputFor (View.key [directory] view))) :=
    .inr ⟨view, List.mem_singleton_self view, rfl⟩
  rcases Wrapper.Store.create_eq_ok wrapped with ⟨found, rfl⟩ | ⟨absent, rfl, skeleton, put, known, placed, rfl⟩
  · refine ⟨setting, by rw [rest], fun loaded => ?_, by rw [rest], fun _ => .inl (by rw [rest]; rfl), within _ target (.refl _ _)⟩
    obtain ⟨skeleton, kept⟩ := Wrapper.Store.exists_skeleton_of_find? loaded found
    rw [rest]
    exact ⟨loaded, by simp only [template, kept]⟩
  · refine ⟨setting, by rw [rest], fun loaded => ?_, by rw [rest]; exact Nat.le_succ _, fun other => ?_,
      within _ target ((write_touches placed).1.mono fun location written => ?_)⟩
    · rw [rest]
      exact ⟨fun unread => (by cases unread), known.symm⟩
    · by_cases same : other.components = view.components
      · right
        exact ⟨by rw [Wrapper.Store.find?, same]; exact absent, view, List.mem_singleton_self view, same.symm⟩
      · left
        rw [rest]
        simp [Wrapper.Store.find?, same]
    · exact .inl ⟨before.wrappers.drawn, le_rfl, by rw [rest]; exact Nat.lt_succ_self _, written⟩

/-- What a view gets that has no wrapper yet: a wrapper of its own, and its script. -/
theorem Adds.made (adds : Adds token directory view wrapper before after) (absent : before.wrappers.find? view = none) :
    wrapper = before.wrappers.directory / fileName token before.wrappers.drawn ∧
      after.wrappers.drawn = before.wrappers.drawn + 1 ∧ after.wrappers.find? view = some wrapper ∧
      (before.files.home wrapper ≠ before.files.home (before.inputFor (View.key [directory] view)) →
        Written before.wrappers after.files view wrapper) ∧
      after.files.find? (before.inputFor (View.key [directory] view)) = some (.file (.text (source wrapper)) false) := by
  obtain ⟨setting, store, made, files, wrapped, grows, written, rest⟩ := adds
  rcases Wrapper.Store.create_eq_ok wrapped with ⟨found, -⟩ | ⟨-, rfl, skeleton, put, known, placed, rfl⟩
  · rw [absent] at found
    cases found
  · obtain ⟨touches, stands⟩ := write_touches placed
    obtain ⟨scripted, script⟩ := write_touches written
    refine ⟨rfl, by rw [rest], ?_, fun apart => ⟨skeleton, known, ?_⟩, ?_⟩
    · rw [rest]
      simp [Wrapper.Store.find?]
    · have spared : made.home (before.wrappers.fileFor token) ≠ made.home (before.inputFor (View.key [directory] view)) := by
        rwa [grows.touches.home, grows.touches.home, touches.home, touches.home]
      rw [Entries.files, rest]
      exact scripted.find? spared (grows.touches.find? not_false stands)
    · rw [Entries.files, rest]
      exact script

theorem addViews_keeps {builds : List PlannedBuild} (added : addViews token directory views before = (.ok builds, after)) :
    Keeps token directory views before after := by
  induction views generalizing before builds with
  | nil => cases added; exact .refl ..
  | cons view rest ih =>
    obtain ⟨wrapper, middle, later, adds, more, -⟩ := addViews_cons_eq_ok added
    exact adds.keeps.trans (ih more)

/-- A run that adds views takes each of them up between the earlier and the later ones. -/
theorem addViews_split {builds : List PlannedBuild}
    (added : addViews token directory (views ++ view :: more) before = (.ok builds, after)) :
    ∃ middle next wrapper, Keeps token directory views before middle ∧ Adds token directory view wrapper middle next ∧
      Keeps token directory more next after := by
  induction views generalizing before builds with
  | nil =>
    obtain ⟨wrapper, next, later, adds, rest, -⟩ := addViews_cons_eq_ok added
    exact ⟨before, next, wrapper, .refl .., adds, addViews_keeps rest⟩
  | cons first rest ih =>
    obtain ⟨wrapper, second, later, adds, others, -⟩ := addViews_cons_eq_ok added
    obtain ⟨middle, next, wrapper', earlier, taken, last⟩ := ih others
    exact ⟨middle, next, wrapper', adds.keeps.trans earlier, taken, last⟩

/-- Where the script of a location lies below the directory of scripts. -/
def scriptOf (location : Location) : Location := location.dropLast ++ [(Path.splitName (location.getLastD "")).1 ++ ".js"]

theorem stemmed_eq_of_scriptOf {first second : Location} (same : scriptOf first = scriptOf second) :
    Path.stemmed first = Path.stemmed second := by
  obtain ⟨fronts, lasts⟩ := List.append_inj' same rfl
  have stems := congrArg String.toList (List.singleton_inj.mp lasts)
  rw [String.toList_append, String.toList_append] at stems
  rw [Path.stemmed, Path.stemmed, fronts, String.toList_inj.mp (List.append_cancel_right stems)]

theorem segmentComponent_script (stem : String) : Path.segmentComponent (stem ++ ".js") = some (.name (stem ++ ".js")) := by
  have long : ∀ text : String, stem ++ ".js" = text → 3 ≤ text.toList.length := by
    rintro _ rfl
    simp
  have different : stem ++ ".js" ≠ "" ∧ stem ++ ".js" ≠ "." ∧ stem ++ ".js" ≠ ".." :=
    ⟨fun same => by simpa using long _ same, fun same => by simpa using long _ same, fun same => by simpa using long _ same⟩
  simp [Path.segmentComponent, different]

theorem home_inputFor (files : FileSystem) (valid : ∀ name ∈ location, ValidName name) (inner : location ≠ []) :
    files.home (entries.inputFor (Path.ofList (Path.stemmed location))) = files.home entries.directory ++ scriptOf location := by
  rcases List.eq_nil_or_concat location with empty | ⟨front, last, rfl⟩
  · exact absurd empty inner
  simp only [List.concat_eq_append] at valid ⊢
  have spelled : Path.ofList (Path.stemmed (front ++ [last])) ++ ".js" = Path.ofList (scriptOf (front ++ [last])) := by
    simp only [Path.stemmed, scriptOf, Path.ofList_concat, String.append_assoc]
  have named : ∀ name ∈ scriptOf (front ++ [last]), '/' ∉ name.toList ∧ Path.segmentComponent name = some (.name name) := by
    intro name member
    rw [scriptOf, List.dropLast_concat, List.getLastD_concat, List.mem_append, List.mem_singleton] at member
    rcases member with member | rfl
    · have above := valid name (List.mem_append_left _ member)
      exact ⟨above.2.2.2.1, Path.segmentComponent_of_validName above⟩
    · have plain := Path.notMem_stem (valid last (by simp)).2.2.2.1
      exact ⟨by simpa using plain, segmentComponent_script _⟩
  obtain ⟨relative, steps⟩ := Path.steps_ofList (by simp [scriptOf]) named
  rw [inputFor, spelled]
  exact (Path.home_join files relative).trans (by rw [steps, Path.walk_names])

/-- No wrapper file lies where a script does. -/
theorem scriptOf_ne (above : Location) (token : Nat → String) (number : Nat) (below : Location) (location : Location) :
    above ++ [fileName token number] ≠ below ++ scriptOf location := by
  intro same
  rw [scriptOf, ← List.append_assoc] at same
  have lasts := congrArg (fun name => name.toList.getLast?) (List.singleton_inj.mp (List.append_inj' same rfl).2)
  simp [fileName] at lasts

theorem home_script (files : FileSystem) (entries : Entries) (view : prepared.IsView directory location) :
    files.home (entries.inputFor (View.key [directory] (pathBelow directory location))) =
      files.home entries.directory ++ scriptOf location := by
  rw [key_pathBelow view]
  exact home_inputFor files view.validName view.inner

section
variable {locations : List Location} (fresh : Fresh token after.wrappers.drawn)
  (shown : ∀ other ∈ locations, prepared.IsView directory other)
include fresh shown

/-- A run writes no wrapper file that was drawn before it. -/
theorem wrapper_spared {number : Nat} (drawn : number < before.wrappers.drawn) (later : before.wrappers.drawn ≤ after.wrappers.drawn) :
    ¬ MayWrite token directory (locations.map (pathBelow directory)) before after
      (before.files.home (before.wrappers.directory / fileName token number)) := by
  have valid := fresh.valid number (by omega)
  rintro (⟨other, least, bound, here⟩ | ⟨view, member, here⟩)
  · rw [Path.home_div _ valid, Path.home_div _ (fresh.valid other bound)] at here
    have named := List.singleton_inj.mp (List.append_cancel_left here)
    have same := fresh.distinct number (by omega) other bound named
    omega
  · obtain ⟨other, inside, rfl⟩ := List.mem_map.mp member
    rw [Path.home_div _ valid, home_script _ _ (shown other inside)] at here
    exact scriptOf_ne _ _ _ _ _ here

/-- A run writes the script of a location only for views of the same stem. -/
theorem script_spared (view : prepared.IsView directory location)
    (apart : ∀ other ∈ locations, Path.stemmed other ≠ Path.stemmed location) :
    ¬ MayWrite token directory (locations.map (pathBelow directory)) before after
      (before.files.home (before.inputFor (View.key [directory] (pathBelow directory location)))) := by
  rw [home_script _ _ view]
  rintro (⟨number, least, bound, here⟩ | ⟨other, member, here⟩)
  · rw [Path.home_div _ (fresh.valid number bound)] at here
    exact scriptOf_ne _ _ _ _ _ here.symm
  · obtain ⟨other, inside, rfl⟩ := List.mem_map.mp member
    rw [home_script _ _ (shown other inside)] at here
    exact apart other inside (stemmed_eq_of_scriptOf (List.append_cancel_left here.symm))

end

/-- A script imports the wrapper that was made for a view: the memo has that wrapper, and it is the rendering of the view. -/
def Hydrates (prepared after : Entries) (view script : Path) : Prop :=
  ∃ wrapper, after.wrappers.find? view = some wrapper ∧ Written prepared.wrappers after.files view wrapper ∧
    after.files.find? script = some (.file (.text (source wrapper)) false)

/-- After a run the script of a key hydrates the last view that has the key. -/
theorem hydrates_of_last {front rest : List Location} {builds : List PlannedBuild}
    (added : addViews token directory ((front ++ location :: rest).map (pathBelow directory)) prepared = (.ok builds, after))
    (forgotten : prepared.wrappers.memo = .empty) (distinct : (front ++ location :: rest).Nodup)
    (views : ∀ other ∈ front ++ location :: rest, prepared.IsView directory other)
    (fresh : Fresh token after.wrappers.drawn) (last : ∀ later ∈ rest, Path.stemmed later ≠ Path.stemmed location) :
    Hydrates prepared after (pathBelow directory location) (prepared.inputFor (View.key [directory] (pathBelow directory location))) := by
  rw [List.map_append, List.map_cons] at added
  obtain ⟨middle, next, wrapper, earlier, adds, later⟩ := addViews_split added
  have view := views location (by simp)
  have behind : ∀ other ∈ rest, prepared.IsView directory other := fun other inside => views other (by simp [inside])
  -- The memo starts out empty, and the views before are other ones, so the view gets a wrapper of its own.
  have absent : middle.wrappers.find? (pathBelow directory location) = none := by
    rcases earlier.memo (pathBelow directory location) with same | ⟨-, added, member, same⟩
    · rw [same, Wrapper.Store.find?, forgotten]
      rfl
    · obtain ⟨other, inside, rfl⟩ := List.mem_map.mp member
      have valid := (views other (List.mem_append_left _ inside)).validName
      obtain rfl := Path.pathBelow_inj valid view.validName same
      exact absurd rfl ((List.nodup_append.mp distinct).2.2 other inside other List.mem_cons_self)
  obtain ⟨rfl, drawn, found, written, script⟩ := adds.made absent
  have moved := adds.keeps
  have grown := later.drawn
  have valid := fresh.valid middle.wrappers.drawn (by omega)
  obtain ⟨skeleton, known, rendered⟩ := written (by
    rw [Path.home_div _ valid, home_script _ _ view]
    exact scriptOf_ne _ _ _ _ _)
  -- What comes after the view spares its wrapper and its script.
  have same := inputFor_congr (earlier.setting.trans moved.setting)
  rw [← inputFor_congr moved.setting, same] at script
  refine ⟨_, later.find? found, ⟨skeleton, (earlier.template fun _ => forgotten).2.symm.trans known, later.files.find? ?_ rendered⟩,
    later.files.find? ?_ script⟩
  · rw [← moved.store]
    exact wrapper_spared fresh behind (by omega) grown
  · rw [← same]
    exact script_spared fresh behind view last

/-- No two locations differ in the extension of their last name alone. -/
def StemsDiffer (locations : List Location) : Prop :=
  ∀ first ∈ locations, ∀ second ∈ locations, Path.stemmed first = Path.stemmed second → first = second

theorem exists_kind_of_mem_plans {key : String} {build : PlannedBuild} (planned : build ∈ entries.plans key (entries.inputFor key)) :
    ∃ legacy, build = entries.buildFor key legacy := by
  unfold plans at planned
  rcases List.mem_cons.mp planned with rfl | later
  · exact ⟨false, rfl⟩
  · split at later
    · exact ⟨true, List.mem_singleton.mp later⟩
    · cases later

/-- Builds have names of their own if and only if their keys are distinct. -/
theorem nodup_outputNames_iff (entries : Entries) (keys : List String) :
    ((entries.planned keys).map PlannedBuild.outputName).Nodup ↔ keys.Nodup := by
  have apart : ∀ first second : String,
      List.Disjoint ((entries.plans first (entries.inputFor first)).map PlannedBuild.outputName)
        ((entries.plans second (entries.inputFor second)).map PlannedBuild.outputName) ↔ first ≠ second := by
    intro first second
    constructor
    · rintro disjoint rfl
      exact disjoint (by simp [plans]) List.mem_cons_self
    · intro different name member member'
      obtain ⟨build, planned, rfl⟩ := List.mem_map.mp member
      obtain ⟨other, planned', same⟩ := List.mem_map.mp member'
      obtain ⟨legacy, rfl⟩ := exists_kind_of_mem_plans planned
      obtain ⟨legacy', rfl⟩ := exists_kind_of_mem_plans planned'
      exact different (outputName_inj same).1.symm
  have single : ∀ key, ((entries.plans key (entries.inputFor key)).map PlannedBuild.outputName).Nodup := by
    intro key
    unfold plans
    split
    · refine List.nodup_cons.mpr ⟨fun member => ?_, List.nodup_singleton _⟩
      have same : (entries.buildFor key false).outputName = (entries.buildFor key true).outputName := List.mem_singleton.mp member
      cases (outputName_inj same).2
    · exact List.nodup_singleton _
  rw [planned, List.map_flatMap, List.nodup_flatMap]
  exact ⟨fun named => named.2.imp fun disjoint => (apart _ _).mp disjoint,
    fun distinct => ⟨fun key _ => single key, distinct.imp fun different => (apart _ _).mpr different⟩⟩

theorem Finds.builds_eq {builds : List PlannedBuild} {locations : List Location}
    (finds : Finds entries directory builds prepared locations) :
    builds = entries.planned (locations.map fun location => Path.ofList (Path.stemmed location)) := by
  rw [finds.builds, planned, List.flatMap_map, List.flatMap_map]
  refine List.flatMap_congr fun location member => ?_
  rw [buildsOf, key_pathBelow ((finds.views location).mp member)]

theorem Finds.nodup_outputNames_iff {builds : List PlannedBuild} {locations : List Location}
    (finds : Finds entries directory builds prepared locations) :
    (builds.map PlannedBuild.outputName).Nodup ↔ StemsDiffer locations := by
  have plain : ∀ location ∈ locations, ∀ name ∈ Path.stemmed location, '/' ∉ name.toList := by
    intro location member
    have view := (finds.views location).mp member
    obtain ⟨front, last, rfl⟩ : ∃ front last, location = front ++ [last] :=
      ⟨_, _, (List.dropLast_concat_getLast view.inner).symm⟩
    rw [Path.stemmed_concat]
    exact Path.plain_stemmed fun name inside => (view.validName name inside).2.2.2.1
  rw [finds.builds_eq, Entries.nodup_outputNames_iff, List.nodup_map_iff_inj_on finds.distinct]
  refine forall₂_congr fun first member => forall₂_congr fun second member' => imp_congr_left ?_
  exact ⟨Path.ofList_inj (plain first member) (plain second member') (by simp [Path.stemmed]) (by simp [Path.stemmed]),
    fun same => by rw [same]⟩

theorem Finds.forgotten {builds : List PlannedBuild} {locations : List Location}
    (finds : Finds entries directory builds prepared locations) : prepared.wrappers.memo = .empty := by
  have ready := finds.ready
  unfold prepare at ready
  split at ready
  · cases ready
  next discarded _ =>
    have cleared := Wrapper.Store.reset_memo discarded.wrappers
    split at ready
    · cases ready
    next wrappers reset =>
      cases ready
      rwa [reset] at cleared

/-- With an extension of one dot the stems of two views agree only where one is named by the extension alone and the
other one by the extension twice. -/
theorem Finds.stemsDiffer_iff {builds : List PlannedBuild} {locations : List Location} {kind : String}
    (finds : Finds entries directory builds prepared locations) (usual : prepared.extension = "." ++ kind)
    (plain : '.' ∉ kind.toList) : StemsDiffer locations ↔ ∀ above, above ++ ["." ++ kind] ∈ locations →
      above ++ ["." ++ kind ++ ("." ++ kind)] ∉ locations := by
  have named : ∀ location ∈ locations, ∃ above front, location = above ++ [front ++ ("." ++ kind)] := by
    intro location member
    obtain ⟨top, content, executable, -, inner, -, ends⟩ := (finds.views location).mp member
    obtain ⟨above, last, rfl⟩ : ∃ above last, location = above ++ [last] :=
      ⟨_, _, (List.dropLast_concat_getLast inner).symm⟩
    rw [List.getLastD_concat, usual, endsWith, List.isSuffixOf_iff_suffix] at ends
    obtain ⟨front, shape⟩ := ends
    have whole : last = String.ofList front ++ ("." ++ kind) := String.toList_inj.mp (by simp [← shape])
    exact ⟨above, String.ofList front, by rw [whole]⟩
  have stems : ∀ above front, Path.stemmed (above ++ [front ++ ("." ++ kind)]) =
      above ++ [if front = "" then "." ++ kind else front] := by
    intro above front
    rw [Path.stemmed_concat, Path.stem_append plain]
  constructor
  · intro differ above member member'
    have agree : Path.stemmed (above ++ ["." ++ kind]) = Path.stemmed (above ++ ["." ++ kind ++ ("." ++ kind)]) := by
      have alone := stems above ""
      rw [String.empty_append] at alone
      rw [alone, stems]
      simp
    have same := List.singleton_inj.mp (List.append_cancel_left (differ _ member _ member' agree))
    have lengths := congrArg (fun name => name.toList.length) same
    simp at lengths
  · intro apart first member second member' same
    obtain ⟨above, front, rfl⟩ := named first member
    obtain ⟨above', front', rfl⟩ := named second member'
    rw [stems, stems] at same
    obtain ⟨rfl, kept⟩ := List.append_inj' same rfl
    have kept := List.singleton_inj.mp kept
    by_cases alone : front = "" <;> by_cases alone' : front' = ""
    · rw [alone, alone']
    · rw [if_pos alone, if_neg alone'] at kept
      rw [alone, String.empty_append] at member
      exact absurd (kept ▸ member') (apart above member)
    · rw [if_neg alone, if_pos alone'] at kept
      rw [alone', String.empty_append] at member'
      exact absurd (kept ▸ member) (apart above member')
    · rw [if_neg alone, if_neg alone'] at kept
      rw [kept]

/-- After a run all builds have names of their own, and every view a build whose script imports its wrapper, if and only if
no two views differ in the extension alone. Of those that do, the last one has the script. -/
theorem scripts_stand_iff {viewsDirectory : Path} {builds : List PlannedBuild}
    (created : entries.create token viewsDirectory = (.ok builds, after)) (fresh : Fresh token after.wrappers.drawn) :
    let directory := entries.files.absolute viewsDirectory
    ∃ prepared locations, Finds entries directory builds prepared locations ∧
      (((builds.map PlannedBuild.outputName).Nodup ∧ ∀ location ∈ locations, ∃ build ∈ builds,
        Hydrates prepared after (pathBelow directory location) build.input) ↔ StemsDiffer locations) ∧
      ∀ front location rest, locations = front ++ location :: rest →
        (∀ later ∈ rest, Path.stemmed later ≠ Path.stemmed location) →
        ∀ build ∈ entries.buildsOf directory (pathBelow directory location),
          Hydrates prepared after (pathBelow directory location) build.input := by
  intro directory
  obtain ⟨prepared, locations, finds, added⟩ := create_finds created
  have setting : SameSetting entries prepared := by simpa only [finds.ready] using prepare_setting entries
  have lasting : ∀ front location rest, locations = front ++ location :: rest →
      (∀ later ∈ rest, Path.stemmed later ≠ Path.stemmed location) →
      ∀ build ∈ entries.buildsOf directory (pathBelow directory location),
        Hydrates prepared after (pathBelow directory location) build.input := by
    rintro front location rest rfl last build planned
    obtain ⟨legacy, rfl⟩ := exists_kind_of_mem_plans planned
    have script : (entries.buildFor (View.key [directory] (pathBelow directory location)) legacy).input =
        prepared.inputFor (View.key [directory] (pathBelow directory location)) := by
      rw [inputFor, setting.directory]
      rfl
    rw [script]
    exact hydrates_of_last added finds.forgotten finds.distinct (fun other => (finds.views other).mp) fresh last
  refine ⟨prepared, locations, finds, ⟨fun stands => finds.nodup_outputNames_iff.mp stands.1, fun differ => ?_⟩, lasting⟩
  refine ⟨finds.nodup_outputNames_iff.mpr differ, fun location member => ?_⟩
  obtain ⟨front, rest, shape⟩ := List.append_of_mem member
  have last : ∀ later ∈ rest, Path.stemmed later ≠ Path.stemmed location := by
    intro later inside same
    obtain rfl := differ later (by simp [shape, inside]) location member same
    have distinct := shape ▸ finds.distinct
    exact (List.nodup_cons.mp (List.nodup_append.mp distinct).2.1).1 inside
  have planned : entries.plan (View.key [directory] (pathBelow directory location))
      (entries.inputFor (View.key [directory] (pathBelow directory location))) false ∈
      entries.buildsOf directory (pathBelow directory location) := List.mem_cons_self
  refine ⟨_, ?_, lasting front location rest shape last _ planned⟩
  rw [finds.builds]
  exact List.mem_flatMap.mpr ⟨_, List.mem_map_of_mem member, planned⟩

open Wrapper.Store (countingToken)

/-- A directory of two pages. -/
def pages : FileSystem := .holding "views" ["Page.svelte", "Post.svelte"] (by decide +kernel) (by decide +kernel)

theorem create_pages : ∃ builds after,
    (scratching pages).create countingToken { text := "/views" } = (.ok builds, after) ∧ after.wrappers.drawn = 2 ∧
      builds = [["Page.svelte"], ["Post.svelte"]].flatMap
        ((scratching pages).buildsOf { text := "/views" } ∘ pathBelow { text := "/views" }) := by
  have opens : (scratching pages).prepare.2.files.Opens { text := "/views" } ["views"] :=
    ⟨by decide +kernel, by decide +kernel⟩
  obtain ⟨builds, created, planned⟩ := exists_created countingToken
    [(["Page.svelte"], .file (.text "") false), (["Post.svelte"], .file (.text "") false)]
    ([["Page.svelte"], ["Post.svelte"]].map (pathBelow { text := "/views" })) (by decide +kernel) (by decide +kernel)
    opens (by decide +kernel) (by decide +kernel) (by decide +kernel) (by decide +kernel) (by decide +kernel)
  exact ⟨builds, _, created, by decide +kernel, by rw [planned, List.flatMap_map]; rfl⟩

/-- Two pages, each with a script of its own. -/
theorem scripts_of_two_pages : ∃ builds after prepared,
    (scratching pages).create countingToken { text := "/views" } = (.ok builds, after) ∧ Fresh countingToken after.wrappers.drawn ∧
      (scratching pages).prepare = (.ok (), prepared) ∧ (builds.map PlannedBuild.outputName).Nodup ∧
      ∀ location ∈ [["Page.svelte"], ["Post.svelte"]], ∃ build ∈ builds,
        Hydrates prepared after (pathBelow { text := "/views" } location) build.input := by
  obtain ⟨builds, after, created, drawn, planned⟩ := create_pages
  have fresh : Fresh countingToken after.wrappers.drawn := drawn ▸ ⟨by decide +kernel, by decide +kernel⟩
  have named : (builds.map PlannedBuild.outputName).Nodup := by
    rw [planned]
    decide +kernel
  obtain ⟨prepared, locations, finds, stands, -⟩ := scripts_stand_iff created fresh
  rw [Path.absolute_of_isAbsolute _ (by decide +kernel)] at finds stands
  have hydrated := (stands.mpr (finds.nodup_outputNames_iff.mp named)).2
  refine ⟨builds, after, prepared, created, fresh, finds.ready, named, fun location member => hydrated location ?_⟩
  obtain rfl : (scratching pages).prepare.2 = prepared := by rw [finds.ready]
  have views : ∀ location ∈ [["Page.svelte"], ["Post.svelte"]],
      (scratching pages).prepare.2.files.tree.get? (["views"] ++ location) = some (.file (.text "") false) ∧
        location ≠ [] ∧ endsWith (scratching pages).prepare.2.extension (location.getLastD "") := by decide +kernel
  obtain ⟨found, inner, ends⟩ := views location member
  exact (finds.views location).mpr ⟨["views"], .text "", false, ⟨by decide +kernel, by decide +kernel⟩, inner, found, ends⟩

/-- A directory with a view that is named by the extension alone, beside one that is named by it twice. -/
def twins : FileSystem := .holding "views" [".svelte", ".svelte.svelte"] (by decide +kernel) (by decide +kernel)

/-- The two views get one name for their builds. -/
theorem twins_share_an_output_name : ∃ builds after,
    (scratching twins).create countingToken { text := "/views" } = (.ok builds, after) ∧
      ¬ (builds.map PlannedBuild.outputName).Nodup := by
  have opens : (scratching twins).prepare.2.files.Opens { text := "/views" } ["views"] :=
    ⟨by decide +kernel, by decide +kernel⟩
  obtain ⟨builds, created, planned⟩ := exists_created countingToken
    [([".svelte"], .file (.text "") false), ([".svelte.svelte"], .file (.text "") false)]
    ([[".svelte"], [".svelte.svelte"]].map (pathBelow { text := "/views" })) (by decide +kernel) (by decide +kernel)
    opens (by decide +kernel) (by decide +kernel) (by decide +kernel) (by decide +kernel) (by decide +kernel)
  refine ⟨builds, _, created, ?_⟩
  rw [planned]
  decide +kernel

end Browser.Entries
end ComponentViews
