import ComponentViews.Proofs.HeldFiles

/-! Concurrent creations and resets on one store. A reset forgets every wrapper before it
removes the directory, so a call in between may enter a file that the reset takes away. -/

namespace ComponentViews.Wrapper.Store
open FileTree

/-- A call for the wrapper of a source, or for a reset. -/
inductive Request where
  | create (source : Path)
  | reset

/-- A request before its first step. -/
def Request.phase : Request → Creation ⊕ Reset
  | .create source => .inl (.checking source)
  | .reset => .inr .forgetting

/-- Creations and resets on one store. -/
def sharing (token : Nat → String) :
    Activity Store (Creation ⊕ Reset) (Except ViewError Path ⊕ Except ViewError Unit) :=
  (Creation.activity token).either Reset.activity

/-- A file has been written, and no reset has removed the directory since. -/
def Unwiped (token : Nat → String) (taken : List ((Creation ⊕ Reset) × Store)) (wrapper : Path) : Prop :=
  ∃ before after source skeleton writer, taken = before ++ (.inl (.writing source skeleton), writer) :: after ∧
    writer.fileFor token = wrapper ∧ ∀ remover, (.inr .removing, remover) ∉ after

/-- No file stands below a location under a name. -/
def Absent (files : FileSystem) (home : Location) (name : String) : Prop :=
  ∀ content executable, files.tree.get? (home ++ [name]) ≠ some (.file content executable)

/-- The files held are those that have not been wiped, or all of them where the path of the directory is empty. -/
structure Tracked (token : Nat → String) (scratch : Path) (home : Location) (taken : List ((Creation ⊕ Reset) × Store))
    (paths : List Path) (store : Store) : Prop where
  directory : store.directory = scratch
  located : store.files.home scratch = home
  told : Told token scratch store.drawn paths
  present : ∀ path ∈ paths, Unwiped token taken path ∨ scratch.text = "" → store.files.isFile path
  absent : ∀ name, scratch / name ∈ paths → ¬ (Unwiped token taken (scratch / name) ∨ scratch.text = "") →
    Absent store.files home name

variable {token : Nat → String} {scratch : Path} {home : Location} {taken : List ((Creation ⊕ Reset) × Store)}
  {paths others : List Path} {store store' : Store}

theorem unwiped_append {phase : Creation ⊕ Reset} {state : Store} {wrapper : Path} :
    Unwiped token (taken ++ [(phase, state)]) wrapper ↔
      (∃ source skeleton, phase = .inl (.writing source skeleton) ∧ state.fileFor token = wrapper) ∨
        Unwiped token taken wrapper ∧ phase ≠ .inr .removing := by
  constructor
  · rintro ⟨before, after, source, skeleton, writer, shape, wrote, spared⟩
    rcases List.eq_nil_or_concat' after with rfl | ⟨between, last, rfl⟩
    · obtain ⟨-, same⟩ := List.append_inj' shape rfl
      cases same
      exact .inl ⟨source, skeleton, rfl, wrote⟩
    · rw [← List.cons_append, ← List.append_assoc] at shape
      obtain ⟨rfl, same⟩ := List.append_inj' shape rfl
      cases same
      refine .inr ⟨⟨before, between, source, skeleton, writer, rfl, wrote, fun remover member => ?_⟩, ?_⟩
      · exact spared remover (List.mem_append_left _ member)
      · rintro rfl
        exact spared state (by simp)
  · rintro (⟨source, skeleton, rfl, wrote⟩ | ⟨⟨before, after, source, skeleton, writer, rfl, wrote, spared⟩, other⟩)
    · exact ⟨taken, [], source, skeleton, state, rfl, wrote, by simp⟩
    · refine ⟨before, after ++ [(phase, state)], source, skeleton, writer, by simp, wrote, fun remover member => ?_⟩
      rcases List.mem_append.mp member with old | new
      · exact spared remover old
      · exact other (congrArg Prod.fst (List.mem_singleton.mp new)).symm

theorem isFile_iff {files : FileSystem} {path : Path} :
    files.isFile path ↔ ∃ content executable, files.find? path = some (.file content executable) := by
  unfold FileSystem.isFile
  split <;> simp_all

/-- Where a file is gone, its path finds none. -/
theorem Absent.not_isFile {files : FileSystem} {name : String} (absent : Absent files home name) (valid : ValidName name)
    (same : files.home scratch = home) : ¬ files.isFile (scratch / name) := by
  intro file
  obtain ⟨content, executable, found⟩ := isFile_iff.mp file
  obtain ⟨_, location, leads, stands⟩ := (FileSystem.find?_div_eq_some_iff valid).mp found
  rw [leads.home, same] at stands
  exact absent content executable stands

namespace Tracked

theorem isFile_iff_unwiped (tracked : Tracked token scratch home taken paths store) (fresh : Fresh token store.drawn)
    {path : Path} (member : path ∈ paths) : store.files.isFile path ↔ Unwiped token taken path ∨ scratch.text = "" := by
  refine ⟨fun file => ?_, tracked.present path member⟩
  by_contra wiped
  obtain ⟨number, inside, rfl⟩ := tracked.told.numbered path member
  exact (tracked.absent _ member wiped).not_isFile (fresh.valid number inside) tracked.located file

theorem perm (tracked : Tracked token scratch home taken paths store) (moved : others.Perm paths) :
    Tracked token scratch home taken others store where
  __ := tracked
  told := tracked.told.perm moved
  present path member := tracked.present path (moved.mem_iff.mp member)
  absent name member := tracked.absent name (moved.mem_iff.mp member)

/-- A step that neither writes nor removes a file held keeps track of it. -/
theorem spared (tracked : Tracked token scratch home taken paths store) {kept : List Path} {phase : Creation ⊕ Reset}
    (directory : store'.directory = store.directory) (same : store'.files.home scratch = store.files.home scratch)
    (told : Told token scratch store'.drawn kept) (within : kept ⊆ paths)
    (unwritten : ∀ source skeleton, phase = .inl (.writing source skeleton) → store.fileFor token ∉ kept)
    (other : phase ≠ .inr .removing)
    (present : ∀ path ∈ kept, store.files.isFile path → store'.files.isFile path)
    (absent : ∀ name, scratch / name ∈ kept → Absent store.files home name → Absent store'.files home name) :
    Tracked token scratch home (taken ++ [(phase, store)]) kept store' := by
  have history : ∀ path ∈ kept, Unwiped token (taken ++ [(phase, store)]) path ↔ Unwiped token taken path := by
    intro path member
    rw [unwiped_append]
    constructor
    · rintro (⟨source, skeleton, writes, rfl⟩ | ⟨unwiped, -⟩)
      · exact absurd member (unwritten source skeleton writes)
      · exact unwiped
    · exact fun unwiped => .inr ⟨unwiped, other⟩
  refine ⟨directory.trans tracked.directory, same.trans tracked.located, told, ?_, ?_⟩
  · intro path member unwiped
    rw [history path member] at unwiped
    exact present path member (tracked.present path (within member) unwiped)
  · intro name member wiped
    rw [history _ member] at wiped
    exact absent name member (tracked.absent name (within member) wiped)

/-- A change at a file of one's own keeps track of the files held elsewhere. -/
theorem changed {files : FileSystem} {number drawn : Nat} {entry : Option Entry} {phase : Creation ⊕ Reset}
    (tracked : Tracked token scratch home taken others store) (fresh : Fresh token drawn)
    (told : Told token scratch drawn (scratch / fileName token number :: others))
    (changes : FileSystem.Changes store.files files (home ++ [fileName token number]) entry)
    (free : store.files.tree.get? (home ++ [fileName token number]) ≠ some .directory)
    (leads : store.files.Leads scratch home)
    (unwritten : ∀ source skeleton, phase = .inl (.writing source skeleton) → store.fileFor token ∉ others)
    (other : phase ≠ .inr .removing) :
    Tracked token scratch home (taken ++ [(phase, store)]) others { store with files, drawn } := by
  refine tracked.spared rfl (FileSystem.home_congr (congrArg Target.location changes.1) scratch) told.tail
    (List.Subset.refl _) unwritten other ?_ ?_
  · intro path member file
    obtain ⟨content, executable, found⟩ := isFile_iff.mp file
    obtain ⟨other, inside, rfl⟩ := told.tail.numbered path member
    have same := changes.find?_div free leads (fresh.valid other inside) (told.name_ne member)
    exact isFile_iff.mpr ⟨content, executable, same.trans found⟩
  · intro name member absent content executable
    have apart : name ≠ fileName token number := by
      rintro rfl
      exact (List.nodup_cons.mp told.distinct).1 member
    rw [changes.2, if_neg (by simpa using apart)]
    exact absent content executable

/-- A step that leaves the files as they are. -/
theorem quiet {phase : Creation ⊕ Reset} {kept : List Path} (tracked : Tracked token scratch home taken paths store)
    (directory : store'.directory = store.directory) (files : store'.files = store.files)
    (told : Told token scratch store'.drawn kept) (within : kept ⊆ paths)
    (unwritten : ∀ source skeleton, phase = .inl (.writing source skeleton) → store.fileFor token ∉ kept)
    (other : phase ≠ .inr .removing) : Tracked token scratch home (taken ++ [(phase, store)]) kept store' :=
  tracked.spared directory (by rw [files]) told within unwritten other (fun _ _ file => by rwa [files])
    (fun _ _ absent => by rwa [files])

theorem tail {path : Path} (tracked : Tracked token scratch home taken (path :: paths) store) :
    Tracked token scratch home taken paths store where
  __ := tracked
  told := tracked.told.tail
  present path member := tracked.present path (.tail _ member)
  absent name member := tracked.absent name (.tail _ member)

/-- Writing takes the next name, and the file is there until a reset removes it. -/
theorem writing {source : Path} {skeleton : Skeleton} {next : Progress Creation (Except ViewError Path)}
    (tracked : Tracked token scratch home taken others store)
    (done : Creation.step token (.writing source skeleton) store = (next, store')) (fresh : Fresh token store'.drawn) :
    Tracked token scratch home (taken ++ [(.inl (.writing source skeleton), store)])
      ((callOwn? some next).toList ++ others) store' := by
  have place : store.fileFor token = scratch / fileName token store.drawn := by
    rw [fileFor, tracked.directory, fileName]
  simp only [Creation.step, place] at done
  split at done
  next files written =>
    cases done
    have valid := fresh.valid store.drawn (Nat.lt_succ_self _)
    have told := tracked.told.draw fresh
    obtain ⟨location, leads, fits, free, changes⟩ := FileSystem.write_ok valid written
    obtain rfl : location = home := leads.home.trans tracked.located
    have new : store.fileFor token ∉ others := by rw [place]; exact (List.nodup_cons.mp told.distinct).1
    have beside : Tracked token scratch location (taken ++ [(.inl (.writing source skeleton), store)]) others
        { store with drawn := store.drawn + 1, files } :=
      tracked.changed fresh told changes free leads (fun _ _ _ => new) (by simp)
    have own : files.isFile (scratch / fileName token store.drawn) := by
      refine isFile_iff.mpr ⟨.text (skeleton.render source), false, ?_⟩
      exact (FileSystem.find?_div_eq_some_iff valid).mpr
        ⟨fits, location, changes.leads free leads, by rw [changes.2, if_pos rfl]⟩
    refine ⟨beside.directory, beside.located, told, ?_, ?_⟩
    · intro path member unwiped
      rcases List.mem_cons.mp member with rfl | member
      · exact own
      · exact beside.present path member unwiped
    · intro name member wiped
      rcases List.mem_cons.mp member with same | member
      · exact absurd (.inl (same ▸ unwiped_append.mpr (.inl ⟨source, skeleton, rfl, place⟩))) wiped
      · exact beside.absent name member wiped
  next =>
    cases done
    refine tracked.quiet rfl rfl (tracked.told.later (Nat.le_succ _)) (List.Subset.refl _) (fun _ _ _ => ?_) (by simp)
    rw [place]
    exact (List.nodup_cons.mp (tracked.told.draw fresh).distinct).1

/-- Taking a file away again keeps track of the others. -/
theorem discarding {own winner : Path} {next : Progress Creation (Except ViewError Path)}
    (tracked : Tracked token scratch home taken (own :: others) store) (fresh : Fresh token store.drawn)
    (done : Creation.step token (.discarding own winner) store = (next, store')) :
    Tracked token scratch home (taken ++ [(.inl (.discarding own winner), store)])
      ((callOwn? some next).toList ++ others) store' := by
  simp only [Creation.step] at done
  split at done
  next files removed =>
    cases done
    obtain ⟨number, inside, rfl⟩ := tracked.told.numbered own List.mem_cons_self
    obtain ⟨location, leads, free, changes⟩ := FileSystem.removeFile_changes (fresh.valid number inside) removed
    obtain rfl : location = home := leads.home.trans tracked.located
    exact tracked.tail.changed fresh tracked.told changes free leads (by simp) (by simp)
  next =>
    cases done
    exact tracked.tail.quiet rfl rfl tracked.told.tail (List.Subset.refl _) (by simp) (by simp)

theorem created {phase : Creation} {next : Progress Creation (Except ViewError Path)}
    (tracked : Tracked token scratch home taken (phase.own?.toList ++ (others ++ memoized store.memo)) store)
    (done : phase.step token store = (next, store')) (fresh : Fresh token store'.drawn) :
    Tracked token scratch home (taken ++ [(.inl phase, store)])
      ((callOwn? some next).toList ++ (others ++ memoized store'.memo)) store' := by
  cases phase with
  | checking source =>
    simp only [Creation.step] at done
    split at done <;> cases done <;>
      exact tracked.quiet rfl rfl tracked.told (List.Subset.refl _) (by simp) (by simp)
  | loading source =>
    simp only [Creation.step] at done
    split at done
    · cases done
      exact tracked.quiet rfl rfl tracked.told (List.Subset.refl _) (by simp) (by simp)
    split at done <;> cases done <;>
      exact tracked.quiet rfl rfl tracked.told (List.Subset.refl _) (by simp) (by simp)
  | writing source skeleton =>
    have unchanged : store'.memo = store.memo := by
      simp only [Creation.step] at done
      split at done <;> cases done <;> rfl
    rw [unchanged]
    exact tracked.writing done fresh
  | claiming source own =>
    simp only [Creation.step] at done
    split at done
    next absent =>
      cases done
      have moved : (others ++ memoized (store.memo.insert source.components own)).Perm
          (own :: (others ++ memoized store.memo)) := by
        rw [memoized, Table.entries_insert_of_find?_eq_none absent, List.map_append, ← List.append_assoc]
        exact List.perm_append_comm
      have settled := tracked.perm moved
      exact settled.quiet rfl rfl settled.told (List.Subset.refl _) (by simp) (by simp)
    next winner found =>
      split at done
      next same =>
        cases done
        exact tracked.tail.quiet rfl rfl tracked.told.tail (List.Subset.refl _) (by simp) (by simp)
      next =>
        cases done
        exact tracked.quiet rfl rfl tracked.told (List.Subset.refl _) (by simp) (by simp)
  | discarding own winner =>
    have unchanged : store'.memo = store.memo ∧ store'.drawn = store.drawn := by
      simp only [Creation.step] at done
      split at done <;> cases done <;> exact ⟨rfl, rfl⟩
    rw [unchanged.1]
    exact tracked.discarding (unchanged.2 ▸ fresh) done

/-- Removing the directory wipes every file held, unless the path of the directory is empty. -/
theorem removing (tracked : Tracked token scratch home taken paths store) (fresh : Fresh token store.drawn) :
    Tracked token scratch home (taken ++ [(.inr .removing, store)]) paths
      { store with files := (store.files.removeTree store.directory).2 } := by
  obtain rfl : store.directory = scratch := tracked.directory
  have emptied := FileSystem.removeTree_emptied store.files store.directory
  refine ⟨tracked.directory, (FileSystem.home_congr emptied.workingDirectory store.directory).trans tracked.located, tracked.told,
    fun path member kept => ?_, fun name member wiped => ?_⟩
  · rcases kept with unwiped | empty
    · rcases unwiped_append.mp unwiped with ⟨_, _, writes, _⟩ | ⟨_, spared⟩
      · cases writes
      · exact absurd rfl spared
    · have closed : ∀ location, ¬ store.files.Opens store.directory location :=
        fun location opens => (FileSystem.opens_iff.mp opens).1.1 empty
      rw [emptied.untouched closed]
      exact tracked.present path member (.inr empty)
  · obtain ⟨-, named⟩ := not_or.mp wiped
    by_cases before : Unwiped token taken (store.directory / name) ∨ store.directory.text = ""
    · obtain ⟨number, inside, same⟩ := tracked.told.numbered _ member
      have valid := fresh.valid number inside
      obtain ⟨content, executable, found⟩ := isFile_iff.mp (tracked.present _ member before)
      rw [same] at found
      obtain ⟨fits, location, leads, -⟩ := (FileSystem.find?_div_eq_some_iff valid).mp found
      obtain rfl : location = home := leads.home.trans tracked.located
      have opens := FileSystem.opens_iff.mpr ⟨FileSystem.fits_of_fits_div named valid.2.2.2.1 fits, leads⟩
      intro content executable left
      exact absurd ((emptied.cleared location [name] opens (by simp)).symm.trans left) (by simp)
    · intro content executable left
      exact tracked.absent name member before content executable (emptied.remains _ _ left)

/-- Making the directory keeps every file and adds none. -/
theorem recreating (tracked : Tracked token scratch home taken paths store) (fresh : Fresh token store.drawn) :
    Tracked token scratch home (taken ++ [(.inr .recreating, store)]) paths
      { store with files := (store.files.makeDirectories store.directory).2 } := by
  obtain rfl : store.directory = scratch := tracked.directory
  have grows := FileSystem.makeDirectories_grows store.files store.directory
  refine tracked.spared rfl (FileSystem.home_congr (congrArg Target.location grows.workingDirectory) store.directory) tracked.told
    (List.Subset.refl _) (by simp) (by simp) (fun path member file => ?_) (fun name _ absent content executable left => ?_)
  · obtain ⟨content, executable, found⟩ := isFile_iff.mp file
    obtain ⟨number, inside, rfl⟩ := tracked.told.numbered path member
    have valid := fresh.valid number inside
    obtain ⟨fits, location, leads, stands⟩ := (FileSystem.find?_div_eq_some_iff valid).mp found
    refine isFile_iff.mpr ⟨content, executable, (FileSystem.find?_div_eq_some_iff valid).mpr ⟨fits, location, ?_, ?_⟩⟩
    · exact leads.mono grows.directories grows.workingDirectory
    · exact (grows.files _ content executable).mpr stands
  · exact absent content executable ((grows.files _ content executable).mp left)

theorem reset {phase : Reset} (tracked : Tracked token scratch home taken (others ++ memoized store.memo) store)
    (fresh : Fresh token store.drawn) :
    Tracked token scratch home (taken ++ [(.inr phase, store)]) (others ++ memoized (phase.step store).2.memo)
      (phase.step store).2 := by
  cases phase with
  | forgetting =>
    have fewer : (others ++ memoized (.empty : Table (List Path.Component) Path)).Sublist (others ++ memoized store.memo) := by
      simp [memoized, Table.empty]
    exact tracked.quiet rfl rfl (tracked.told.sublist fewer) fewer.subset (by simp) (by simp)
  | removing =>
    rw [removing_step]
    exact tracked.removing fresh
  | recreating =>
    rw [recreating_step]
    exact tracked.recreating fresh

end Tracked

/-- The state that steps of creations and resets keep. -/
theorem Tracked.step {calls : List (Progress (Creation ⊕ Reset) (Except ViewError Path ⊕ Except ViewError Unit))}
    {index : Nat} {phase : Creation ⊕ Reset}
    (tracked : Tracked token scratch home taken (held Sum.getLeft? calls store.memo) store)
    (found : calls[index]? = some (.running phase)) (fresh : Fresh token ((sharing token).step phase store).2.drawn) :
    Tracked token scratch home (taken ++ [(phase, store)])
      (held Sum.getLeft? (calls.set index ((sharing token).step phase store).1) ((sharing token).step phase store).2.memo)
      ((sharing token).step phase store).2 := by
  have before := tracked.perm (held_perm Sum.getLeft? found store.memo).symm
  refine perm ?_ (held_set_perm Sum.getLeft? found _ _)
  cases phase with
  | inl phase =>
    rw [sharing, Activity.either_step_inl] at fresh ⊢
    rw [callOwn?_asLeft]
    exact before.created rfl fresh
  | inr phase =>
    rw [sharing, Activity.either_step_inr] at fresh ⊢
    rw [callOwn?_asRight]
    exact before.reset (fresh.mono (Nat.le_of_eq (reset_drawn phase store).symm))

theorem sharing_drawn_le (phase : Creation ⊕ Reset) (store : Store) :
    store.drawn ≤ ((sharing token).step phase store).2.drawn := by
  cases phase with
  | inl phase => rw [sharing, Activity.either_step_inl]; exact drawn_le_step token phase store
  | inr phase => rw [sharing, Activity.either_step_inr]; exact Nat.le_of_eq (reset_drawn phase store).symm

section
variable (token : Nat → String) (files : FileSystem) (scratch : Path) (skeletonPath : Option Path)
  (requests : List Request) (schedule : List Nat)

/-- Requests to a new store, none of which has taken a step. -/
def requested : List (Progress (Creation ⊕ Reset) (Except ViewError Path ⊕ Except ViewError Unit)) × Store :=
  (requests.map fun request => .running request.phase, .new files scratch skeletonPath)

/-- The steps that a schedule takes. -/
def history : List ((Creation ⊕ Reset) × Store) :=
  (sharing token).steps schedule (requested files scratch skeletonPath requests)

/-- What a schedule comes to. -/
def outcome : List (Progress (Creation ⊕ Reset) (Except ViewError Path ⊕ Except ViewError Unit)) × Store :=
  (sharing token).interleave schedule (requested files scratch skeletonPath requests)

end

section
variable (files : FileSystem) (scratch : Path) (skeletonPath : Option Path) (requests : List Request) (schedule : List Nat)

theorem Tracked.outcome (fresh : Fresh token (outcome token files scratch skeletonPath requests schedule).2.drawn) :
    Tracked token scratch (files.home scratch) (history token files scratch skeletonPath requests schedule)
      (held Sum.getLeft? (Store.outcome token files scratch skeletonPath requests schedule).1
        (Store.outcome token files scratch skeletonPath requests schedule).2.memo)
      (Store.outcome token files scratch skeletonPath requests schedule).2 := by
  have none : held Sum.getLeft? (requested files scratch skeletonPath requests).1 .empty = [] := by
    have unowned : ∀ request : Request, callOwn? Sum.getLeft?
        (.running request.phase : Progress (Creation ⊕ Reset) (Except ViewError Path ⊕ Except ViewError Unit)) = none := by
      intro request
      cases request <;> rfl
    simp [held, ownFiles, requested, memoized, Table.empty, List.filterMap_map, unowned]
  refine (sharing token).steps_induction (motive := fun taken calls state => Fresh token state.drawn →
    Tracked token scratch (files.home scratch) taken (held Sum.getLeft? calls state.memo) state) ?_ schedule [] _ ?_ fresh
  · intro taken calls state index phase before found fresh
    exact (before (fresh.mono (sharing_drawn_le phase state))).step found fresh
  · intro _
    change Tracked token scratch (files.home scratch) [] (held Sum.getLeft? _ .empty) (.new files scratch skeletonPath)
    rw [none]
    exact ⟨rfl, rfl, .nil, by simp, by simp⟩

/-- However creations and resets are interleaved, a wrapper that is remembered is a file of the directory if and only
if no reset has removed the directory since the wrapper was written, and the path of the directory is not empty. -/
theorem remembered_isFile_iff (fresh : Fresh token (outcome token files scratch skeletonPath requests schedule).2.drawn)
    {wrapper : Path} (member : wrapper ∈ memoized (outcome token files scratch skeletonPath requests schedule).2.memo) :
    (∃ number < (outcome token files scratch skeletonPath requests schedule).2.drawn,
      wrapper = scratch / fileName token number) ∧
    ((outcome token files scratch skeletonPath requests schedule).2.files.isFile wrapper ↔
      Unwiped token (history token files scratch skeletonPath requests schedule) wrapper ∨ scratch.text = "") ∧
    ((outcome token files scratch skeletonPath requests schedule).2.files.isFile wrapper ∧
        (∃ location, (outcome token files scratch skeletonPath requests schedule).2.files.Opens scratch location) ↔
      Unwiped token (history token files scratch skeletonPath requests schedule) wrapper ∧ scratch.text ≠ "") := by
  have tracked := Tracked.outcome files scratch skeletonPath requests schedule fresh
  have inside := List.mem_append_right
    (ownFiles Sum.getLeft? (outcome token files scratch skeletonPath requests schedule).1) member
  have file := tracked.isFile_iff_unwiped fresh inside
  obtain ⟨number, drawn, shape⟩ := tracked.told.numbered wrapper inside
  refine ⟨⟨number, drawn, shape⟩, file, ?_⟩
  constructor
  · rintro ⟨stands, location, opens⟩
    have named := (FileSystem.opens_iff.mp opens).1.1
    exact ⟨(file.mp stands).resolve_right named, named⟩
  · rintro ⟨unwiped, named⟩
    have stands := file.mpr (.inl unwiped)
    have valid := fresh.valid number drawn
    obtain ⟨content, executable, found⟩ := isFile_iff.mp stands
    rw [shape] at found
    obtain ⟨fits, location, leads, -⟩ := (FileSystem.find?_div_eq_some_iff valid).mp found
    exact ⟨stands, location, FileSystem.opens_iff.mpr ⟨FileSystem.fits_of_fits_div named valid.2.2.2.1 fits, leads⟩⟩

end

/-- A call that runs after a reset enters a file that stays. -/
theorem sequential_wrapper_stands :
    Fresh countingToken (outcome countingToken default { text := "scratch" } none [.reset, .create { text := "/v/P.svelte" }]
      [0, 0, 0, 1, 1, 1, 1]).2.drawn ∧
    ∃ wrapper ∈ memoized (outcome countingToken default { text := "scratch" } none
        [.reset, .create { text := "/v/P.svelte" }] [0, 0, 0, 1, 1, 1, 1]).2.memo,
      Unwiped countingToken (history countingToken default { text := "scratch" } none
        [.reset, .create { text := "/v/P.svelte" }] [0, 0, 0, 1, 1, 1, 1]) wrapper := by
  have facts : (outcome countingToken default { text := "scratch" } none [.reset, .create { text := "/v/P.svelte" }]
        [0, 0, 0, 1, 1, 1, 1]).2.drawn = 1 ∧
      ∃ wrapper ∈ memoized (outcome countingToken default { text := "scratch" } none
          [.reset, .create { text := "/v/P.svelte" }] [0, 0, 0, 1, 1, 1, 1]).2.memo,
        (outcome countingToken default { text := "scratch" } none [.reset, .create { text := "/v/P.svelte" }]
          [0, 0, 0, 1, 1, 1, 1]).2.files.isFile wrapper := by decide +kernel
  obtain ⟨drawn, wrapper, member, stands⟩ := facts
  have fresh : Fresh countingToken 1 := ⟨by decide +kernel, by decide +kernel⟩
  rw [← drawn] at fresh
  refine ⟨fresh, wrapper, member, ?_⟩
  have file := (remembered_isFile_iff default { text := "scratch" } none [.reset, .create { text := "/v/P.svelte" }]
    [0, 0, 0, 1, 1, 1, 1] fresh member).2.1
  exact (file.mp stands).resolve_right (by decide)

/-- A call that has written its file before a reset removes the directory, and enters it after the reset has forgotten
every wrapper, leaves the memo with a file that is gone, though no operation has failed. And where the path of the
directory is empty a reset makes none, yet it succeeds. -/
theorem wiped_wrapper_is_remembered :
    (let final := outcome countingToken default { text := "scratch" } none
        [.reset, .create { text := "/v/P.svelte" }, .reset] [0, 0, 0, 1, 1, 1, 2, 2, 2, 1];
      (Activity.results? final.1).map (List.map (Sum.elim Except.toBool Except.toBool)) = some [true, true, true] ∧
        ∃ wrapper ∈ memoized final.2.memo, ¬ final.2.files.isFile wrapper) ∧
    (let final := outcome countingToken default { text := "" } none
        [.reset, .create { text := "/v/P.svelte" }] [0, 0, 0, 1, 1, 1, 1];
      (Activity.results? final.1).map (List.map (Sum.elim Except.toBool Except.toBool)) = some [true, true] ∧
        memoized final.2.memo ≠ [] ∧ ∀ location, ¬ final.2.files.Opens { text := "" } location) :=
  ⟨by decide +kernel, by decide +kernel, by decide +kernel, fun _ opens => (FileSystem.opens_iff.mp opens).1.1 rfl⟩

end ComponentViews.Wrapper.Store
