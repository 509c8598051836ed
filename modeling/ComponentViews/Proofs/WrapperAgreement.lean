import ComponentViews.Proofs.HeldFiles
import Mathlib.Data.List.Nodup

/-! How the memo of a store and its directory agree while calls create wrappers. The
files below the directory are those that calls and the memo hold; a call that comes
second for a source takes its own file away again and never one of the memo. -/

namespace ComponentViews.Wrapper.Store
open FileTree

/-- The skeleton of the wrappers to come, loaded or still to be read. -/
def template (store : Store) : Except ViewError Skeleton :=
  match store.skeleton with
  | some skeleton => .ok skeleton
  | none => store.readSkeleton

/-- A file is the whole wrapper of a source, by the skeleton that a store was set up with. -/
def Written (ready : Store) (files : FileSystem) (source wrapper : Path) : Prop :=
  ∃ skeleton, ready.template = .ok skeleton ∧ files.find? wrapper = some (.file (.text (skeleton.render source)) false)

/-- Calls for wrappers, each before its first step. -/
def asking (sources : List Path) : List (Progress Creation (Except ViewError Path)) :=
  sources.map fun source => .running (.checking source)

/-- What a call for a source knows of the store. -/
def Sound (ready : Store) (source : Path) (store : Store) : Progress Creation (Except ViewError Path) → Prop
  | .running (.checking asked) => asked = source
  | .running (.loading asked) => asked = source
  | .running (.writing asked skeleton) => asked = source ∧ store.skeleton = some skeleton
  | .running (.claiming asked own) => asked = source ∧ Written ready store.files source own
  | .running (.discarding own winner) =>
    store.find? source = some winner ∧ ∃ spelling, Written ready store.files spelling own
  | .finished (.ok wrapper) => store.find? source = some wrapper
  | .finished (.error _) => True

/-- What creating wrappers keeps of a store whose directory was empty, given the files held. -/
structure Orderly (token : Nat → String) (ready : Store) (location : Location) (sources : List Path)
    (paths : List Path) (store : Store) : Prop where
  directory : store.directory = ready.directory
  skeletonPath : store.skeletonPath = ready.skeletonPath
  loaded : ∀ skeleton, store.skeleton = some skeleton → ready.template = .ok skeleton
  unread : store.skeleton = none → paths = [] ∧ store.files = ready.files ∧ ready.skeleton = none
  fits : FileSystem.Fits ready.directory
  leads : store.files.Leads ready.directory location
  told : Told token ready.directory store.drawn paths
  listed : ∀ rest entry, rest ≠ [] → store.files.tree.get? (location ++ rest) = some entry →
    ∃ number < store.drawn, rest = [fileName token number] ∧ ready.directory / fileName token number ∈ paths
  keys : (store.memo.entries.map Prod.fst).Nodup
  remembered : ∀ key wrapper, (key, wrapper) ∈ store.memo.entries →
    ∃ spelling ∈ sources, spelling.components = key ∧ Written ready store.files spelling wrapper

/-- What the other calls see of a step: memo and skeleton only grow, and their files stay. -/
structure Spares (before after : Store) (paths : List Path) : Prop where
  memo : ∀ key wrapper, before.memo.find? key = some wrapper → after.memo.find? key = some wrapper
  skeleton : ∀ skeleton, before.skeleton = some skeleton → after.skeleton = some skeleton
  files : ∀ path ∈ paths, after.files.find? path = before.files.find? path

variable {token : Nat → String} {ready store store' : Store} {location : Location} {sources paths others : List Path}
  {source : Path}

theorem Spares.same (memo : store'.memo = store.memo) (skeleton : store'.skeleton = store.skeleton)
    (files : store'.files = store.files) : Spares store store' paths :=
  ⟨fun _ _ found => memo ▸ found, fun _ found => skeleton ▸ found, fun _ _ => by rw [files]⟩

theorem Written.spared {wrapper : Path} (written : Written ready store.files source wrapper)
    (spares : Spares store store' paths) (member : wrapper ∈ paths) : Written ready store'.files source wrapper := by
  obtain ⟨skeleton, known, found⟩ := written
  exact ⟨skeleton, known, (spares.files wrapper member).trans found⟩

theorem Sound.spared {call : Progress Creation (Except ViewError Path)} (sound : Sound ready source store call)
    (spares : Spares store store' paths) (owns : ∀ own, callOwn? some call = some own → own ∈ paths) :
    Sound ready source store' call := by
  match call with
  | .running (.checking _) => exact sound
  | .running (.loading _) => exact sound
  | .running (.writing _ _) => exact ⟨sound.1, spares.skeleton _ sound.2⟩
  | .running (.claiming _ _) => exact ⟨sound.1, sound.2.spared spares (owns _ rfl)⟩
  | .running (.discarding _ _) =>
    obtain ⟨found, spelling, written⟩ := sound
    exact ⟨spares.memo _ _ found, spelling, written.spared spares (owns _ rfl)⟩
  | .finished (.ok _) => exact spares.memo _ _ sound
  | .finished (.error _) => trivial

namespace Orderly

theorem perm (orderly : Orderly token ready location sources paths store) (moved : others.Perm paths) :
    Orderly token ready location sources others store where
  __ := orderly
  unread missing := by
    obtain ⟨rfl, rest⟩ := orderly.unread missing
    exact ⟨List.perm_nil.mp moved, rest⟩
  told := orderly.told.perm moved
  listed rest entry inner found := by
    obtain ⟨number, inside, shape, member⟩ := orderly.listed rest entry inner found
    exact ⟨number, inside, shape, moved.mem_iff.mpr member⟩

/-- Entries of the memo outlast a step that spares their files and enters nothing. -/
theorem remembered_spared (orderly : Orderly token ready location sources paths store)
    (spares : Spares store store' others) (within : ∀ path ∈ memoized store.memo, path ∈ others) :
    ∀ key wrapper, (key, wrapper) ∈ store.memo.entries →
      ∃ spelling ∈ sources, spelling.components = key ∧ Written ready store'.files spelling wrapper := by
  intro key wrapper member
  obtain ⟨spelling, asked, same, written⟩ := orderly.remembered key wrapper member
  exact ⟨spelling, asked, same, written.spared spares (within wrapper (List.mem_map.mpr ⟨_, member, rfl⟩))⟩

/-- A change to a file of one's own is not seen under the files held elsewhere. -/
theorem spares_change {files : FileSystem} {drawn number : Nat} {entry : Option Entry} (fresh : Fresh token drawn)
    (told : Told token ready.directory drawn (ready.directory / fileName token number :: paths))
    (leads : store.files.Leads ready.directory location)
    (changes : FileSystem.Changes store.files files (location ++ [fileName token number]) entry)
    (free : store.files.tree.get? (location ++ [fileName token number]) ≠ some .directory) :
    ∀ path ∈ paths, files.find? path = store.files.find? path := by
  intro path member
  obtain ⟨other, inside, rfl⟩ := told.tail.numbered path member
  exact changes.find?_div free leads (fresh.valid other inside) (told.name_ne member)

end Orderly

/-- What a step of one call leaves, given what the other calls hold. -/
structure Advances (token : Nat → String) (ready : Store) (location : Location) (sources : List Path) (source : Path)
    (others : List Path) (before after : Store) (next : Progress Creation (Except ViewError Path)) : Prop where
  orderly : Orderly token ready location sources ((callOwn? some next).toList ++ (others ++ memoized after.memo)) after
  spares : Spares before after (others ++ memoized before.memo)
  sound : Sound ready source after next
  entered : ∀ entry ∈ after.memo.entries,
    entry ∈ before.memo.entries ∨ entry.1 = source.components ∧ next = .finished (.ok entry.2)

section
variable {phase : Creation} {next : Progress Creation (Except ViewError Path)}

theorem checking_advances (orderly : Orderly token ready location sources (others ++ memoized store.memo) store)
    (taken : Creation.step token (.checking source) store = (next, store')) :
    Advances token ready location sources source others store store' next := by
  simp only [Creation.step] at taken
  split at taken
  next wrapper found =>
    cases taken
    exact ⟨orderly, .same rfl rfl rfl, found, fun _ member => .inl member⟩
  next =>
    cases taken
    exact ⟨orderly, .same rfl rfl rfl, rfl, fun _ member => .inl member⟩

theorem loading_advances (orderly : Orderly token ready location sources (others ++ memoized store.memo) store)
    (taken : Creation.step token (.loading source) store = (next, store')) :
    Advances token ready location sources source others store store' next := by
  simp only [Creation.step] at taken
  split at taken
  next skeleton known =>
    cases taken
    exact ⟨orderly, .same rfl rfl rfl, ⟨rfl, known⟩, fun _ member => .inl member⟩
  next absent =>
    split at taken
    next skeleton read =>
      cases taken
      obtain ⟨-, files, unset⟩ := orderly.unread absent
      have same : store.readSkeleton = ready.readSkeleton := by simp only [readSkeleton, orderly.skeletonPath, files]
      have known : ready.template = .ok skeleton := by simpa only [template, unset, ← same] using read
      refine ⟨{ orderly with loaded := ?_, unread := ?_ }, ⟨fun _ _ found => found, ?_, fun _ _ => rfl⟩, ⟨rfl, rfl⟩,
        fun _ member => .inl member⟩
      · rintro _ ⟨⟩; exact known
      · intro missing; cases missing
      · intro other present; rw [absent] at present; cases present
    next =>
      cases taken
      exact ⟨orderly, .same rfl rfl rfl, trivial, fun _ member => .inl member⟩

/-- Writing takes the next name, which nobody holds, and changes nothing else. -/
theorem writing_advances {skeleton : Skeleton}
    (orderly : Orderly token ready location sources (others ++ memoized store.memo) store)
    (known : store.skeleton = some skeleton) (fresh : Fresh token store'.drawn)
    (taken : Creation.step token (.writing source skeleton) store = (next, store')) :
    Advances token ready location sources source others store store' next := by
  have place : store.fileFor token = ready.directory / fileName token store.drawn := by
    rw [fileFor, orderly.directory, fileName]
  simp only [Creation.step, place] at taken
  split at taken
  next files written =>
    cases taken
    have valid := fresh.valid store.drawn (Nat.lt_succ_self _)
    have told := orderly.told.draw fresh
    obtain ⟨reached, leads, fits, free, changes⟩ := FileSystem.write_ok valid written
    obtain rfl : reached = location := leads.home.trans orderly.leads.home.symm
    have leads' := changes.leads free leads
    have spared := Orderly.spares_change fresh told leads changes free
    have spares : Spares store { store with drawn := store.drawn + 1, files } (others ++ memoized store.memo) :=
      ⟨fun _ _ found => found, fun _ present => present, spared⟩
    refine ⟨{ orderly with unread := ?_, leads := leads', told := told, listed := ?_, remembered := ?_ }, spares, ⟨rfl, ?_⟩,
      fun _ member => .inl member⟩
    · intro missing; rw [known] at missing; cases missing
    · intro rest entry inner found
      rw [changes.2] at found
      split at found
      next here => exact ⟨store.drawn, Nat.lt_succ_self _, List.append_cancel_left here, List.mem_cons_self⟩
      next =>
        obtain ⟨number, inside, shape, member⟩ := orderly.listed rest entry inner found
        exact ⟨number, Nat.lt_succ_of_lt inside, shape, .tail _ member⟩
    · exact orderly.remembered_spared spares fun path member => List.mem_append_right _ member
    · refine ⟨skeleton, orderly.loaded skeleton known, ?_⟩
      exact (FileSystem.find?_div_eq_some_iff valid).mpr ⟨fits, reached, leads', by rw [changes.2, if_pos rfl]⟩
  next =>
    cases taken
    refine ⟨{ orderly with told := orderly.told.later (Nat.le_succ _), listed := ?_ }, .same rfl rfl rfl, trivial,
      fun _ member => .inl member⟩
    intro rest entry inner found
    obtain ⟨number, inside, shape, member⟩ := orderly.listed rest entry inner found
    exact ⟨number, Nat.lt_succ_of_lt inside, shape, member⟩

/-- The first to enter a file for a source gives it to the memo. -/
theorem claiming_advances {own : Path} (fresh : Fresh token store.drawn)
    (orderly : Orderly token ready location sources (own :: (others ++ memoized store.memo)) store)
    (asked : source ∈ sources) (written : Written ready store.files source own)
    (taken : Creation.step token (.claiming source own) store = (next, store')) :
    Advances token ready location sources source others store store' next := by
  simp only [Creation.step] at taken
  split at taken
  next absent =>
    cases taken
    have entries := Table.entries_insert_of_find?_eq_none absent own
    have moved : (others ++ memoized (store.memo.insert source.components own)).Perm (own :: (others ++ memoized store.memo)) := by
      rw [memoized, entries, List.map_append, ← List.append_assoc]
      exact List.perm_append_comm
    have settled := orderly.perm moved
    refine ⟨{ settled with keys := ?_, remembered := ?_ }, ⟨?_, fun _ present => present, fun _ _ => rfl⟩, ?_, ?_⟩
    · have new : source.components ∉ store.memo.entries.map Prod.fst := Table.find?_eq_none_iff.mp absent
      rw [entries, List.map_append]
      exact List.perm_append_comm.nodup_iff.mp (List.nodup_cons.mpr ⟨new, orderly.keys⟩)
    · intro key wrapper member
      rw [entries, List.mem_append] at member
      rcases member with member | member
      · exact orderly.remembered key wrapper member
      · obtain ⟨rfl, rfl⟩ := by simpa using member
        exact ⟨source, asked, rfl, written⟩
    · intro key wrapper found
      have other : key ≠ source.components := by
        rintro rfl
        exact absurd (absent.symm.trans found) (by simp)
      simpa [other] using found
    · simp [Sound, find?]
    · intro entry member
      rw [entries, List.mem_append] at member
      rcases member with member | member
      · exact .inl member
      · obtain rfl := List.mem_singleton.mp member
        exact .inr ⟨rfl, rfl⟩
  next winner found =>
    have member : winner ∈ others ++ memoized store.memo := List.mem_append_right _ (mem_memoized_of_find? found)
    split at taken
    next same =>
      have one := orderly.told.eq_of_same fresh (.tail _ member) List.mem_cons_self same
      exact absurd (one ▸ member) (List.nodup_cons.mp orderly.told.distinct).1
    next =>
      cases taken
      exact ⟨orderly, .same rfl rfl rfl, ⟨found, source, written⟩, fun _ member => .inl member⟩

/-- A call that came second takes away its own file, and that never fails. -/
theorem discarding_advances {own winner : Path} (fresh : Fresh token store.drawn)
    (orderly : Orderly token ready location sources (own :: (others ++ memoized store.memo)) store)
    (found : store.find? source = some winner) (written : ∃ spelling, Written ready store.files spelling own)
    (taken : Creation.step token (.discarding own winner) store = (next, store')) :
    Advances token ready location sources source others store store' next := by
  obtain ⟨number, inside, rfl⟩ := orderly.told.numbered own List.mem_cons_self
  obtain ⟨spelling, skeleton, -, stands⟩ := written
  have valid := fresh.valid number inside
  obtain ⟨fits, reached, leads, stands⟩ := (FileSystem.find?_div_eq_some_iff valid).mp stands
  obtain rfl : reached = location := leads.home.trans orderly.leads.home.symm
  obtain ⟨files, removed, changes⟩ := FileSystem.removeFile_ok valid fits leads stands
  simp only [Creation.step, removed] at taken
  cases taken
  have free : store.files.tree.get? (reached ++ [fileName token number]) ≠ some .directory := by simp [stands]
  have spares : Spares store { store with files } (others ++ memoized store.memo) :=
    ⟨fun _ _ found => found, fun _ present => present,
      Orderly.spares_change fresh orderly.told leads changes free⟩
  refine ⟨{ orderly with
    unread := ?_, leads := changes.leads free leads, told := orderly.told.tail, listed := ?_, remembered := ?_ }, spares,
    found, fun _ member => .inl member⟩
  · intro missing
    exact absurd (orderly.unread missing).1 (List.cons_ne_nil _ _)
  · intro rest entry inner listed
    rw [changes.2] at listed
    split at listed
    · cases listed
    next elsewhere =>
      obtain ⟨other, inside', rfl, member⟩ := orderly.listed rest entry inner listed
      rcases List.mem_cons.mp member with own | member
      · obtain rfl := fresh.eq_of_same inside' inside (congrArg Path.components own)
        exact absurd rfl elsewhere
      · exact ⟨other, inside', rfl, member⟩
  · exact orderly.remembered_spared spares fun path member => List.mem_append_right _ member

end
/-- Every call is sound, the store holds their files in order, and whatever it remembers it has given to a call. -/
structure Agreeing (token : Nat → String) (ready : Store) (location : Location) (sources : List Path)
    (calls : List (Progress Creation (Except ViewError Path))) (store : Store) : Prop where
  orderly : Orderly token ready location sources (held some calls store.memo) store
  sound : ∀ (index : Nat) call, calls[index]? = some call → ∃ source, sources[index]? = some source ∧ Sound ready source store call
  given : ∀ entry ∈ store.memo.entries, ∃ (index : Nat) (source : Path), sources[index]? = some source ∧
    source.components = entry.1 ∧ calls[index]? = some (.finished (.ok entry.2))

/-- What is remembered stays remembered, and its file stays as it is. -/
structure Retains (before after : Store) : Prop where
  memo : ∀ key wrapper, before.memo.find? key = some wrapper → after.memo.find? key = some wrapper
  files : ∀ key wrapper, before.memo.find? key = some wrapper → after.files.find? wrapper = before.files.find? wrapper

theorem Retains.refl (store : Store) : Retains store store := ⟨fun _ _ found => found, fun _ _ _ => rfl⟩

theorem Retains.trans {before middle after : Store} (first : Retains before middle) (last : Retains middle after) :
    Retains before after :=
  ⟨fun key wrapper found => last.memo key wrapper (first.memo key wrapper found),
    fun key wrapper found => (last.files key wrapper (first.memo key wrapper found)).trans (first.files key wrapper found)⟩

theorem Spares.retains (spares : Spares store store' (others ++ memoized store.memo)) : Retains store store' :=
  ⟨spares.memo, fun _ _ found => spares.files _ (List.mem_append_right _ (mem_memoized_of_find? found))⟩

variable {calls : List (Progress Creation (Except ViewError Path))}

theorem Agreeing.start (vacant : store.files.tree.below location = []) (opens : store.files.Opens store.directory location)
    (forgotten : store.memo = .empty) (sources : List Path) :
    Agreeing token store location sources (asking sources) store := by
  have none : held some (asking sources) store.memo = [] := by
    simp [held, asking, ownFiles, callOwn?, Creation.own?, memoized, forgotten, Table.empty]
  refine ⟨{
    directory := rfl, skeletonPath := rfl, fits := (FileSystem.opens_iff.mp opens).1, leads := opens.leads
    loaded := ?_, unread := ?_, told := ?_, listed := ?_, keys := ?_, remembered := ?_ }, ?_, by simp [forgotten, Table.empty]⟩
  · intro skeleton present; simp [template, present]
  · intro missing; exact ⟨none, rfl, missing⟩
  · rw [none]; exact .nil
  · intro rest entry inner found
    have member := mem_below_iff.mpr ⟨inner, found⟩
    simp [vacant] at member
  · simp [forgotten, Table.empty]
  · simp [forgotten, Table.empty]
  · intro index call found
    rw [asking, List.getElem?_map, Option.map_eq_some_iff] at found
    obtain ⟨source, asked, rfl⟩ := found
    exact ⟨source, asked, rfl⟩

theorem Agreeing.step {index : Nat} {phase : Creation}
    (agreeing : Agreeing token ready location sources calls store) (found : calls[index]? = some (.running phase))
    (fresh : Fresh token (phase.step token store).2.drawn) :
    Agreeing token ready location sources (calls.set index (phase.step token store).1) (phase.step token store).2 ∧
      Retains store (phase.step token store).2 := by
  obtain ⟨source, asked, sound⟩ := agreeing.sound index _ found
  have orderly := agreeing.orderly.perm (held_perm some found store.memo).symm
  have earlier := fresh.mono (drawn_le_step token phase store)
  have advances : Advances token ready location sources source (ownFiles some (calls.eraseIdx index)) store
      (phase.step token store).2 (phase.step token store).1 := by
    cases phase with
    | checking other => obtain rfl : other = source := sound; exact checking_advances orderly rfl
    | loading other => obtain rfl : other = source := sound; exact loading_advances orderly rfl
    | writing other skeleton =>
      obtain ⟨rfl, known⟩ : other = source ∧ store.skeleton = some skeleton := sound
      exact writing_advances orderly known fresh rfl
    | claiming other own =>
      obtain ⟨rfl, written⟩ : other = source ∧ Written ready store.files source own := sound
      exact claiming_advances earlier orderly (List.mem_of_getElem? asked) written rfl
    | discarding own winner => exact discarding_advances earlier orderly sound.1 sound.2 rfl
  have moved := held_set_perm some found (phase.step token store).1 (phase.step token store).2.memo
  refine ⟨⟨advances.orderly.perm moved, ?_, ?_⟩, advances.spares.retains⟩
  · intro other call placed
    by_cases here : other = index
    · subst here
      rw [List.getElem?_set_self (List.getElem?_eq_some_iff.mp found).1] at placed
      cases placed
      exact ⟨source, asked, advances.sound⟩
    · rw [List.getElem?_set_ne (Ne.symm here)] at placed
      obtain ⟨source, asked, sound⟩ := agreeing.sound other call placed
      exact ⟨source, asked, sound.spared advances.spares fun own owned =>
        List.mem_append_left _ (mem_ownFiles_eraseIdx some placed here owned)⟩
  · intro entry member
    rcases advances.entered entry member with old | ⟨key, ended⟩
    · obtain ⟨other, spelling, placed, key, ended⟩ := agreeing.given entry old
      have apart : index ≠ other := by
        rintro rfl
        simp [found] at ended
      exact ⟨other, spelling, placed, key, by rw [List.getElem?_set_ne apart, ended]⟩
    · exact ⟨index, source, asked, key.symm, by
        rw [List.getElem?_set_self (List.getElem?_eq_some_iff.mp found).1, ended]⟩

theorem Agreeing.interleave {schedule : List Nat} (agreeing : Agreeing token ready location sources calls store)
    (fresh : Fresh token ((Creation.activity token).interleave schedule (calls, store)).2.drawn) :
    let final := (Creation.activity token).interleave schedule (calls, store)
    Agreeing token ready location sources final.1 final.2 ∧ Retains store final.2 := by
  refine (Creation.activity token).interleave_induction
    (motive := fun later state => Fresh token state.drawn → Agreeing token ready location sources later state ∧ Retains store state)
    ?_ schedule (calls, store) (fun _ => ⟨agreeing, .refl store⟩) fresh
  intro later state index phase kept found fresh
  obtain ⟨agreeing, retains⟩ := kept (fresh.mono (drawn_le_step token phase state))
  obtain ⟨next, retains'⟩ := agreeing.step found fresh
  exact ⟨next, retains.trans retains'⟩

/-- The directory of a store is there and holds nothing. -/
def Vacant (store : Store) : Prop :=
  ∃ location, store.files.Opens store.directory location ∧ store.files.tree.below location = []

/-- The paths of all that stands below a location, which the directory leads to. -/
def listing (store : Store) (location : Location) : List Path :=
  (store.files.tree.below location).map fun entry => FileSystem.pathBelow store.directory entry.1

/-- How sources, results, memo and directory agree once all calls have ended. -/
structure Agreement (ready final : Store) (sources : List Path) (results : List (Except ViewError Path)) : Prop where
  /-- One source has one wrapper, however it is spelled, and different sources have different ones. -/
  shared : ∀ (first second : Nat) source other wrapper rival,
    sources[first]? = some source → results[first]? = some (.ok wrapper) →
    sources[second]? = some other → results[second]? = some (.ok rival) →
    (source.same other → wrapper = rival) ∧ (wrapper.same rival → source.same other)
  keys : (final.memo.entries.map Prod.fst).Nodup
  remembered : ∀ key wrapper, final.memo.find? key = some wrapper ↔
    ∃ (index : Nat) (source : Path), sources[index]? = some source ∧ source.components = key ∧
      results[index]? = some (.ok wrapper)
  listed : ∃ location, final.files.Opens final.directory location ∧ (final.listing location).Perm (memoized final.memo)
  written : ∀ key wrapper, final.memo.find? key = some wrapper →
    ∃ spelling ∈ sources, spelling.components = key ∧ Written ready final.files spelling wrapper

namespace Agreeing

theorem written (agreeing : Agreeing token ready location sources calls store) {wrapper : Path}
    (known : .finished (.ok wrapper) ∈ calls ∨ wrapper ∈ memoized store.memo) :
    ∃ key, store.memo.find? key = some wrapper ∧
      ∃ spelling ∈ sources, spelling.components = key ∧ Written ready store.files spelling wrapper := by
  have found : ∃ key, store.memo.find? key = some wrapper := by
    rcases known with returned | remembered
    · obtain ⟨index, placed⟩ := List.getElem?_of_mem returned
      obtain ⟨source, _, found⟩ := agreeing.sound index _ placed
      exact ⟨source.components, found⟩
    · obtain ⟨⟨key, _⟩, member, rfl⟩ := List.mem_map.mp remembered
      exact ⟨key, Table.find?_of_mem_entries agreeing.orderly.keys member⟩
  obtain ⟨key, found⟩ := found
  exact ⟨key, found, agreeing.orderly.remembered key wrapper (Table.mem_entries_of_find? found)⟩

/-- What stands below the directory are the files held. -/
theorem listing_perm (agreeing : Agreeing token ready location sources calls store) (fresh : Fresh token store.drawn)
    (ended : ownFiles some calls = []) : (store.listing location).Perm (memoized store.memo) := by
  have orderly := agreeing.orderly
  rw [held, ended, List.nil_append] at orderly
  have shown : ∀ entry ∈ store.files.tree.below location, ∃ number < store.drawn, entry.1 = [fileName token number] ∧
      FileSystem.pathBelow store.directory entry.1 = ready.directory / fileName token number ∧
      ready.directory / fileName token number ∈ memoized store.memo := by
    rintro ⟨rest, entry⟩ member
    obtain ⟨inner, found⟩ := mem_below_iff.mp member
    obtain ⟨number, inside, rfl, held⟩ := orderly.listed rest entry inner found
    exact ⟨number, inside, rfl, by simp [FileSystem.pathBelow, orderly.directory], held⟩
  refine (List.perm_ext_iff_of_nodup ?_ orderly.told.distinct).mpr fun path => ?_
  · refine List.Nodup.map_on ?_ (List.Nodup.of_map _ (nodup_below store.files.tree location))
    rintro ⟨rest, entry⟩ member ⟨rest', entry'⟩ member' same
    obtain ⟨number, inside, shape, path, -⟩ := shown _ member
    obtain ⟨number', inside', shape', path', -⟩ := shown _ member'
    rw [path, path'] at same
    obtain rfl := fresh.eq_of_same inside inside' (congrArg Path.components same)
    obtain rfl : rest = rest' := shape.trans shape'.symm
    have found := (mem_below_iff.mp member).2
    rw [(mem_below_iff.mp member').2] at found
    cases found
    rfl
  · constructor
    · intro member
      obtain ⟨entry, listed, rfl⟩ := List.mem_map.mp member
      obtain ⟨number, _, _, path, held⟩ := shown entry listed
      exact path ▸ held
    · intro member
      obtain ⟨_, _, spelling, _, _, skeleton, _, stands⟩ := agreeing.written (.inr member)
      obtain ⟨number, inside, rfl⟩ := orderly.told.numbered path member
      obtain ⟨_, reached, leads, found⟩ := (FileSystem.find?_div_eq_some_iff (fresh.valid number inside)).mp stands
      obtain rfl : reached = location := leads.home.trans orderly.leads.home.symm
      exact List.mem_map.mpr ⟨_, mem_below_iff.mpr ⟨by simp, found⟩, by simp [FileSystem.pathBelow, orderly.directory]⟩

theorem agreement {results : List (Except ViewError Path)} (agreeing : Agreeing token ready location sources calls store)
    (fresh : Fresh token store.drawn) (ended : calls = results.map .finished) :
    Agreement ready store sources results := by
  have returned : ∀ (index : Nat) source wrapper, sources[index]? = some source → results[index]? = some (.ok wrapper) →
      store.memo.find? source.components = some wrapper := by
    intro index source wrapper asked placed
    obtain ⟨_, asked', found⟩ := agreeing.sound index (.finished (.ok wrapper)) (by simp [ended, placed])
    cases asked.symm.trans asked'
    exact found
  have idle : ownFiles some calls = [] := by
    simp [ownFiles, ended, callOwn?, List.filterMap_map, Function.comp_def]
  have told := agreeing.orderly.told
  rw [held, idle, List.nil_append] at told
  constructor
  · intro first second source other wrapper rival asked placed asked' placed'
    have found := returned first source wrapper asked placed
    have found' := returned second other rival asked' placed'
    constructor
    · intro same
      rw [beq_iff_eq.mp same, found'] at found
      exact (Option.some.inj found).symm
    · intro same
      obtain rfl := told.eq_of_same fresh (mem_memoized_of_find? found) (mem_memoized_of_find? found') same
      have one := List.inj_on_of_nodup_map told.distinct (Table.mem_entries_of_find? found)
        (Table.mem_entries_of_find? found') rfl
      exact beq_iff_eq.mpr (congrArg Prod.fst one)
  · exact agreeing.orderly.keys
  · intro key wrapper
    constructor
    · intro found
      obtain ⟨index, source, asked, same, placed⟩ := agreeing.given _ (Table.mem_entries_of_find? found)
      exact ⟨index, source, asked, same, by simpa [ended] using placed⟩
    · rintro ⟨index, source, asked, rfl, placed⟩
      exact returned index source wrapper asked placed
  · have opens := FileSystem.opens_iff.mpr ⟨agreeing.orderly.fits, agreeing.orderly.leads⟩
    exact ⟨location, agreeing.orderly.directory ▸ opens, agreeing.listing_perm fresh idle⟩
  · intro key wrapper found
    exact agreeing.orderly.remembered key wrapper (Table.mem_entries_of_find? found)

end Agreeing
end ComponentViews.Wrapper.Store
