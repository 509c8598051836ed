import ComponentViews.Proofs.FileEffects
import ComponentViews.Proofs.Interleaving
import ComponentViews.Wrapper.Store
import Mathlib.Data.List.Perm.Subperm

/-! The wrapper files that calls and the memo of a store hold between them. A file is
held from its writing on, first by the call that wrote it and then by the memo, or
by the call alone until it takes the file away again. -/

namespace ComponentViews.Wrapper.Store
open FileTree

/-- The name of the wrapper file for a drawn token. -/
def fileName (token : Nat → String) (number : Nat) : String := token number ++ ".svelte"

/-- The first tokens drawn name files, each a file of its own. -/
structure Fresh (token : Nat → String) (count : Nat) : Prop where
  valid : ∀ number < count, ValidName (fileName token number)
  distinct : ∀ first < count, ∀ second < count, fileName token first = fileName token second → first = second

/-- Tokens of 32 lower-case hexadecimal digits, the last of which counts. -/
def countingToken (number : Nat) : String := "6f1d0c5a2b3e4d7f8a9b0c1d2e3f405" ++ String.singleton (Nat.digitChar number)

variable {token : Nat → String} {directory : Path}

theorem Fresh.mono {count fewer : Nat} (fresh : Fresh token count) (less : fewer ≤ count) : Fresh token fewer :=
  ⟨fun number inside => fresh.valid number (by omega),
    fun first inside second inside' => fresh.distinct first (by omega) second (by omega)⟩

theorem Fresh.eq_of_same {count first second : Nat} (fresh : Fresh token count) (inside : first < count)
    (inside' : second < count)
    (same : (directory / fileName token first).components = (directory / fileName token second).components) :
    first = second :=
  fresh.distinct first inside second inside' (Path.name_eq_of_same (fresh.valid first inside) (fresh.valid second inside') same)

/-- Files told apart by the tokens drawn so far. -/
structure Told (token : Nat → String) (directory : Path) (drawn : Nat) (paths : List Path) : Prop where
  distinct : paths.Nodup
  numbered : ∀ path ∈ paths, ∃ number < drawn, path = directory / fileName token number

namespace Told
variable {drawn : Nat} {paths : List Path}

theorem nil : Told token directory drawn [] := ⟨.nil, by simp⟩

theorem perm {others : List Path} (told : Told token directory drawn paths) (moved : others.Perm paths) :
    Told token directory drawn others :=
  ⟨moved.nodup_iff.mpr told.distinct, fun path member => told.numbered path (moved.mem_iff.mp member)⟩

theorem sublist {fewer : List Path} (told : Told token directory drawn paths) (within : fewer.Sublist paths) :
    Told token directory drawn fewer :=
  ⟨told.distinct.sublist within, fun path member => told.numbered path (within.subset member)⟩

theorem tail {path : Path} (told : Told token directory drawn (path :: paths)) : Told token directory drawn paths :=
  told.sublist (List.sublist_cons_self _ _)

theorem later {more : Nat} (told : Told token directory drawn paths) (less : drawn ≤ more) :
    Told token directory more paths :=
  ⟨told.distinct, fun path member => by
    obtain ⟨number, before, shape⟩ := told.numbered path member
    exact ⟨number, by omega, shape⟩⟩

theorem eq_of_same (told : Told token directory drawn paths) (fresh : Fresh token drawn) {first second : Path}
    (member : first ∈ paths) (member' : second ∈ paths) (same : first.same second) : first = second := by
  obtain ⟨number, inside, rfl⟩ := told.numbered first member
  obtain ⟨other, inside', rfl⟩ := told.numbered second member'
  obtain rfl := fresh.eq_of_same inside inside' (by simpa [Path.same] using same)
  rfl

/-- The next token names a file that nobody holds. -/
theorem draw (told : Told token directory drawn paths) (fresh : Fresh token (drawn + 1)) :
    Told token directory (drawn + 1) (directory / fileName token drawn :: paths) := by
  constructor
  · refine List.nodup_cons.mpr ⟨fun member => ?_, told.distinct⟩
    obtain ⟨number, before, shape⟩ := told.numbered _ member
    have same := fresh.eq_of_same (by omega) (by omega) (congrArg Path.components shape)
    omega
  · intro path member
    rcases List.mem_cons.mp member with rfl | member
    · exact ⟨drawn, by omega, rfl⟩
    · exact (told.later (Nat.le_succ drawn)).numbered path member

/-- Another file held has another name. -/
theorem name_ne {number other : Nat} (told : Told token directory drawn (directory / fileName token number :: paths))
    (member : directory / fileName token other ∈ paths) : fileName token other ≠ fileName token number := by
  intro same
  rw [same] at member
  exact (List.nodup_cons.mp told.distinct).1 member

end Told

theorem drawn_le_step (token : Nat → String) (phase : Creation) (store : Store) :
    store.drawn ≤ (phase.step token store).2.drawn := by
  cases phase <;> simp only [Creation.step] <;> split <;> grind

theorem removing_step (store : Store) :
    (Reset.step .removing store).2 = { store with files := (store.files.removeTree store.directory).2 } := by
  simp only [Reset.step]
  split <;> simp [*]

theorem recreating_step (store : Store) :
    (Reset.step .recreating store).2 = { store with files := (store.files.makeDirectories store.directory).2 } := by
  simp only [Reset.step]
  split <;> simp [*]

theorem reset_drawn (phase : Reset) (store : Store) : (phase.step store).2.drawn = store.drawn := by
  cases phase with
  | forgetting => rfl
  | removing => rw [removing_step]
  | recreating => rw [recreating_step]

/-- The file that a call has written and not yet given away. -/
def Creation.own? : Creation → Option Path
  | .claiming _ own => some own
  | .discarding own _ => some own
  | _ => none

section
variable {Phase Result : Type} (creation? : Phase → Option Creation)

/-- The file that a call of a larger activity holds while it creates a wrapper. -/
def callOwn? : Progress Phase Result → Option Path
  | .running phase => (creation? phase).bind Creation.own?
  | .finished _ => none

def memoized (memo : Table (List Path.Component) Path) : List Path := memo.entries.map Prod.snd

/-- The files that calls hold. -/
def ownFiles (calls : List (Progress Phase Result)) : List Path := calls.filterMap (callOwn? creation?)

/-- Every file that calls or the memo hold. -/
def held (calls : List (Progress Phase Result)) (memo : Table (List Path.Component) Path) : List Path :=
  ownFiles creation? calls ++ memoized memo

theorem held_perm {calls : List (Progress Phase Result)} {index : Nat} {call : Progress Phase Result}
    (found : calls[index]? = some call) (memo : Table (List Path.Component) Path) :
    (held creation? calls memo).Perm
      ((callOwn? creation? call).toList ++ (ownFiles creation? (calls.eraseIdx index) ++ memoized memo)) := by
  obtain ⟨inside, rfl⟩ := List.getElem?_eq_some_iff.mp found
  have moved := (List.getElem_cons_eraseIdx_perm inside).symm.filterMap (callOwn? creation?)
  have front : (calls[index] :: calls.eraseIdx index).filterMap (callOwn? creation?) =
      (callOwn? creation? calls[index]).toList ++ ownFiles creation? (calls.eraseIdx index) := by
    cases owned : callOwn? creation? calls[index] <;> simp [ownFiles, owned]
  rw [front] at moved
  simpa only [held, ownFiles, List.append_assoc] using moved.append_right (memoized memo)

theorem held_set_perm {calls : List (Progress Phase Result)} {index : Nat} {call : Progress Phase Result}
    (found : calls[index]? = some call) (next : Progress Phase Result) (memo : Table (List Path.Component) Path) :
    (held creation? (calls.set index next) memo).Perm
      ((callOwn? creation? next).toList ++ (ownFiles creation? (calls.eraseIdx index) ++ memoized memo)) := by
  obtain ⟨inside, rfl⟩ := List.getElem?_eq_some_iff.mp found
  have placed : (calls.set index next)[index]? = some next := by simp [inside]
  have same : (calls.set index next).eraseIdx index = calls.eraseIdx index := by simp [List.eraseIdx_set_eq]
  simpa only [same] using held_perm creation? placed memo

theorem mem_ownFiles_eraseIdx {calls : List (Progress Phase Result)} {index other : Nat} {call : Progress Phase Result}
    {path : Path} (found : calls[other]? = some call) (different : other ≠ index)
    (owned : callOwn? creation? call = some path) : path ∈ ownFiles creation? (calls.eraseIdx index) := by
  have member : call ∈ calls.eraseIdx index := List.mem_eraseIdx_iff_getElem?.mpr ⟨other, different, found⟩
  exact List.mem_filterMap.mpr ⟨call, member, owned⟩

end

theorem callOwn?_asLeft {Result OtherPhase OtherResult : Type} (call : Progress Creation Result) :
    callOwn? Sum.getLeft? (call.asLeft : Progress (Creation ⊕ OtherPhase) (Result ⊕ OtherResult)) = callOwn? some call := by
  cases call <;> rfl

theorem callOwn?_asRight {Result OtherPhase OtherResult : Type} (call : Progress OtherPhase OtherResult) :
    callOwn? Sum.getLeft? (call.asRight : Progress (Creation ⊕ OtherPhase) (Result ⊕ OtherResult)) = none := by
  cases call <;> rfl

theorem mem_memoized_of_find? {memo : Table (List Path.Component) Path} {key : List Path.Component} {wrapper : Path}
    (found : memo.find? key = some wrapper) : wrapper ∈ memoized memo :=
  List.mem_map.mpr ⟨_, Table.mem_entries_of_find? found, rfl⟩

end ComponentViews.Wrapper.Store
