import ComponentViews.Proofs.PlainPaths
import ComponentViews.Proofs.WrapperAgreement

/-! What a reset leaves behind. A directory that its path only leads down to is empty
after a reset that succeeds, and from an empty directory on memo and files agree. -/

namespace ComponentViews.Wrapper.Store
open FileTree

variable {store ready : Store}

/-- A reset from its start to its end. -/
theorem reset_eq (store : Store) : store.reset =
    match store.files.removeTree store.directory with
    | (.error .refused, files) => (.error (.io store.directory), { store with memo := .empty, files })
    | (_, files) =>
      match files.makeDirectories store.directory with
      | (.ok (), files) => (.ok (), { store with memo := .empty, files })
      | (.error _, files) => (.error (.io store.directory), { store with memo := .empty, files }) := by
  have forgot : Reset.activity.step .forgetting store = (.running .removing, { store with memo := .empty }) := rfl
  have remade : ∀ files, Reset.activity.run .recreating { store with memo := .empty, files } =
      match files.makeDirectories store.directory with
      | (.ok (), files) => (.ok (), { store with memo := .empty, files })
      | (.error _, files) => (.error (.io store.directory), { store with memo := .empty, files }) := by
    intro files
    split
    next made => exact Activity.run_of_finished _ (by simp [Reset.activity, Reset.step, made])
    next denied => exact Activity.run_of_finished _ (by simp [Reset.activity, Reset.step, denied])
  rw [reset, Activity.run_of_running _ forgot]
  split
  next files refused => exact Activity.run_of_finished _ (by simp [Reset.activity, Reset.step, refused])
  next outcome files allowed removed =>
    have moved : Reset.activity.step .removing { store with memo := .empty } =
        (.running .recreating, { store with memo := .empty, files }) := by
      cases outcome with
      | ok => simp [Reset.activity, Reset.step, removed]
      | error reason =>
        cases reason with
        | missing => simp [Reset.activity, Reset.step, removed]
        | refused => exact absurd rfl allowed
    rw [Activity.run_of_running _ moved]
    exact remade files

/-- A reset forgets every wrapper, whether or not it succeeds. -/
theorem reset_memo (store : Store) : store.reset.2.memo = .empty := by
  rw [reset_eq]
  split
  · rfl
  · split <;> rfl

theorem reset_succeeds_iff (store : Store) : store.reset.1.toBool ↔
    (store.files.removeTree store.directory).1 ≠ .error .refused ∧
      ((store.files.removeTree store.directory).2.makeDirectories store.directory).1.toBool := by
  rw [reset_eq]
  split
  next removed => simp [removed, Except.toBool]
  next outcome files allowed removed =>
    have passed : outcome ≠ .error .refused := allowed
    split
    next made => simp [removed, made, passed, Except.toBool]
    next denied => simp [removed, denied, Except.toBool]

/-- A reset that succeeds has removed the directory, or found none, and has made it. -/
theorem reset_eq_ok (done : store.reset = (.ok (), ready)) : ∃ made,
    (store.files.removeTree store.directory).1 ≠ .error .refused ∧
      (store.files.removeTree store.directory).2.makeDirectories store.directory = (.ok (), made) ∧
      ready = { store with memo := .empty, files := made } := by
  rw [reset_eq] at done
  split at done
  · cases done
  next outcome files allowed removed =>
    split at done
    next made remade =>
      cases done
      refine ⟨made, ?_, by rw [removed]; exact remade, rfl⟩
      rw [removed]
      rintro rfl
      exact allowed rfl
    · cases done

theorem fits_of_removeTree {files : FileSystem} {path : Path} (inner : path.text ≠ "")
    (allowed : (files.removeTree path).1 ≠ .error .refused) : FileSystem.Fits path := by
  by_contra unfit
  have refused : files.locate path = .error .refused := by
    simp only [FileSystem.locate, FileSystem.Fits, inner] at unfit ⊢
    grind
  simp [FileSystem.removeTree, refused] at allowed

/-- Where a path only leads down, a reset that succeeds leaves an empty directory. -/
theorem vacant_of_plain (done : store.reset = (.ok (), ready)) (plain : FileSystem.Plain store.directory) : Vacant ready := by
  obtain ⟨made, allowed, remade, rfl⟩ := reset_eq_ok done
  have inner : store.directory.text ≠ "" := by
    intro empty
    obtain ⟨segment, member, down⟩ := plain.2
    simp [Path.segments, empty, Path.splitSlashes] at member
    simp [member, FileSystem.descends] at down
  exact FileSystem.empty_of_remade plain (fits_of_removeTree inner allowed)
    (FileSystem.removeTree_emptied store.files store.directory) remade

end ComponentViews.Wrapper.Store
