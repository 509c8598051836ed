import ComponentViews.Proofs.ScratchReset

/-! Concurrent calls for wrappers after a reset. However their steps are interleaved, the
memo and the directory agree, exactly when the reset has left an empty directory. -/

namespace ComponentViews.Wrapper.Store

/-- The file operation of a step is not refused: the skeleton can be loaded, the file be written. -/
def Creation.Succeeds (token : Nat → String) : Creation × Store → Prop
  | (.loading _, store) => store.skeleton = none → ∃ skeleton, store.readSkeleton = .ok skeleton
  | (.writing source skeleton, store) =>
    ∃ files, store.files.write (store.fileFor token) (.text (skeleton.render source)) false = .ok files
  | _ => True

/-- What calls for some sources, interleaved by a schedule, come to. -/
def wrapping (token : Nat → String) (ready : Store) (sources : List Path) (schedule : List Nat) :
    List (Progress Creation (Except ViewError Path)) × Store :=
  (Creation.activity token).interleave schedule (asking sources, ready)

/-- What holds of calls interleaved by a schedule, at its end and on the way there. -/
structure Agrees (token : Nat → String) (ready : Store) (sources : List Path) (schedule : List Nat) : Prop where
  /-- When all calls have ended, sources, results, memo and directory agree. -/
  ended : ∀ results, Activity.results? (wrapping token ready sources schedule).1 = some results →
    Agreement ready (wrapping token ready sources schedule).2 sources results
  /-- No call fails while the file operations succeed. -/
  succeeds : (∀ taken ∈ (Creation.activity token).steps schedule (asking sources, ready), Creation.Succeeds token taken) →
    ∀ error, .finished (.error error) ∉ (wrapping token ready sources schedule).1
  /-- A wrapper that has been returned or remembered is complete from then on. -/
  lasting : ∀ earlier later, schedule = earlier ++ later → ∀ wrapper,
    .finished (.ok wrapper) ∈ (wrapping token ready sources earlier).1 ∨
      wrapper ∈ memoized (wrapping token ready sources earlier).2.memo →
    ∃ spelling ∈ sources, Written ready (wrapping token ready sources earlier).2.files spelling wrapper ∧
      Written ready (wrapping token ready sources schedule).2.files spelling wrapper

variable {token : Nat → String} {store ready : Store}

/-- A step fails only by its file operation. -/
theorem step_ne_error {phase : Creation} (succeeds : Creation.Succeeds token (phase, store)) (error : ViewError) :
    (phase.step token store).1 ≠ .finished (.error error) := by
  cases phase with
  | loading source =>
    simp only [Creation.step]
    cases known : store.skeleton with
    | some skeleton => simp
    | none =>
      obtain ⟨skeleton, read⟩ := succeeds known
      simp [read]
  | writing source skeleton =>
    obtain ⟨files, written⟩ := succeeds
    rw [fileFor] at written
    simp [Creation.step, fileFor, written]
  | checking source => simp only [Creation.step]; split <;> simp
  | claiming source own => simp only [Creation.step]; split <;> grind
  | discarding own winner => simp only [Creation.step]; split <;> simp

theorem wrapping_ne_error {sources : List Path} {schedule : List Nat}
    (succeeds : ∀ taken ∈ (Creation.activity token).steps schedule (asking sources, ready), Creation.Succeeds token taken)
    (error : ViewError) : .finished (.error error) ∉ (wrapping token ready sources schedule).1 := by
  have kept : ∀ taken (calls : List (Progress Creation (Except ViewError Path))) state (index : Nat) phase,
      ((∀ step ∈ taken, Creation.Succeeds token step) → .finished (.error error) ∉ calls) →
      calls[index]? = some (.running phase) →
      (∀ step ∈ taken ++ [(phase, state)], Creation.Succeeds token step) →
      .finished (.error error) ∉ calls.set index ((Creation.activity token).step phase state).1 := by
    intro taken calls state index phase before _ succeeds member
    rcases List.mem_or_eq_of_mem_set member with old | new
    · exact before (fun step earlier => succeeds step (List.mem_append_left _ earlier)) old
    · exact step_ne_error (succeeds _ (by simp)) error new.symm
  exact (Creation.activity token).steps_induction kept schedule [] (asking sources, ready)
    (fun _ => by simp [asking]) succeeds

theorem drawn_le_interleave (schedule : List Nat) (configuration : List (Progress Creation (Except ViewError Path)) × Store) :
    configuration.2.drawn ≤ ((Creation.activity token).interleave schedule configuration).2.drawn :=
  (Creation.activity token).interleave_induction (motive := fun _ state => configuration.2.drawn ≤ state.drawn)
    (fun _ state _ phase before _ => Nat.le_trans before (drawn_le_step token phase state)) schedule configuration
    (Nat.le_refl _)

theorem agrees_of_vacant (vacant : Vacant ready) (forgotten : ready.memo = .empty) {sources : List Path}
    {schedule : List Nat} (fresh : Fresh token (wrapping token ready sources schedule).2.drawn) :
    Agrees token ready sources schedule := by
  obtain ⟨location, opens, empty⟩ := vacant
  have start : Agreeing token ready location sources (asking sources) ready := .start empty opens forgotten sources
  refine ⟨fun results ended => ?_, wrapping_ne_error, ?_⟩
  · exact (start.interleave fresh).1.agreement fresh (Activity.results?_eq_some_iff.mp ended)
  · rintro earlier later rfl wrapper known
    have joined : wrapping token ready sources (earlier ++ later) =
        (Creation.activity token).interleave later (wrapping token ready sources earlier) :=
      (Creation.activity token).interleave_append earlier later _
    rw [joined] at fresh ⊢
    have middle := (start.interleave (fresh.mono (drawn_le_interleave later _))).1
    obtain ⟨key, found, spelling, asked, -, written⟩ := middle.written known
    refine ⟨spelling, asked, written, ?_⟩
    obtain ⟨skeleton, loaded, stands⟩ := written
    exact ⟨skeleton, loaded, ((middle.interleave fresh).2.files key wrapper found).trans stands⟩

/-- After a reset that succeeds, wrapping agrees under every schedule if and only if the directory is empty, and it
is empty wherever its path only leads down. -/
theorem wrapping_agrees_iff_vacant (done : store.reset = (.ok (), ready)) (fresh : Fresh token ready.drawn) :
    (FileSystem.Plain store.directory → Vacant ready) ∧
      (Vacant ready ↔ ∀ sources schedule, Fresh token (wrapping token ready sources schedule).2.drawn →
        Agrees token ready sources schedule) := by
  obtain ⟨made, -, -, shape⟩ := reset_eq_ok done
  have forgotten : ready.memo = .empty := by rw [shape]
  refine ⟨vacant_of_plain done, fun vacant sources schedule => agrees_of_vacant vacant forgotten, fun agrees => ?_⟩
  -- Without any call the directory has to list what the memo holds, which is nothing.
  obtain ⟨location, opens, listed⟩ := ((agrees [] [] fresh).ended [] rfl).listed
  have none : ready.listing location = [] := by
    have nothing : memoized ready.memo = [] := by simp [forgotten, memoized, Table.empty]
    exact List.perm_nil.mp (nothing ▸ listed)
  exact ⟨location, opens, List.map_eq_nil_iff.mp none⟩

theorem reset_eq_of_toBool (succeeds : store.reset.1.toBool) : store.reset = (.ok (), store.reset.2) := by
  cases done : store.reset with
  | mk result ready => cases result <;> simp_all [Except.toBool]

/-- Two calls for one view, spelled in two ways, that both write a file before either claims it. -/
theorem two_spellings_agree :
    (Store.new default { text := "scratch" } none).reset = (.ok (), (Store.new default { text := "scratch" } none).reset.2) ∧
      Vacant (Store.new default { text := "scratch" } none).reset.2 ∧
      Agrees countingToken (Store.new default { text := "scratch" } none).reset.2
        [{ text := "/v/P.svelte" }, { text := "/v//./P.svelte" }] [0, 1, 0, 1, 0, 1, 0, 1, 1] := by
  have done : (Store.new default { text := "scratch" } none).reset =
      (.ok (), (Store.new default { text := "scratch" } none).reset.2) := reset_eq_of_toBool (by decide +kernel)
  have fresh : Fresh countingToken 2 := ⟨by decide +kernel, by decide +kernel⟩
  have drawn : (wrapping countingToken (Store.new default { text := "scratch" } none).reset.2
      [{ text := "/v/P.svelte" }, { text := "/v//./P.svelte" }] [0, 1, 0, 1, 0, 1, 0, 1, 1]).2.drawn = 2 := by decide +kernel
  obtain ⟨vacates, agrees⟩ := wrapping_agrees_iff_vacant done (fresh.mono (by decide +kernel))
  have vacant := vacates (by decide +kernel)
  exact ⟨done, vacant, agrees.mp vacant _ _ (drawn ▸ fresh)⟩

/-- A store whose path leads up out of a directory that is not there, to one that holds a file. -/
def climbing : Store :=
  match FileSystem.makeDirectory default { text := "s" } with
  | .ok files =>
    .new ((files.write { text := "s/stale.svelte" } (.text "old") false).toOption.getD files) { text := "a/../s" } none
  | .error _ => .new default { text := "" } none

/-- Such a reset finds nothing to remove, makes the directory that is missing, and so reaches the file. -/
theorem stale_file_outlasts_reset :
    climbing.reset = (.ok (), climbing.reset.2) ∧
      Fresh countingToken (wrapping countingToken climbing.reset.2 [{ text := "/v/P.svelte" }] [0, 0, 0, 0]).2.drawn ∧
      ¬ Agrees countingToken climbing.reset.2 [{ text := "/v/P.svelte" }] [0, 0, 0, 0] := by
  obtain ⟨ended, drawn, directory, home, stands, unheld⟩ :
      let final := wrapping countingToken climbing.reset.2 [{ text := "/v/P.svelte" }] [0, 0, 0, 0]
      (Activity.results? final.1).isSome ∧ final.2.drawn = 1 ∧ final.2.directory = { text := "a/../s" } ∧
        final.2.files.home { text := "a/../s" } = ["s"] ∧ (final.2.files.tree.get? (["s"] ++ ["stale.svelte"])).isSome ∧
        FileSystem.pathBelow { text := "a/../s" } ["stale.svelte"] ∉ memoized final.2.memo := by
    decide +kernel
  refine ⟨reset_eq_of_toBool (by decide +kernel), drawn ▸ ⟨by decide +kernel, by decide +kernel⟩, fun agrees => ?_⟩
  obtain ⟨results, ended⟩ := Option.isSome_iff_exists.mp ended
  obtain ⟨location, opens, listed⟩ := (agrees.ended results ended).listed
  obtain rfl : location = ["s"] := by rw [opens.home, directory, home]
  obtain ⟨entry, stands⟩ := Option.isSome_iff_exists.mp stands
  have shown := List.mem_map_of_mem (f := fun entry => FileSystem.pathBelow { text := "a/../s" } entry.1)
    (FileTree.mem_below_iff.mpr ⟨by simp, stands⟩)
  rw [listing, directory] at listed
  exact unheld (listed.subset shown)

end ComponentViews.Wrapper.Store
