import ComponentViews.Activity
import Mathlib.Data.List.Induction

/-! What holds of calls that share a state, however their steps are interleaved. A fact
about the calls and the state that every step keeps, holds after every schedule. -/

namespace ComponentViews

/-- A call as one of the first of two kinds. -/
def Progress.asLeft {Phase Result OtherPhase OtherResult : Type} :
    Progress Phase Result → Progress (Phase ⊕ OtherPhase) (Result ⊕ OtherResult)
  | .running phase => .running (.inl phase)
  | .finished result => .finished (.inl result)

/-- A call as one of the second of two kinds. -/
def Progress.asRight {Phase Result OtherPhase OtherResult : Type} :
    Progress OtherPhase OtherResult → Progress (Phase ⊕ OtherPhase) (Result ⊕ OtherResult)
  | .running phase => .running (.inr phase)
  | .finished result => .finished (.inr result)

namespace Activity
variable {State Phase Result : Type} (activity : Activity State Phase Result)

section
variable {OtherPhase OtherResult : Type} (right : Activity State OtherPhase OtherResult)

theorem either_step_inl (phase : Phase) (state : State) :
    (activity.either right).step (.inl phase) state =
      ((activity.step phase state).1.asLeft, (activity.step phase state).2) := by
  simp only [either, stepEither]
  split
  next taken => rw [taken]; rfl
  next taken => rw [taken]; rfl

theorem either_step_inr (phase : OtherPhase) (state : State) :
    (activity.either right).step (.inr phase) state =
      ((right.step phase state).1.asRight, (right.step phase state).2) := by
  simp only [either, stepEither]
  split
  next taken => rw [taken]; rfl
  next taken => rw [taken]; rfl

end

/-- A call that has ended or does not exist takes no step. -/
theorem advanceAt_idle {index : Nat} {configuration : List (Progress Phase Result) × State}
    (idle : ∀ phase, configuration.1[index]? ≠ some (.running phase)) :
    activity.advanceAt index configuration = configuration := by
  obtain ⟨calls, state⟩ := configuration
  unfold advanceAt
  split
  · rfl
  next call found =>
    cases call with
    | running phase => exact absurd found (idle phase)
    | finished result =>
      obtain ⟨inside, same⟩ := List.getElem?_eq_some_iff.mp found
      simp [advance, ← same]

theorem advanceAt_running {index : Nat} {phase : Phase} {configuration : List (Progress Phase Result) × State}
    (found : configuration.1[index]? = some (.running phase)) :
    activity.advanceAt index configuration =
      (configuration.1.set index (activity.step phase configuration.2).1,
        (activity.step phase configuration.2).2) := by
  simp [advanceAt, found, advance]

theorem interleave_append (first second : List Nat) (configuration : List (Progress Phase Result) × State) :
    activity.interleave (first ++ second) configuration =
      activity.interleave second (activity.interleave first configuration) := by
  simp [interleave]

/-- The steps that a schedule takes, each by the phase it starts in and the state it finds. -/
def steps : List Nat → List (Progress Phase Result) × State → List (Phase × State)
  | [], _ => []
  | index :: schedule, configuration =>
    (match configuration.1[index]? with
      | some (.running phase) => [(phase, configuration.2)]
      | _ => []) ++ steps schedule (activity.advanceAt index configuration)

/-- The steps that a schedule takes, each by the call that takes it as well. -/
def trace : List Nat → List (Progress Phase Result) × State → List (Nat × Phase × State)
  | [], _ => []
  | index :: schedule, configuration =>
    (match configuration.1[index]? with
      | some (.running phase) => [(index, phase, configuration.2)]
      | _ => []) ++ trace schedule (activity.advanceAt index configuration)

theorem map_trace (schedule : List Nat) (configuration : List (Progress Phase Result) × State) :
    (activity.trace schedule configuration).map Prod.snd = activity.steps schedule configuration := by
  induction schedule generalizing configuration with
  | nil => rfl
  | cons index schedule ih =>
    simp only [trace, steps, List.map_append, ih]
    split <;> rfl

theorem trace_append (first second : List Nat) (configuration : List (Progress Phase Result) × State) :
    activity.trace (first ++ second) configuration =
      activity.trace first configuration ++ activity.trace second (activity.interleave first configuration) := by
  induction first generalizing configuration with
  | nil => rfl
  | cons index first ih => simp only [List.cons_append, trace, ih, interleave, List.foldl_cons, List.append_assoc]

/-- What every step keeps, with the steps before it in view, holds after every schedule. -/
theorem trace_induction {motive : List (Nat × Phase × State) → List (Progress Phase Result) → State → Prop}
    (kept : ∀ taken calls state index phase, motive taken calls state → calls[index]? = some (.running phase) →
      motive (taken ++ [(index, phase, state)]) (calls.set index (activity.step phase state).1) (activity.step phase state).2)
    (schedule : List Nat) (configuration : List (Progress Phase Result) × State)
    (start : motive [] configuration.1 configuration.2) :
    motive (activity.trace schedule configuration) (activity.interleave schedule configuration).1
      (activity.interleave schedule configuration).2 := by
  induction schedule using List.reverseRecOn with
  | nil => exact start
  | append_singleton schedule index ih =>
    rw [trace_append, interleave_append]
    generalize activity.interleave schedule configuration = reached at ih ⊢
    change motive (_ ++ activity.trace [index] reached) (activity.advanceAt index reached).1 (activity.advanceAt index reached).2
    simp only [trace, List.append_nil]
    split
    next phase found =>
      rw [activity.advanceAt_running found]
      exact kept _ _ _ index phase ih found
    next idle =>
      rw [activity.advanceAt_idle idle, List.append_nil]
      exact ih

/-- A step of a trace was taken in the state that the steps before it had led to. -/
theorem trace_eq_append {schedule : List Nat} {configuration : List (Progress Phase Result) × State}
    {earlier later : List (Nat × Phase × State)} {index : Nat} {phase : Phase} {state : State}
    (split : activity.trace schedule configuration = earlier ++ (index, phase, state) :: later) :
    ∃ first, activity.trace first configuration = earlier ∧ (activity.interleave first configuration).2 = state := by
  induction schedule generalizing configuration earlier with
  | nil => simp [trace] at split
  | cons next schedule ih =>
    by_cases running : ∃ phase, configuration.1[next]? = some (.running phase)
    · obtain ⟨moved, found⟩ := running
      simp only [trace, found, List.singleton_append] at split
      rcases List.cons_eq_append_iff.mp split with ⟨rfl, same⟩ | ⟨before, rfl, rest⟩
      · cases same
        exact ⟨[], rfl, rfl⟩
      · obtain ⟨first, taken, reached⟩ := ih rest
        refine ⟨next :: first, ?_, reached⟩
        simp only [trace, found, List.singleton_append, taken]
    · have idle : ∀ phase, configuration.1[next]? ≠ some (.running phase) := by simpa using running
      have stays := activity.advanceAt_idle idle
      have silent (schedule : List Nat) :
          activity.trace (next :: schedule) configuration = activity.trace schedule configuration := by
        rw [trace, stays]
        split
        next phase found => exact absurd found (idle phase)
        next => rfl
      rw [silent] at split
      exact ih split

theorem steps_induction {motive : List (Phase × State) → List (Progress Phase Result) → State → Prop}
    (kept : ∀ taken calls state index phase, motive taken calls state → calls[index]? = some (.running phase) →
      motive (taken ++ [(phase, state)]) (calls.set index (activity.step phase state).1) (activity.step phase state).2)
    (schedule : List Nat) (taken : List (Phase × State)) (configuration : List (Progress Phase Result) × State)
    (start : motive taken configuration.1 configuration.2) :
    motive (taken ++ activity.steps schedule configuration) (activity.interleave schedule configuration).1
      (activity.interleave schedule configuration).2 := by
  rw [← map_trace]
  refine activity.trace_induction (motive := fun more => motive (taken ++ more.map Prod.snd)) ?_ schedule configuration
    (by simpa using start)
  intro more calls state index phase before found
  simpa using kept _ calls state index phase before found

/-- What every step keeps holds after every schedule. -/
theorem interleave_induction {motive : List (Progress Phase Result) → State → Prop}
    (kept : ∀ calls state index phase, motive calls state → calls[index]? = some (.running phase) →
      motive (calls.set index (activity.step phase state).1) (activity.step phase state).2)
    (schedule : List Nat) (configuration : List (Progress Phase Result) × State)
    (start : motive configuration.1 configuration.2) :
    motive (activity.interleave schedule configuration).1 (activity.interleave schedule configuration).2 :=
  activity.steps_induction (fun _ calls state index phase => kept calls state index phase) schedule [] configuration start

theorem run_of_running {phase next : Phase} {state state' : State}
    (taken : activity.step phase state = (.running next, state')) :
    activity.run phase state = activity.run next state' := by
  rw [run]
  split
  next finished => simp [taken] at finished
  next moved => rw [taken] at moved; cases moved; rfl

theorem run_of_finished {phase : Phase} {result : Result} {state state' : State}
    (taken : activity.step phase state = (.finished result, state')) :
    activity.run phase state = (result, state') := by
  rw [run]
  split
  next finished => rw [taken] at finished; cases finished; rfl
  next moved => simp [taken] at moved

/-- A run is what a call comes to that has the state to itself. -/
theorem exists_interleave_eq_run (phase : Phase) (state : State) : ∃ schedule,
    activity.interleave schedule ([.running phase], state) =
      ([.finished (activity.run phase state).1], (activity.run phase state).2) := by
  have first (phase : Phase) (state : State) : activity.advanceAt 0 ([.running phase], state) =
      ([(activity.step phase state).1], (activity.step phase state).2) := activity.advanceAt_running rfl
  fun_induction Activity.run activity phase state with
  | case1 phase state result state' taken => exact ⟨[0], by rw [interleave, List.foldl_cons, first, taken]; rfl⟩
  | case2 phase state next state' taken ih =>
    obtain ⟨schedule, ends⟩ := ih
    exact ⟨0 :: schedule, by rw [interleave, List.foldl_cons, first, taken]; exact ends⟩

theorem either_run_inl {OtherPhase OtherResult : Type} (right : Activity State OtherPhase OtherResult) (phase : Phase)
    (state : State) : (activity.either right).run (.inl phase) state =
      (.inl (activity.run phase state).1, (activity.run phase state).2) := by
  fun_induction Activity.run activity phase state with
  | case1 phase state result state' taken =>
    exact run_of_finished _ (by rw [either_step_inl, taken]; rfl)
  | case2 phase state next state' taken ih =>
    rw [← ih]
    exact run_of_running _ (by rw [either_step_inl, taken]; rfl)

/-- What every end of an activity is, the end of a run is. -/
theorem run_ends (fits : Result → Prop) (ends : ∀ phase state result state',
    activity.step phase state = (.finished result, state') → fits result) (phase : Phase) (state : State) :
    fits (activity.run phase state).1 := by
  fun_induction Activity.run activity phase state with
  | case1 phase state result state' taken => exact ends phase state result state' taken
  | case2 phase state next state' taken ih => exact ih

/-- An activity on a part of the state that runs inside another: the other goes on from its result. -/
theorem run_inside {Part InnerPhase InnerResult : Type} (inner : Activity Part InnerPhase InnerResult)
    (get : State → Part) (put : Part → State → State) (enter : InnerPhase → Phase)
    (leave : InnerResult → State → Progress Phase Result)
    (steps : ∀ phase state, activity.step (enter phase) state =
      match inner.step phase (get state) with
      | (.running next, part) => (.running (enter next), put part state)
      | (.finished result, part) => (leave result (put part state), put part state))
    (get_put : ∀ part state, get (put part state) = part)
    (put_put : ∀ first last state, put last (put first state) = put last state) (phase : InnerPhase) (state : State) :
    activity.run (enter phase) state =
      match leave (inner.run phase (get state)).1 (put (inner.run phase (get state)).2 state) with
      | .running next => activity.run next (put (inner.run phase (get state)).2 state)
      | .finished result => (result, put (inner.run phase (get state)).2 state) := by
  generalize start : get state = part
  fun_induction Activity.run inner phase part generalizing state with
  | case1 phase part result part' taken =>
    subst start
    have moved : activity.step (enter phase) state = (leave result (put part' state), put part' state) := by
      rw [steps, taken]
    split
    next next left => exact activity.run_of_running (moved.trans (congrArg (·, _) left))
    next last left => exact activity.run_of_finished (moved.trans (congrArg (·, _) left))
  | case2 phase part next part' taken ih =>
    subst start
    have moved : activity.step (enter phase) state = (.running (enter next), put part' state) := by rw [steps, taken]
    rw [activity.run_of_running moved, ih (put part' state) (get_put part' state), put_put]

theorem results?_eq_some_iff {calls : List (Progress Phase Result)} {results : List Result} :
    results? calls = some results ↔ calls = results.map .finished := by
  fun_induction results? calls generalizing results with
  | case1 => cases results <;> simp
  | case2 phase calls => cases results <;> simp
  | case3 result calls ih =>
    cases results with
    | nil => simp
    | cons first rest => simp [ih]; grind

end Activity
end ComponentViews
