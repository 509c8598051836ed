/-! Activities: work on a shared state in atomic steps. An activity runs to its
end on its own, or several run interleaved, each keeping its own phase while all
share the state. Both ways take the same steps. -/

namespace ComponentViews

inductive Progress (Phase Result : Type) where
  | running (phase : Phase)
  | finished (result : Result)

structure Activity (State Phase Result : Type) where
  step : Phase → State → Progress Phase Result × State
  /-- How many steps may follow a phase at most. -/
  remaining : Phase → Nat
  decreases : ∀ {phase state next state'},
    step phase state = (.running next, state') → remaining next < remaining phase

namespace Activity
variable {State Phase Result : Type}

/-- Runs from a phase to the end. -/
def run (activity : Activity State Phase Result) (phase : Phase) (state : State) : Result × State :=
  match _taken : activity.step phase state with
  | (.finished result, state) => (result, state)
  | (.running next, state) => activity.run next state
termination_by activity.remaining phase
decreasing_by exact activity.decreases _taken

/-- One step of a call, none where the call has finished. -/
def advance (activity : Activity State Phase Result) (call : Progress Phase Result) (state : State) :
    Progress Phase Result × State :=
  match call with
  | .running phase => activity.step phase state
  | .finished result => (.finished result, state)

/-- One step of the call at a position. -/
def advanceAt (activity : Activity State Phase Result) (index : Nat)
    (configuration : List (Progress Phase Result) × State) : List (Progress Phase Result) × State :=
  match configuration.1[index]? with
  | none => configuration
  | some call =>
    let (call, state) := activity.advance call configuration.2
    (configuration.1.set index call, state)

/-- Calls that share a state, stepped in the order that a schedule gives. -/
def interleave (activity : Activity State Phase Result) (schedule : List Nat)
    (configuration : List (Progress Phase Result) × State) : List (Progress Phase Result) × State :=
  schedule.foldl (fun configuration index => activity.advanceAt index configuration) configuration

/-- Calls started together, stepped in turn until each is as far as it can be. -/
def together (activity : Activity State Phase Result) (phases : List Phase) (state : State) :
    List (Progress Phase Result) × State :=
  let rounds := (phases.map activity.remaining).foldl max 0 + 1
  let turn := List.range phases.length
  activity.interleave (List.replicate rounds turn).flatten (phases.map .running, state)

/-- An activity of one step. -/
def atomic (act : State → Result × State) : Activity State Unit Result where
  step _ state := (.finished (act state).1, (act state).2)
  remaining _ := 0
  decreases := by simp

/-- A step of either of two kinds of calls. -/
def stepEither {OtherPhase OtherResult : Type} (left : Activity State Phase Result)
    (right : Activity State OtherPhase OtherResult) :
    Phase ⊕ OtherPhase → State → Progress (Phase ⊕ OtherPhase) (Result ⊕ OtherResult) × State
  | .inl phase, state =>
    match left.step phase state with
    | (.running next, state) => (.running (.inl next), state)
    | (.finished result, state) => (.finished (.inl result), state)
  | .inr phase, state =>
    match right.step phase state with
    | (.running next, state) => (.running (.inr next), state)
    | (.finished result, state) => (.finished (.inr result), state)

/-- Two kinds of calls on one state. -/
def either {OtherPhase OtherResult : Type} (left : Activity State Phase Result)
    (right : Activity State OtherPhase OtherResult) :
    Activity State (Phase ⊕ OtherPhase) (Result ⊕ OtherResult) where
  step := left.stepEither right
  remaining := Sum.elim left.remaining right.remaining
  decreases := by
    intro phase state next state' taken
    cases phase with
    | inl phase =>
      simp only [stepEither] at taken
      split at taken
      next later _ moved => have less := left.decreases moved; grind
      next => simp at taken
    | inr phase =>
      simp only [stepEither] at taken
      split at taken
      next later _ moved => have less := right.decreases moved; grind
      next => simp at taken

/-- The results of calls that have all finished. -/
def results? : List (Progress Phase Result) → Option (List Result)
  | [] => some []
  | .running _ :: _ => none
  | .finished result :: calls => (results? calls).map (result :: ·)

end Activity
end ComponentViews
