import ComponentViews.Proofs.Dictionaries
import ComponentViews.Render.Globals

/-! Which values a merge of globals takes, name by name. The name has to be marked or
brought by the call, and the most specific value of it wins, so a merge depends on
nothing else that the scopes hold. -/

namespace ComponentViews

namespace Render.Globals

variable {key name : String} {call : Locals} {scopes left right : Scopes}

/-- What a scope holds under a key; anything but an object counts for nothing. -/
def held (key : String) (scope : Locals) : Locals := ((scope.get? key).bind Json.fields?).getD .empty

/-- The names that the objects under a key mark. -/
def marked (key : String) (scopes : Scopes) : List String := (candidates key scopes).flatMap marks

/-- The values that the scopes hold for a name, one for each scope. -/
def values (key name : String) (scopes : Scopes) : List (Option Json) :=
  scopes.toList.map fun scope => (held key scope).get? name

theorem get?_foldl_overlay (kept : String → Bool) (layers : List Locals) (merged : Locals) :
    (layers.foldl (fun merged layer => merged.overlay (layer.filter kept)) merged).get? name =
      if kept name then layers.foldl (fun found layer => (layer.get? name).or found) (merged.get? name)
      else merged.get? name := by
  induction layers generalizing merged with
  | nil => simp
  | cons layer rest ih =>
    rw [List.foldl_cons, ih, List.foldl_cons, Dict.get?_overlay, Dict.get?_filter]
    split <;> rfl

theorem foldl_candidates (scopes : List Locals) (found : Option Json) :
    (scopes.filterMap fun scope => (scope.get? key).bind Json.fields?).foldl
        (fun found layer => (layer.get? name).or found) found =
      (scopes.map fun scope => (held key scope).get? name).foldl (fun found value => value.or found) found := by
  induction scopes generalizing found with
  | nil => rfl
  | cons scope rest ih =>
    rw [List.filterMap_cons, List.map_cons, List.foldl_cons]
    cases holds : (scope.get? key).bind Json.fields? with
    | none => simp [ih, held, holds]
    | some candidate => simp [ih, held, holds]

/-- A merge has the most specific value of each name that is marked or that the call brings. -/
theorem get?_merge (key : String) (scopes : Scopes) (call : Locals) (name : String) :
    (merge key scopes call).get? name =
      if name ≠ marksKey ∧ (name ∈ marked key scopes ∨ name ∈ marks call ∨ name ∈ call.keys) then
        (call.get? name).or ((values key name scopes).foldl (fun found value => value.or found) none)
      else none := by
  have counts : name ∈ (candidates key scopes ++ [call]).flatMap marks ++ call.keys ↔
      name ∈ marked key scopes ∨ name ∈ marks call ∨ name ∈ call.keys := by
    simp [marked]
  rw [merge, get?_foldl_overlay]
  simp only [decide_eq_true_eq, counts]
  split
  · rw [List.foldl_append, candidates, foldl_candidates]
    rfl
  · rfl

/-- Under a key scopes mark the same names, and each scope holds the same value, or none, of the names that they or the
call mark. The call may bring values of further names, which scopes need not agree on. -/
structure Alike (key : String) (call : Locals) (left right : Scopes) : Prop where
  marked : ∀ name, name ∈ marked key left ↔ name ∈ marked key right
  values : ∀ name, name ∈ Globals.marked key left ∨ name ∈ marks call → values key name left = values key name right

theorem merge_eq (alike : Alike key call left right) : merge key left call = merge key right call := by
  refine Dict.ext_get? fun name => ?_
  rw [get?_merge, get?_merge]
  by_cases kept : name ≠ marksKey ∧ (name ∈ marked key left ∨ name ∈ marks call ∨ name ∈ call.keys)
  · have kept' : name ≠ marksKey ∧ (name ∈ marked key right ∨ name ∈ marks call ∨ name ∈ call.keys) :=
      ⟨kept.1, kept.2.imp_left (alike.marked name).mp⟩
    rw [if_pos kept, if_pos kept']
    cases brought : call.get? name with
    | some value => rfl
    | none =>
      -- Without a value from the call the name counts because someone marks it.
      have listed : name ∈ marked key left ∨ name ∈ marks call := by
        rcases kept.2 with listed | listed | listed
        · exact .inl listed
        · exact .inr listed
        · exact absurd listed (Dict.get?_eq_none_iff.mp brought)
      rw [alike.values name listed]
  · have kept' : ¬(name ≠ marksKey ∧ (name ∈ marked key right ∨ name ∈ marks call ∨ name ∈ call.keys)) :=
      fun counts => kept ⟨counts.1, counts.2.imp_left (alike.marked name).mpr⟩
    rw [if_neg kept, if_neg kept']

end Render.Globals
end ComponentViews
