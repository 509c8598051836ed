import ComponentViews.Wrapper.Skeleton
import Mathlib.Data.List.Infix

/-! When the source of a skeleton is refused. Parts of the slot's marker may belong to two occurrences,
and only occurrences apart from each other count as two. -/

namespace ComponentViews.Wrapper

/-- The first occurrence of a marker is that before which there is least, so behind it there is what stands behind any other. -/
theorem cutAt?_eq_some {marker text before after : List Char} (found : cutAt? marker text = some (before, after)) :
    text = before ++ (marker ++ after) ∧
      ∀ before' after', text = before' ++ (marker ++ after') → after' <:+ after := by
  induction text generalizing before with
  | nil =>
    simp only [cutAt?] at found
    split at found
    next empty =>
      obtain rfl := List.isEmpty_iff.mp empty
      cases found
      refine ⟨rfl, fun before' after' whole => ?_⟩
      have nothing := (List.append_eq_nil_iff.mp whole.symm).2
      rw [List.nil_append] at nothing
      rw [nothing]
    next => cases found
  | cons c rest continues =>
    simp only [cutAt?] at found
    split at found
    next here =>
      obtain ⟨behind, whole⟩ := List.isPrefixOf_iff_prefix.mp here
      cases found
      rw [← whole, List.drop_left]
      refine ⟨rfl, fun before' after' same => ?_⟩
      rw [← List.append_assoc] at same
      have both : after' <:+ marker ++ behind := ⟨_, same.symm⟩
      have short : after'.length ≤ behind.length := by
        have lengths := congrArg List.length same
        simp only [List.length_append] at lengths
        omega
      exact List.suffix_of_suffix_length_le both (List.suffix_append _ _) short
    next elsewhere =>
      cases later : cutAt? marker rest with
      | none => simp [later] at found
      | some cut =>
        obtain ⟨front, back⟩ := cut
        simp only [later, Option.map_some, Option.some.injEq, Prod.mk.injEq] at found
        obtain ⟨rfl, rfl⟩ := found
        obtain ⟨whole, least⟩ := continues later
        refine ⟨by rw [whole]; rfl, fun before' after' same => ?_⟩
        cases before' with
        | nil =>
          rw [List.nil_append] at same
          refine absurd (List.isPrefixOf_iff_prefix.mpr ?_) elsewhere
          exact ⟨after', same.symm⟩
        | cons first before' =>
          rw [List.cons_append, List.cons.injEq] at same
          exact least before' after' same.2

theorem cutAt?_eq_none_iff {marker text : List Char} : cutAt? marker text = none ↔ ¬ marker <:+: text := by
  induction text with
  | nil => simp [cutAt?]
  | cons c rest continues =>
    rw [List.infix_cons_iff, not_or, ← continues, ← List.isPrefixOf_iff_prefix]
    simp only [cutAt?]
    split
    next here => simp [here]
    next elsewhere => simp [elsewhere]

/-- What is wrong with the source of a skeleton: the slot does not occur, or it occurs twice. -/
inductive Misslotted (source : String) : Misconfiguration → Prop where
  | missing (absent : ¬ slot.toList <:+: source.toList) : Misslotted source (.slotMissing slot)
  | repeated {before between after : List Char}
    (whole : source.toList = before ++ (slot.toList ++ (between ++ (slot.toList ++ after)))) :
    Misslotted source (.slotRepeated slot)

theorem Skeleton.parse_eq_error_iff {source : String} {problem : Misconfiguration} :
    Skeleton.parse source = .error problem ↔ Misslotted source problem := by
  unfold Skeleton.parse
  constructor
  · intro refused
    split at refused
    next absent =>
      cases refused
      exact .missing (cutAt?_eq_none_iff.mp absent)
    next before after found =>
      split at refused
      next => cases refused
      next again found' =>
        cases refused
        obtain ⟨between, rest⟩ := again
        have whole := (cutAt?_eq_some found).1
        rw [(cutAt?_eq_some found').1] at whole
        exact .repeated whole
  · intro wrong
    cases wrong with
    | missing absent => rw [cutAt?_eq_none_iff.mpr absent]
    | @repeated before between after whole =>
      cases found : cutAt? slot.toList source.toList with
      | none =>
        refine absurd ⟨before, between ++ (slot.toList ++ after), ?_⟩ (cutAt?_eq_none_iff.mp found)
        rw [whole, List.append_assoc]
      | some cut =>
        obtain ⟨front, back⟩ := cut
        have within : slot.toList <:+: back := by
          have suffix := (cutAt?_eq_some found).2 _ _ whole
          exact List.IsInfix.trans ⟨between, after, List.append_assoc _ _ _⟩ suffix.isInfix
        cases again : cutAt? slot.toList back with
        | none => exact absurd within (cutAt?_eq_none_iff.mp again)
        | some _ => simp [again]

end ComponentViews.Wrapper
