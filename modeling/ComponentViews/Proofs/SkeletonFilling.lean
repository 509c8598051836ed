import ComponentViews.Proofs.ViewImports

/-! Which sources are skeletons, and what wrappers keep of them. A scan from the left finds slots that
stand apart from each other. A source in which it finds exactly one is a skeleton, and filling that slot
leaves all of the other text as it was, whatever the path of the view holds. -/

namespace ComponentViews.Wrapper

/-- The pieces that a scan from the left leaves of a text, in front of, between and behind the markers that it
finds. It goes on behind a marker that it has found, so that no two of them share a character. -/
inductive Scanned (marker : List Char) : List Char → List (List Char) → Prop where
  | ended : Scanned marker [] [[]]
  | found {rest : List Char} {pieces : List (List Char)} (later : Scanned marker rest pieces) :
    Scanned marker (marker ++ rest) ([] :: pieces)
  | passed {c : Char} {rest piece : List Char} {pieces : List (List Char)} (elsewhere : ¬ marker <+: c :: rest)
    (later : Scanned marker rest (piece :: pieces)) : Scanned marker (c :: rest) ((c :: piece) :: pieces)

namespace Scanned
variable {marker text before after : List Char} {pieces others : List (List Char)}

theorem ne_nil (scanned : Scanned marker text pieces) : pieces ≠ [] := by
  cases scanned <;> simp

/-- The pieces with the marker between them are the text. -/
theorem joined (scanned : Scanned marker text pieces) : marker.intercalate pieces = text := by
  induction scanned with
  | ended => simp
  | @found rest pieces later ih =>
    obtain ⟨piece, pieces, rfl⟩ := List.exists_cons_of_ne_nil later.ne_nil
    rw [List.intercalate_cons_cons, ih, List.nil_append]
  | @passed c rest piece pieces elsewhere later ih =>
    cases pieces with
    | nil => simpa using ih
    | cons next pieces =>
      rw [List.intercalate_cons_cons] at ih ⊢
      rw [← ih]
      rfl

theorem of_cutAt?_eq_none (absent : cutAt? marker text = none) : Scanned marker text [text] := by
  rw [cutAt?_eq_none_iff] at absent
  induction text with
  | nil => exact .ended
  | cons c rest ih =>
    rw [List.infix_cons_iff, not_or] at absent
    exact .passed absent.1 (ih absent.2)

theorem of_cutAt?_eq_some (found : cutAt? marker text = some (before, after)) (later : Scanned marker after pieces) :
    Scanned marker text (before :: pieces) := by
  induction text generalizing before with
  | nil =>
    simp only [cutAt?] at found
    split at found
    next empty =>
      cases found
      have here : Scanned marker (marker ++ []) ([] :: pieces) := .found later
      rwa [List.isEmpty_iff.mp empty] at here ⊢
    next => cases found
  | cons c rest ih =>
    simp only [cutAt?] at found
    split at found
    next here =>
      obtain ⟨behind, whole⟩ := List.isPrefixOf_iff_prefix.mp here
      cases found
      rw [← whole, List.drop_left] at later
      rw [← whole]
      exact .found later
    next elsewhere =>
      obtain ⟨⟨front, back⟩, cut, same⟩ := Option.map_eq_some_iff.mp found
      cases same
      exact .passed (fun here => elsewhere (List.isPrefixOf_iff_prefix.mpr here)) (ih cut)

section
variable (marked : marker ≠ [])
include marked

theorem exists_pieces (text : List Char) : ∃ pieces, Scanned marker text pieces := by
  cases cut : cutAt? marker text with
  | none => exact ⟨_, of_cutAt?_eq_none cut⟩
  | some found =>
    obtain ⟨before, after⟩ := found
    have whole := (cutAt?_eq_some cut).1
    have shorter : after.length < text.length := by
      have nonempty := List.length_pos_iff.mpr marked
      rw [whole, List.length_append, List.length_append]
      omega
    obtain ⟨pieces, later⟩ := exists_pieces after
    exact ⟨_, of_cutAt?_eq_some cut later⟩
termination_by text.length

theorem unique (scanned : Scanned marker text pieces) (scanned' : Scanned marker text others) : others = pieces := by
  induction scanned generalizing others with
  | ended =>
    generalize empty : ([] : List Char) = text at scanned'
    cases scanned' with
    | ended => rfl
    | found => exact absurd (List.append_eq_nil_iff.mp empty.symm).1 marked
    | passed => cases empty
  | @found rest pieces later ih =>
    generalize whole : marker ++ rest = text at scanned'
    cases scanned' with
    | ended => exact absurd (List.append_eq_nil_iff.mp whole).1 marked
    | found later' =>
      cases List.append_cancel_left whole
      rw [ih later']
    | passed elsewhere => exact absurd ⟨rest, whole⟩ elsewhere
  | @passed c rest piece pieces elsewhere later ih =>
    generalize whole : c :: rest = text at scanned'
    cases scanned' with
    | ended => cases whole
    | @found rest' => exact absurd ⟨rest', whole.symm⟩ elsewhere
    | passed elsewhere' later' =>
      cases whole
      cases ih later'
      rfl

end

end Scanned

namespace Skeleton
open Text.Script

theorem slot_ne_nil : slot.toList ≠ [] := by decide

/-- Two statements that import one module, its default export and all its exports, by a literal for its path. -/
def importing (literal : List Char) : List Char :=
  "import component from ".toList ++ (literal ++ (";\n    import * as ComponentStatic from ".toList ++ (literal ++ [';'])))

/-- What stands in the stead of the slot in the wrapper of a view. -/
def Fills (view : Path) (stretch : List Char) : Prop :=
  ∃ literal, readLiteral literal = some (codeUnits view.toSpecifier.toList, []) ∧ stretch = importing literal

theorem fills_imports (view : Path) : Fills view (imports view).toList := by
  refine ⟨'"' :: ((escapeText view.toSpecifier).toList ++ ['"']), ?_, ?_⟩
  · exact readLiteral_escaped view.toSpecifier []
  · refine (toList_imports view).trans ?_
    unfold importing
    generalize "import component from ".toList = opening
    generalize ";\n    import * as ComponentStatic from ".toList = between
    simp only [List.append_assoc, List.cons_append, List.nil_append]

/-- What a source is taken for, by the pieces that a scan for the slot leaves of it. -/
inductive Taken (source : String) : List (List Char) → Prop where
  | slotless {piece : List Char} (refused : parse source = .error (.slotMissing slot)) : Taken source [piece]
  | skeleton {before after : List Char} {skeleton : Skeleton} (accepted : parse source = .ok skeleton)
    (whole : source.toList = before ++ (slot.toList ++ after))
    (filled : ∀ view, ∃ stretch, Fills view stretch ∧ (skeleton.render view).toList = before ++ (stretch ++ after)) :
    Taken source [before, after]
  | repeated {first second third : List Char} {rest : List (List Char)}
    (refused : parse source = .error (.slotRepeated slot)) : Taken source (first :: second :: third :: rest)

theorem parse_eq_ok {source : String} {before after : List Char}
    (cut : cutAt? slot.toList source.toList = some (before, after)) (again : cutAt? slot.toList after = none) :
    parse source = .ok { prelude := String.ofList before, epilogue := String.ofList after } := by
  simp only [parse, cut, again]

theorem taken_of_scanned {source : String} {pieces : List (List Char)}
    (scanned : Scanned slot.toList source.toList pieces) : Taken source pieces := by
  cases cut : cutAt? slot.toList source.toList with
  | none =>
    cases Scanned.unique slot_ne_nil (.of_cutAt?_eq_none cut) scanned
    exact .slotless (by simp only [parse, cut])
  | some found =>
    obtain ⟨before, rest⟩ := found
    cases again : cutAt? slot.toList rest with
    | none =>
      cases Scanned.unique slot_ne_nil (.of_cutAt?_eq_some cut (.of_cutAt?_eq_none again)) scanned
      refine .skeleton (parse_eq_ok cut again) (cutAt?_eq_some cut).1 fun view => ⟨_, fills_imports view, ?_⟩
      simp only [render, String.toList_append, String.toList_ofList, List.append_assoc]
    | some found' =>
      obtain ⟨between, after⟩ := found'
      obtain ⟨later, scanned'⟩ := Scanned.exists_pieces slot_ne_nil after
      obtain ⟨last, later, rfl⟩ := List.exists_cons_of_ne_nil scanned'.ne_nil
      cases Scanned.unique slot_ne_nil (.of_cutAt?_eq_some cut (.of_cutAt?_eq_some again scanned')) scanned
      exact .repeated (by simp only [parse, cut, again])

theorem notMem_intercalate {c : Char} {separator : String} {lines : List String} (apart : c ∉ separator.toList)
    (fresh : ∀ line ∈ lines, c ∉ line.toList) : c ∉ (separator.intercalate lines).toList := by
  rw [String.toList_intercalate]
  induction lines with
  | nil => simp
  | cons first lines ih =>
    obtain ⟨first', later⟩ := List.forall_mem_cons.mp fresh
    cases lines with
    | nil => simpa using first'
    | cons next lines =>
      rw [List.map_cons, List.map_cons, List.intercalate_cons_cons, List.mem_append, List.mem_append, not_or, not_or]
      exact ⟨⟨first', apart⟩, ih later⟩

theorem cutAt?_of_notMem {c : Char} {marker before : List Char} (fresh : c ∉ before) (after : List Char) :
    cutAt? (c :: marker) (before ++ (c :: marker ++ after)) = some (before, after) := by
  induction before with
  | nil =>
    have here : (c :: marker).isPrefixOf (c :: marker ++ after) := List.isPrefixOf_iff_prefix.mpr ⟨after, rfl⟩
    rw [List.nil_append, List.cons_append, cutAt?, ← List.cons_append, if_pos here, List.drop_left]
  | cons d before ih =>
    obtain ⟨apart, fresh⟩ := not_or.mp (List.mem_cons.not.mp fresh)
    have elsewhere : ¬ (c :: marker).isPrefixOf (d :: (before ++ (c :: marker ++ after))) := by
      simp [List.isPrefixOf, apart]
    rw [List.cons_append, cutAt?, if_neg elsewhere, ih fresh]
    rfl

/-- The built-in skeleton has no slash in front of the slot, and no asterisk behind it. -/
theorem cutAt?_builtInSource :
    cutAt? slot.toList builtInSource.toList = some (builtIn.prelude.toList, builtIn.epilogue.toList) ∧
      cutAt? slot.toList builtIn.epilogue.toList = none := by
  have fresh : '/' ∉ builtIn.prelude.toList := notMem_intercalate (by decide) (by decide +kernel)
  have fresh' : '*' ∉ builtIn.epilogue.toList := notMem_intercalate (by decide) (by decide +kernel)
  constructor
  · have source : builtInSource.toList = builtIn.prelude.toList ++ (slot.toList ++ builtIn.epilogue.toList) := by
      simp only [builtInSource, String.toList_append, List.append_assoc]
    have opens : slot.toList = '/' :: slot.toList.tail := by decide
    rw [source, opens]
    exact cutAt?_of_notMem fresh _
  · rw [cutAt?_eq_none_iff]
    intro inside
    exact fresh' (inside.subset (by decide))

theorem isOk_iff_of_taken {source : String} {pieces : List (List Char)} (taken : Taken source pieces) :
    (parse source).isOk ↔ pieces.length = 2 := by
  cases taken with
  | slotless refused => simp [refused, Except.isOk, Except.toBool]
  | skeleton accepted => simp [accepted, Except.isOk, Except.toBool]
  | repeated refused => simp [refused, Except.isOk, Except.toBool]

/-- Every source is scanned in one way, and accepted if and only if that finds exactly one slot. The wrappers are then its
text with that slot filled. The built-in skeleton stands around the first slot of its source, and is what its source is
parsed as. -/
theorem one_slot_filled :
    (∀ source : String, ∃ pieces, (∀ others, Scanned slot.toList source.toList others ↔ others = pieces) ∧
      slot.toList.intercalate pieces = source.toList ∧ ((parse source).isOk ↔ pieces.length = 2) ∧ Taken source pieces) ∧
    cutAt? slot.toList builtInSource.toList = some (builtIn.prelude.toList, builtIn.epilogue.toList) ∧
    parse builtInSource = .ok builtIn := by
  obtain ⟨cut, again⟩ := cutAt?_builtInSource
  refine ⟨fun source => ?_, cut, ?_⟩
  · obtain ⟨pieces, scanned⟩ := Scanned.exists_pieces slot_ne_nil source.toList
    have taken := taken_of_scanned scanned
    refine ⟨pieces, fun others => ⟨Scanned.unique slot_ne_nil scanned, ?_⟩, scanned.joined, isOk_iff_of_taken taken, taken⟩
    intro same
    exact same ▸ scanned
  · rw [parse_eq_ok cut again, String.ofList_toList, String.ofList_toList]

-- The marker begins as it ends, so that two occurrences may share a slash. Only the first of them is a slot then.
example : parse "/* @view-import */* @view-import */" = .ok { prelude := "", epilogue := "* @view-import */" } := by
  decide +kernel

end Skeleton
end ComponentViews.Wrapper
