import ComponentViews.Proofs.PathComponents
import ComponentViews.Proofs.ScriptLiterals
import ComponentViews.Proofs.SkeletonSlots
import Mathlib.Data.List.Forall2

/-! Which module a wrapper imports. The literals in the slot are read back as the view's path with
slashes for backslashes, so a view whose path has a backslash is wrapped as another file. -/

namespace ComponentViews

namespace Path

variable {path left right : Path}

theorem toList_toSpecifier (path : Path) :
    path.toSpecifier.toList = path.text.toList.map fun c => if c = '\\' then '/' else c := String.toList_ofList

theorem notMem_toSpecifier (path : Path) : '\\' ∉ path.toSpecifier.toList := by
  rw [toList_toSpecifier]
  intro member
  obtain ⟨c, -, same⟩ := List.mem_map.mp member
  split at same
  next => cases same
  next other => exact other same

theorem toSpecifier_eq_text (plain : '\\' ∉ path.text.toList) : path.toSpecifier = path.text := by
  apply String.toList_inj.mp
  rw [toList_toSpecifier]
  refine (List.map_congr_left fun c member => ?_).trans (List.map_id _)
  rw [if_neg]
  · rfl
  · rintro rfl
    exact plain member

/-- A path names itself in generated code if and only if it has no backslash. -/
theorem same_specifier_iff : Path.same { text := path.toSpecifier } path ↔ '\\' ∉ path.text.toList := by
  constructor
  · intro same
    have components := eq_of_beq same
    rw [← mem_text_congr components (by decide) (by decide)]
    exact path.notMem_toSpecifier
  · intro plain
    rw [toSpecifier_eq_text plain]
    exact beq_self_eq_true _

/-- A backslash counts as a slash. -/
def Blurred (c d : Char) : Prop := c = d ∨ (c = '/' ∨ c = '\\') ∧ (d = '/' ∨ d = '\\')

theorem toSpecifier_eq_iff :
    left.toSpecifier = right.toSpecifier ↔ List.Forall₂ Blurred left.text.toList right.text.toList := by
  have blurs : ∀ c d : Char, ((if c = '\\' then '/' else c) = if d = '\\' then '/' else d) ↔ Blurred c d := by
    intro c d
    unfold Blurred
    split <;> split <;> grind
  rw [← String.toList_inj, toList_toSpecifier, toList_toSpecifier, ← List.forall₂_eq_eq_eq, List.forall₂_map_left_iff,
    List.forall₂_map_right_iff]
  simp only [blurs]

end Path

namespace Wrapper.Skeleton
open Text.Script

variable {skeleton : Skeleton} {view module : Path}

/-- In the slot of a skeleton a wrapper imports a module, twice and by literals that both read as its path. -/
def Imports (skeleton : Skeleton) (wrapper : String) (module : Path) : Prop :=
  ∃ first second : List Char,
    wrapper.toList = skeleton.prelude.toList ++ ("import component from ".toList ++ first) ∧
    readLiteral first =
      some (codeUnits module.text.toList, ";\n    import * as ComponentStatic from ".toList ++ second) ∧
    readLiteral second = some (codeUnits module.text.toList, ';' :: skeleton.epilogue.toList)

theorem Imports.unique {wrapper : String} {other : Path} (imports : skeleton.Imports wrapper module)
    (imports' : skeleton.Imports wrapper other) : module = other := by
  obtain ⟨first, second, shape, read, -⟩ := imports
  obtain ⟨first', second', shape', read', -⟩ := imports'
  rw [shape] at shape'
  obtain rfl := List.append_cancel_left (List.append_cancel_left shape')
  rw [read, Option.some.injEq, Prod.mk.injEq] at read'
  have texts := String.toList_inj.mp (codeUnits_injective read'.1)
  cases module
  cases other
  exact congrArg Path.mk texts

theorem toList_imports (view : Path) : (imports view).toList = "import component from ".toList ++
    '"' :: ((escapeText view.toSpecifier).toList ++ '"' :: (";\n    import * as ComponentStatic from ".toList ++
      '"' :: ((escapeText view.toSpecifier).toList ++ ['"', ';']))) := by
  have opening : "import component from \"".toList = "import component from ".toList ++ ['"'] := rfl
  have middle : "\";\n    import * as ComponentStatic from \"".toList =
      '"' :: (";\n    import * as ComponentStatic from ".toList ++ ['"']) := rfl
  have closing : "\";".toList = ['"', ';'] := rfl
  unfold imports
  simp only [String.toList_append, opening, middle, closing, List.append_assoc, List.cons_append, List.nil_append]

/-- A wrapper imports what its view's path becomes with slashes for backslashes. -/
theorem imports_iff : skeleton.Imports (skeleton.render view) module ↔ module = { text := view.toSpecifier } := by
  have own : skeleton.Imports (skeleton.render view) { text := view.toSpecifier } := by
    refine ⟨_, _, ?_, readLiteral_escaped view.toSpecifier _, readLiteral_escaped view.toSpecifier _⟩
    unfold render
    simp only [String.toList_append, toList_imports, List.append_assoc, List.cons_append, List.nil_append]
  exact ⟨fun imported => imported.unique own, fun same => same ▸ own⟩

theorem text_of_parse {source : String} (parsed : parse source = .ok skeleton) :
    source.toList = skeleton.prelude.toList ++ (slot.toList ++ skeleton.epilogue.toList) := by
  unfold parse at parsed
  split at parsed
  next => cases parsed
  next before after found =>
    split at parsed
    next =>
      cases parsed
      rw [String.toList_ofList, String.toList_ofList]
      exact (cutAt?_eq_some found).1
    next => cases parsed

/-- The wrappers of two views, with the imports where the slot was, import one module each. That is the wrapper's own view,
and not that of the other wrapper, if and only if neither path has a backslash. -/
theorem imports_own_view_iff {source : String} (parsed : parse source = .ok skeleton) {left right : Path}
    (apart : ¬ left.same right) :
    source.toList = skeleton.prelude.toList ++ (slot.toList ++ skeleton.epilogue.toList) ∧
      ∃ first second : Path,
        (∀ module, skeleton.Imports (skeleton.render left) module ↔ module = first) ∧
        (∀ module, skeleton.Imports (skeleton.render right) module ↔ module = second) ∧
        (first.same left ↔ '\\' ∉ left.text.toList) ∧
        (second.same right ↔ '\\' ∉ right.text.toList) ∧
        (first = second ↔ List.Forall₂ Path.Blurred left.text.toList right.text.toList) ∧
        (first.same left ∧ second.same right ∧ first ≠ second ↔
          '\\' ∉ left.text.toList ∧ '\\' ∉ right.text.toList) := by
  refine ⟨text_of_parse parsed, { text := left.toSpecifier }, { text := right.toSpecifier }, fun _ => imports_iff,
    fun _ => imports_iff, Path.same_specifier_iff, Path.same_specifier_iff, ?_, ?_⟩
  · rw [Path.mk.injEq, Path.toSpecifier_eq_iff]
  · rw [Path.same_specifier_iff, Path.same_specifier_iff]
    constructor
    · rintro ⟨plain, plain', -⟩
      exact ⟨plain, plain'⟩
    · rintro ⟨plain, plain'⟩
      refine ⟨plain, plain', fun one => apart ?_⟩
      rw [Path.mk.injEq, Path.toSpecifier_eq_text plain, Path.toSpecifier_eq_text plain'] at one
      unfold Path.same Path.components Path.isAbsolute Path.segments
      rw [one]
      exact beq_self_eq_true _

/-- A skeleton of nothing but a script with the slot. -/
def bare : Skeleton := { prelude := "<script>", epilogue := "</script>" }

theorem parse_bareSource : parse ("<script>" ++ slot ++ "</script>") = .ok bare := by decide +kernel

/-- Quotes, line ends and the slot's own marker in a file name do no harm. -/
theorem marked_name_is_imported : parse ("<script>" ++ slot ++ "</script>") = .ok bare ∧
    ¬ Path.same { text := "/views/\"/* @view-import */\n.svelte" } { text := "/views/it's.svelte" } ∧
    ∃ first second : Path,
      (∀ module, bare.Imports (bare.render { text := "/views/\"/* @view-import */\n.svelte" }) module ↔ module = first) ∧
      (∀ module, bare.Imports (bare.render { text := "/views/it's.svelte" }) module ↔ module = second) ∧
      first.same { text := "/views/\"/* @view-import */\n.svelte" } ∧ second.same { text := "/views/it's.svelte" } ∧
      first ≠ second := by
  have apart : ¬ Path.same { text := "/views/\"/* @view-import */\n.svelte" } { text := "/views/it's.svelte" } := by
    decide +kernel
  obtain ⟨-, first, second, imports, imports', -, -, -, own⟩ := imports_own_view_iff parse_bareSource apart
  exact ⟨parse_bareSource, apart, first, second, imports, imports', own.mpr ⟨by decide +kernel, by decide +kernel⟩⟩

/-- Two files have one wrapper, which shows the second of them for the first. -/
theorem backslash_imports_another_view : parse ("<script>" ++ slot ++ "</script>") = .ok bare ∧
    ¬ Path.same { text := "/views/a\\b.svelte" } { text := "/views/a/b.svelte" } ∧
    bare.render { text := "/views/a\\b.svelte" } = bare.render { text := "/views/a/b.svelte" } ∧
    ∀ module, bare.Imports (bare.render { text := "/views/a\\b.svelte" }) module ↔
      module = { text := "/views/a/b.svelte" } := by
  have named : Path.toSpecifier { text := "/views/a\\b.svelte" } = "/views/a/b.svelte" := by decide +kernel
  have named' : Path.toSpecifier { text := "/views/a/b.svelte" } = "/views/a/b.svelte" := by decide +kernel
  refine ⟨parse_bareSource, by decide +kernel, ?_, ?_⟩
  · unfold render imports
    rw [named, named']
  · intro module
    rw [imports_iff, named]

end Wrapper.Skeleton
end ComponentViews
