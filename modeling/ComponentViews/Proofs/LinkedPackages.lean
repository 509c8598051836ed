import ComponentViews.Build.Options
import Mathlib.Data.List.Induction
import Mathlib.Data.List.Nodup

/-! Packages that a build links once. Those of the framework lead the list, and behind them
each further package stands where the options name it first. Naming a package again, or one
of the framework, changes nothing. -/

namespace ComponentViews.Build

theorem addPackage_of_mem {packages : List String} {package : String} (known : package ∈ packages) :
    addPackage packages package = packages := by
  simp [addPackage, known]

theorem addPackage_of_notMem {packages : List String} {package : String} (new : package ∉ packages) :
    addPackage packages package = packages ++ [package] := by
  simp [addPackage, new]

theorem mem_addPackage {packages : List String} {package other : String} :
    other ∈ addPackage packages package ↔ other ∈ packages ∨ other = package := by
  by_cases known : package ∈ packages
  · rw [addPackage_of_mem known]
    exact ⟨.inl, fun either => either.elim id (· ▸ known)⟩
  · simp [addPackage_of_notMem known]

theorem foldl_addPackage_of_subset {packages rest : List String} (known : rest ⊆ packages) :
    rest.foldl addPackage packages = packages := by
  induction rest with
  | nil => rfl
  | cons package rest ih =>
    obtain ⟨first, later⟩ := List.cons_subset.mp known
    rw [List.foldl_cons, addPackage_of_mem first, ih later]

theorem foldl_addPackage_of_nodup {packages others : List String} (distinct : (packages ++ others).Nodup) :
    others.foldl addPackage packages = packages ++ others := by
  induction others generalizing packages with
  | nil => simp
  | cons package others ih =>
    have new : package ∉ packages := fun known => (List.nodup_append.mp distinct).2.2 _ known _ List.mem_cons_self rfl
    rw [List.append_cons] at distinct ⊢
    rw [List.foldl_cons, addPackage_of_notMem new, ih distinct]

/-- Packages may be left out that are listed already. -/
theorem foldl_addPackage_filter {packages rest : List String} (kept : String → Bool)
    (known : ∀ package ∈ rest, kept package = false → package ∈ packages) :
    (rest.filter kept).foldl addPackage packages = rest.foldl addPackage packages := by
  induction rest generalizing packages with
  | nil => rfl
  | cons package rest ih =>
    obtain ⟨first, later⟩ := List.forall_mem_cons.mp known
    cases keeps : kept package with
    | false => rw [List.filter_cons_of_neg (by simp [keeps]), List.foldl_cons, addPackage_of_mem (first keeps), ih later]
    | true =>
      rw [List.filter_cons_of_pos keeps, List.foldl_cons, List.foldl_cons]
      exact ih fun other member drops => mem_addPackage.mpr (.inl (later other member drops))

theorem foldl_addPackage_eraseDups (packages rest : List String) :
    rest.eraseDups.foldl addPackage packages = rest.foldl addPackage packages := by
  match rest with
  | [] => rfl
  | package :: rest =>
    rw [List.eraseDups_cons, List.foldl_cons, List.foldl_cons, foldl_addPackage_eraseDups]
    refine foldl_addPackage_filter _ fun other member drops => mem_addPackage.mpr (.inr ?_)
    simpa using drops
termination_by rest.length
decreasing_by exact Nat.lt_succ_of_le (List.length_filter_le _ _)

/-- A list for the packages that were named so far, each where it was named first. -/
structure Lists (named listed : List String) : Prop where
  distinct : listed.Nodup
  leading : listed.take 7 = frameworkPackages
  complete : ∀ package, package ∈ listed ↔ package ∈ frameworkPackages ∨ package ∈ named
  ordered : (listed.drop 7).Pairwise fun first second => named.idxOf first < named.idxOf second

namespace Lists
variable {named listed : List String}

theorem split (lists : Lists named listed) : listed = frameworkPackages ++ listed.drop 7 := by
  rw [← lists.leading, List.take_append_drop]

theorem notMem_drop (lists : Lists named listed) {package : String} (member : package ∈ frameworkPackages) :
    package ∉ listed.drop 7 := by
  intro further
  have distinct := lists.distinct
  rw [lists.split] at distinct
  exact (List.nodup_append.mp distinct).2.2 _ member _ further rfl

theorem mem_drop_iff (lists : Lists named listed) {package : String} :
    package ∈ listed.drop 7 ↔ package ∉ frameworkPackages ∧ package ∈ named := by
  have complete := lists.complete package
  rw [lists.split, List.mem_append] at complete
  refine ⟨fun further => ?_, fun ⟨other, read⟩ => (complete.mpr (.inr read)).resolve_left other⟩
  have other : package ∉ frameworkPackages := fun member => lists.notMem_drop member further
  exact ⟨other, (complete.mp (.inr further)).resolve_left other⟩

theorem initial : Lists [] frameworkPackages where
  distinct := by decide
  leading := rfl
  complete := by simp
  ordered := .nil

theorem step (lists : Lists named listed) (package : String) : Lists (named ++ [package]) (addPackage listed package) := by
  -- Whatever was named keeps the place where it was named first.
  have kept : ∀ other ∈ listed.drop 7, (named ++ [package]).idxOf other = named.idxOf other :=
    fun other member => List.idxOf_append_of_mem (lists.mem_drop_iff.mp member).2
  have ordered : (listed.drop 7).Pairwise fun first second =>
      (named ++ [package]).idxOf first < (named ++ [package]).idxOf second :=
    lists.ordered.imp_of_mem fun member member' less => by rwa [kept _ member, kept _ member']
  have complete : ∀ other, other ∈ addPackage listed package ↔ other ∈ frameworkPackages ∨ other ∈ named ++ [package] := by
    intro other
    rw [mem_addPackage, lists.complete, List.mem_append, List.mem_singleton, or_assoc]
  by_cases known : package ∈ listed
  · rw [addPackage_of_mem known] at complete ⊢
    exact ⟨lists.distinct, lists.leading, complete, ordered⟩
  · have unnamed : package ∉ named := fun read => known ((lists.complete package).mpr (.inr read))
    have long : 7 ≤ listed.length := by
      rw [lists.split, List.length_append]
      exact Nat.le_add_right _ _
    rw [addPackage_of_notMem known] at complete ⊢
    refine ⟨List.nodup_append.mpr ⟨lists.distinct, by simp, ?_⟩, ?_, complete, ?_⟩
    · intro other member last single same
      exact known (List.mem_singleton.mp single ▸ same ▸ member)
    · rw [List.take_append_of_le_length long, lists.leading]
    · rw [List.drop_append_of_le_length long, List.pairwise_append]
      refine ⟨ordered, List.pairwise_singleton .., fun other member last single => ?_⟩
      rw [List.mem_singleton.mp single, kept other member, List.idxOf_append_of_notMem unnamed]
      exact Nat.lt_add_right _ (List.idxOf_lt_length_of_mem (lists.mem_drop_iff.mp member).2)

/-- There is one such list only. -/
theorem unique {other : List String} (lists : Lists named listed) (lists' : Lists named other) : listed = other := by
  have same : (listed.drop 7).Perm (other.drop 7) := by
    refine (List.perm_ext_iff_of_nodup ?_ ?_).mpr fun package => ?_
    · exact lists.distinct.sublist (List.drop_sublist ..)
    · exact lists'.distinct.sublist (List.drop_sublist ..)
    · rw [lists.mem_drop_iff, lists'.mem_drop_iff]
  have rest : listed.drop 7 = other.drop 7 :=
    same.eq_of_pairwise (fun _ _ _ _ less more => absurd more (Nat.lt_asymm less)) lists.ordered lists'.ordered
  rw [lists.split, lists'.split, rest]

end Lists

theorem lists_dedupeList (extra : List String) : Lists extra (dedupeList extra) := by
  induction extra using List.reverseRecOn with
  | nil => exact .initial
  | append_singleton named package ih =>
    have next : dedupeList (named ++ [package]) = addPackage (dedupeList named) package := by
      simp [dedupeList]
    rw [next]
    exact ih.step package

/-- A build links the packages of the framework and then each further package once, in the order in which the options
name them first. To link what is linked changes nothing, nor does it to leave out names of the framework and names that
came before, whether one of them or all. -/
theorem packages_linked_once (extra : List String) :
    Lists extra (dedupeList extra) ∧
    (∀ listed, Lists extra listed → listed = dedupeList extra) ∧
    dedupeList (dedupeList extra) = dedupeList extra ∧
    (∀ front package rest, extra = front ++ package :: rest → package ∈ frameworkPackages ∨ package ∈ front →
      dedupeList (front ++ rest) = dedupeList extra) ∧
    dedupeList (extra.filter (· ∉ frameworkPackages)).eraseDups = dedupeList extra := by
  have lists := lists_dedupeList extra
  refine ⟨lists, fun listed lists' => lists'.unique lists, ?_, ?_, ?_⟩
  · have distinct := lists.distinct
    rw [lists.split] at distinct ⊢
    rw [dedupeList, List.foldl_append, foldl_addPackage_of_subset (List.Subset.refl _), foldl_addPackage_of_nodup distinct]
  · rintro front package rest rfl listed
    have known : package ∈ dedupeList front := ((lists_dedupeList front).complete package).mpr listed
    simp only [dedupeList, List.foldl_append, List.foldl_cons] at known ⊢
    rw [addPackage_of_mem known]
  · rw [dedupeList, foldl_addPackage_eraseDups, foldl_addPackage_filter, dedupeList]
    simp

end ComponentViews.Build
