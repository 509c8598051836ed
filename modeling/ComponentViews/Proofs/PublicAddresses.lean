import ComponentViews.Bundle.Manifest
import Mathlib.Data.List.DropRight

/-! The form of a public address. Slashes at the end of the host and at the start of the
asset do not count, however many there are: one stands between what is left of both. -/

namespace ComponentViews.Bundle

theorem trimSlashesLeft_eq_iff {text rest : List Char} : trimSlashesLeft text = rest ↔
    (∃ count, text = List.replicate count '/' ++ rest) ∧ rest.head? ≠ some '/' := by
  constructor
  · rintro rfl
    have taken : ∀ c ∈ text.takeWhile (· = '/'), c = '/' := by
      intro c member
      simpa using List.mem_takeWhile_imp (p := (· = '/')) member
    refine ⟨⟨(text.takeWhile (· = '/')).length, ?_⟩, fun first => ?_⟩
    · calc text = text.takeWhile (· = '/') ++ text.dropWhile (· = '/') := List.takeWhile_append_dropWhile.symm
        _ = _ := by rw [← List.eq_replicate_iff.mpr ⟨rfl, taken⟩, trimSlashesLeft]
    · have further := List.head?_dropWhile_not (· = '/') text
      rw [trimSlashesLeft] at first
      simp [first] at further
  · rintro ⟨⟨count, rfl⟩, further⟩
    have slashes : ∀ c ∈ List.replicate count '/', decide (c = '/') = true := by simp
    rw [trimSlashesLeft, List.dropWhile_append_of_pos slashes]
    cases rest with
    | nil => rfl
    | cons c rest => simp_all

theorem trimSlashesRight_eq_iff {text front : List Char} : trimSlashesRight text = front ↔
    (∃ count, text = front ++ List.replicate count '/') ∧ front.getLast? ≠ some '/' := by
  have reversed : trimSlashesRight text = front ↔ trimSlashesLeft text.reverse = front.reverse :=
    List.reverse_eq_iff
  simp only [reversed, trimSlashesLeft_eq_iff, List.head?_reverse, List.reverse_eq_iff, List.reverse_append,
    List.reverse_reverse, List.reverse_replicate]

/-- A text of so many slashes. -/
def slashes (count : Nat) : String := String.ofList (List.replicate count '/')

/-- What is left of a host and of an asset by the slashes that were taken away. -/
structure Trims (host asset front back : String) : Prop where
  behind : ∃ count, host = front ++ slashes count
  closed : front.toList.getLast? ≠ some '/'
  ahead : ∃ count, asset = slashes count ++ back
  opened : back.toList.head? ≠ some '/'

theorem trims_iff {host asset front back : String} : Trims host asset front back ↔
    trimSlashesRight host.toList = front.toList ∧ trimSlashesLeft asset.toList = back.toList := by
  have host_eq : (∃ count, host = front ++ slashes count) ↔
      ∃ count, host.toList = front.toList ++ List.replicate count '/' := by
    simp [← String.toList_inj, slashes]
  have asset_eq : (∃ count, asset = slashes count ++ back) ↔
      ∃ count, asset.toList = List.replicate count '/' ++ back.toList := by
    simp [← String.toList_inj, slashes]
  rw [trimSlashesRight_eq_iff, trimSlashesLeft_eq_iff, ← host_eq, ← asset_eq]
  exact ⟨fun ⟨behind, closed, ahead, opened⟩ => ⟨⟨behind, closed⟩, ahead, opened⟩,
    fun ⟨⟨behind, closed⟩, ahead, opened⟩ => ⟨behind, closed, ahead, opened⟩⟩

theorem exists_trims (host asset : String) : ∃ front back, Trims host asset front back :=
  ⟨String.ofList (trimSlashesRight host.toList), String.ofList (trimSlashesLeft asset.toList), trims_iff.mpr (by simp)⟩

theorem joinUrl_of_trims {host asset front back : String} (trims : Trims host asset front back) :
    joinUrl host asset = front ++ "/" ++ back := by
  obtain ⟨kept, kept'⟩ := trims_iff.mp trims
  simp [joinUrl, kept, kept', ← String.toList_inj]

theorem Trims.extend {host asset front back : String} (trims : Trims host asset front back) (behind ahead : Nat) :
    Trims (host ++ slashes behind) (slashes ahead ++ asset) front back := by
  obtain ⟨⟨count, rfl⟩, closed, ⟨count', rfl⟩, opened⟩ := trims
  have joined (count more : Nat) : slashes count ++ slashes more = slashes (count + more) := by
    simp [← String.toList_inj, slashes]
  exact ⟨⟨count + behind, by rw [String.append_assoc, joined]⟩, closed,
    ⟨ahead + count', by rw [← String.append_assoc, joined]⟩, opened⟩

/-- Nothing but slashes leaves no host. -/
theorem Trims.front_eq {asset front back : String} {count : Nat} (trims : Trims (slashes count) asset front back) :
    front = "" := by
  have kept := (trims_iff.mp trims).1
  have nothing : trimSlashesRight (slashes count).toList = [] :=
    trimSlashesRight_eq_iff.mpr ⟨⟨count, by simp [slashes]⟩, by simp⟩
  rw [nothing] at kept
  exact String.toList_eq_nil_iff.mp kept.symm

/-- An address is the host without the slashes at its end, one slash, and the asset without those at its start. So more
of them change nothing, and without a host an address never starts with two slashes, as one of another host would. -/
theorem joinUrl_normal_form (host asset : String) :
    (∀ behind ahead, joinUrl (host ++ slashes behind) (slashes ahead ++ asset) = joinUrl host asset) ∧
    (∀ url, joinUrl host asset = url ↔ ∃ front back, Trims host asset front back ∧ url = front ++ "/" ++ back) ∧
    (∀ count, ¬ ['/', '/'] <+: (joinUrl (slashes count) asset).toList) := by
  refine ⟨fun behind ahead => ?_, fun url => ⟨?_, ?_⟩, fun count twice => ?_⟩
  · obtain ⟨front, back, trims⟩ := exists_trims host asset
    rw [joinUrl_of_trims trims, joinUrl_of_trims (trims.extend behind ahead)]
  · rintro rfl
    obtain ⟨front, back, trims⟩ := exists_trims host asset
    exact ⟨front, back, trims, joinUrl_of_trims trims⟩
  · rintro ⟨front, back, trims, rfl⟩
    exact joinUrl_of_trims trims
  · obtain ⟨front, back, trims⟩ := exists_trims (slashes count) asset
    rw [joinUrl_of_trims trims, trims.front_eq] at twice
    obtain ⟨rest, shape⟩ := twice
    have next : back.toList = '/' :: rest := by simpa using shape.symm
    exact trims.opened (by rw [next]; rfl)

end ComponentViews.Bundle
