import ComponentViews.Proofs.EntryViews

/-! The order of a walk. Names come as the bytes do that they are encoded in, since the
encoding keeps the order of characters, and files of one directory come by name. -/

namespace ComponentViews

/-- The bytes that a text is encoded in. -/
def bytesOf (text : String) : List UInt8 := text.toUTF8.data.toList

theorem bytesOf_eq (text : String) : bytesOf text = text.toList.flatMap String.utf8EncodeChar := by
  simp [bytesOf, String.toUTF8, ← String.utf8Encode_toList, List.utf8Encode]

theorem bytesOf_inj {first second : String} : bytesOf first = bytesOf second ↔ first = second := by
  rw [bytesOf, bytesOf, Array.toList_inj, ByteArray.ext_iff.symm, String.toUTF8, String.toUTF8, String.toByteArray_inj]

theorem toNat_val_lt (c : Char) : c.val.toNat < 1114112 := by
  have valid : Nat.isValidChar c.val.toNat := c.valid
  simp only [Nat.isValidChar] at valid
  omega

/-- The codes of two characters differ before either ends, as the characters do. -/
theorem encode_lt_encode {c d : Char} (less : c < d) (rest others : List UInt8) :
    String.utf8EncodeChar c ++ rest < String.utf8EncodeChar d ++ others := by
  have less : c.val.toNat < d.val.toNat := less
  have bound := toNat_val_lt d
  simp only [String.utf8EncodeChar]
  repeat' split
  all_goals
    simp (disch := omega) only [List.cons_append, List.nil_append, List.cons_lt_cons_iff, UInt8.lt_iff_toNat_lt,
      ← UInt8.toNat_inj, UInt8.toNat_ofNat', Nat.mod_eq_of_lt]
    omega

theorem bytesOf_lt {first second : String} (less : first < second) : bytesOf first < bytesOf second := by
  rw [bytesOf_eq, bytesOf_eq]
  rw [String.lt_iff] at less
  generalize first.toList = left at *
  generalize second.toList = right at *
  induction less with
  | @nil last =>
    obtain ⟨byte, bytes, shape⟩ := List.exists_cons_of_ne_nil (@String.utf8EncodeChar_ne_nil last)
    rw [List.flatMap_nil, List.flatMap_cons, shape]
    exact List.nil_lt_cons ..
  | cons less ih =>
    rw [List.flatMap_cons, List.flatMap_cons]
    exact List.append_left_lt ih
  | rel less =>
    rw [List.flatMap_cons, List.flatMap_cons]
    exact encode_lt_encode less ..

theorem lt_or_eq_or_lt (first second : String) : first < second ∨ first = second ∨ second < first := by
  by_cases less : first < second
  · exact .inl less
  · by_cases more : second < first
    · exact .inr (.inr more)
    · exact .inr (.inl (String.le_antisymm (String.not_lt.mp more) (String.not_lt.mp less)))

namespace FileTree

theorem precedes_cons {a b : String} {left right : Location} :
    precedes (a :: left) (b :: right) ↔ a < b ∨ a = b ∧ precedes left right := by
  simp only [precedes]
  split
  next same =>
    subst same
    simp
  next different => simp [different]

theorem precedes_total (left right : Location) : (precedes left right || precedes right left) = true := by
  induction left generalizing right with
  | nil => rfl
  | cons a left ih =>
    cases right with
    | nil => rfl
    | cons b right =>
      simp only [Bool.or_eq_true, precedes_cons] at ih ⊢
      rcases lt_or_eq_or_lt a b with less | rfl | more
      · exact .inl (.inl less)
      · simpa using ih right
      · exact .inr (.inl more)

theorem precedes_trans {first second third : Location} (early : precedes first second) (late : precedes second third) :
    precedes first third := by
  induction first generalizing second third with
  | nil => rfl
  | cons a first ih =>
    cases second with
    | nil => cases early
    | cons b second =>
      cases third with
      | nil => cases late
      | cons c third =>
        rw [precedes_cons] at early late ⊢
        rcases early with early | ⟨rfl, early⟩ <;> rcases late with late | ⟨rfl, late⟩
        · exact .inl (String.lt_trans early late)
        · exact .inl early
        · exact .inl late
        · exact .inr ⟨rfl, ih early late⟩

theorem precedes_append (front left right : Location) : precedes (front ++ left) (front ++ right) = precedes left right := by
  induction front with
  | nil => rfl
  | cons name front ih => simp [precedes, ih]

/-- Names in one directory come in the order of their bytes. -/
theorem bytesOf_le_of_precedes {front : Location} {first second : String}
    (ahead : precedes (front ++ [first]) (front ++ [second])) : bytesOf first ≤ bytesOf second := by
  rw [precedes_append, precedes_cons] at ahead
  rcases ahead with less | ⟨rfl, -⟩
  · exact List.le_of_lt (bytesOf_lt less)
  · exact List.le_refl _

theorem ordered_below (tree : FileTree) (directory : Location) :
    (tree.below directory).Pairwise fun left right => precedes left.1 right.1 := by
  refine List.pairwise_mergeSort ?_ ?_ _
  · exact fun _ _ _ early late => precedes_trans early late
  · exact fun _ _ => precedes_total ..

end FileTree

namespace FileSystem
open FileTree

theorem ordered_filesBelow {files : FileSystem} {directory : Path} {locations : List Location}
    (walked : files.filesBelow directory = .ok locations) : locations.Pairwise fun left right => precedes left right := by
  unfold filesBelow at walked
  split at walked
  next => cases walked
  next =>
    cases walked
    have ordered : ((files.below? directory).getD []).Pairwise fun left right => precedes left.1 right.1 := by
      unfold below?
      split
      · split
        · exact ordered_below ..
        · exact .nil
      · exact .nil
      · exact .nil
    refine List.Pairwise.filterMap _ ?_ ordered
    rintro ⟨first, entry⟩ ⟨second, entry'⟩ ahead _ shown _ shown'
    cases entry <;> cases entry' <;> grind

end FileSystem
end ComponentViews
