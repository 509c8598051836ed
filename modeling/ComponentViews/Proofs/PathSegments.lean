import ComponentViews.FileSystem

/-! Segments and components of a path that ends in a name, and of the parent of a path. A name
has a stem and an extension. -/

namespace ComponentViews.Path
open FileTree

theorem splitSlashes_ne_nil (text : List Char) : splitSlashes text ≠ [] := by
  induction text with
  | nil => simp [splitSlashes]
  | cons c rest ih =>
    rw [splitSlashes]
    split
    · simp
    · split <;> simp

theorem splitSlashes_append_slash (front rest : List Char) :
    splitSlashes (front ++ '/' :: rest) = splitSlashes front ++ splitSlashes rest := by
  induction front with
  | nil => simp [splitSlashes]
  | cons c front ih =>
    by_cases slash : c = '/'
    · simp [splitSlashes, slash, ih]
    · obtain ⟨segment, segments, shape⟩ := List.exists_cons_of_ne_nil (splitSlashes_ne_nil front)
      simp [splitSlashes, slash, ih, shape]

theorem splitSlashes_of_notMem {text : List Char} (plain : '/' ∉ text) : splitSlashes text = [text] := by
  induction text with
  | nil => rfl
  | cons c rest ih =>
    simp only [List.mem_cons, not_or] at plain
    simp [splitSlashes, Ne.symm plain.1, ih plain.2]

theorem notMem_of_mem_splitSlashes {text segment : List Char} (member : segment ∈ splitSlashes text) :
    '/' ∉ segment := by
  induction text generalizing segment with
  | nil => simp_all [splitSlashes]
  | cons c rest ih =>
    by_cases slash : c = '/'
    · simp only [splitSlashes, slash, if_true, List.mem_cons] at member
      rcases member with rfl | member
      · simp
      · exact ih member
    · obtain ⟨first, others, shape⟩ := List.exists_cons_of_ne_nil (splitSlashes_ne_nil rest)
      simp only [splitSlashes, slash, if_false, shape, List.mem_cons] at member
      rcases member with rfl | member
      · have inner := ih (by simp [shape] : first ∈ splitSlashes rest)
        simp [inner, Ne.symm slash]
      · exact ih (by simp [shape, member])

theorem splitSlashes_replicate (front : List Char) (count : Nat) :
    splitSlashes (front ++ List.replicate count '/') = splitSlashes front ++ List.replicate count [] := by
  induction count generalizing front with
  | zero => simp
  | succ count ih =>
    have moved : front ++ List.replicate (count + 1) '/' = (front ++ ['/']) ++ List.replicate count '/' := by
      simp [List.replicate_succ]
    rw [moved, ih, splitSlashes_append_slash, List.append_assoc]
    simp [splitSlashes, List.replicate_succ]

/-- A name appended to a path, by the text that comes between them. -/
theorem text_div (directory : Path) {name : String} (plain : '/' ∉ name.toList) :
    (directory.text = "" ∧ (directory / name).text = name) ∨
    (∃ front, directory.text = front ++ "/" ∧ (directory / name).text = front ++ "/" ++ name) ∨
    (directory.text ≠ "" ∧ (directory / name).text = directory.text ++ "/" ++ name) := by
  have relative : ({ text := name } : Path).isAbsolute = false := by
    cases shape : name.toList with
    | nil => simp [isAbsolute, shape]
    | cons c rest =>
      simp only [shape, List.mem_cons, not_or] at plain
      simp [isAbsolute, shape, Ne.symm plain.1]
  change _ ∧ (directory.join { text := name }).text = _ ∨ (∃ front, _ ∧ (directory.join { text := name }).text = _) ∨
    _ ∧ (directory.join { text := name }).text = _
  simp only [join, relative, Bool.false_eq_true, if_false]
  by_cases empty : directory.text = ""
  · simp [empty]
  · by_cases ended : directory.text.toList.getLast? = some '/'
    · obtain ⟨front, shape⟩ := List.getLast?_eq_some_iff.mp ended
      refine .inr (.inl ⟨String.ofList front, ?_, ?_⟩)
      · apply String.toList_inj.mp; simp [shape]
      · apply String.toList_inj.mp; simp [shape]
    · simp [empty, ended]

theorem segments_div (directory : Path) {name : String} (plain : '/' ∉ name.toList) :
    ∃ front, (directory.segments = front ∨ directory.segments = front ++ [""]) ∧
      (directory / name).segments = front ++ [name] := by
  have last : splitSlashes name.toList = [name.toList] := splitSlashes_of_notMem plain
  rcases directory.text_div plain with ⟨empty, joined⟩ | ⟨front, shape, joined⟩ | ⟨_, joined⟩
  · refine ⟨[], .inr ?_, ?_⟩
    · simp [segments, empty, splitSlashes]
    · simp [segments, joined, last]
  · refine ⟨(splitSlashes front.toList).map String.ofList, .inr ?_, ?_⟩
    · simp [segments, shape, splitSlashes_append_slash, splitSlashes]
    · simp [segments, joined, splitSlashes_append_slash, last]
  · refine ⟨directory.segments, .inl rfl, ?_⟩
    simp [segments, joined, splitSlashes_append_slash, last]

theorem isAbsolute_div (directory : Path) {name : String} (plain : '/' ∉ name.toList) :
    (directory / name).isAbsolute = directory.isAbsolute := by
  by_cases named : directory.text.toList = []
  · rcases directory.text_div plain with ⟨empty, joined⟩ | ⟨front, shape, _⟩ | ⟨other, _⟩
    · cases shape : name.toList with
      | nil => simp [isAbsolute, joined, empty, shape]
      | cons c rest =>
        simp only [shape, List.mem_cons, not_or] at plain
        simp [isAbsolute, joined, empty, shape, Ne.symm plain.1]
    · simp [shape] at named
    · exact absurd (by simpa using named) other
  · obtain ⟨c, rest, head⟩ := List.exists_cons_of_ne_nil named
    rcases directory.text_div plain with ⟨empty, _⟩ | ⟨front, shape, joined⟩ | ⟨_, joined⟩
    · simp [empty] at named
    · simp [isAbsolute, joined, ← shape, head]
    · simp [isAbsolute, joined, head]

theorem splitLastDot_eq_none_iff {text : List Char} : splitLastDot text = none ↔ '.' ∉ text := by
  induction text with
  | nil => simp [splitLastDot]
  | cons c rest ih => grind [splitLastDot]

theorem splitLastDot_eq_some_iff {text before after : List Char} :
    splitLastDot text = some (before, after) ↔ text = before ++ '.' :: after ∧ '.' ∉ after := by
  constructor
  · intro split
    induction text generalizing before with
    | nil => cases split
    | cons c rest ih => grind [splitLastDot, splitLastDot_eq_none_iff]
  · rintro ⟨rfl, plain⟩
    induction before with
    | nil => simp [splitLastDot, splitLastDot_eq_none_iff.mpr plain]
    | cons c before ih => simp [splitLastDot, ih]

/-- A name has its extension behind its last dot, unless that dot stands in front of all else. -/
theorem splitName_eq_iff {name stem extension : String} : splitName name = (stem, some extension) ↔
    name = stem ++ ("." ++ extension) ∧ stem ≠ "" ∧ '.' ∉ extension.toList := by
  constructor
  · intro split
    unfold splitName at split
    split at split
    next c before after found =>
      cases split
      obtain ⟨spelled, plain⟩ := splitLastDot_eq_some_iff.mp found
      exact ⟨String.toList_inj.mp (by simp [spelled]), by simp, by simpa using plain⟩
    next => cases split
  · rintro ⟨rfl, inner, plain⟩
    obtain ⟨c, rest, shape⟩ := List.exists_cons_of_ne_nil (mt String.toList_eq_nil_iff.mp inner)
    have found : splitLastDot (stem ++ ("." ++ extension)).toList = some (c :: rest, extension.toList) := by
      rw [splitLastDot_eq_some_iff]
      simp [shape, plain]
    rw [splitName, found]
    simp [← shape]

/-- The stem of a name that ends in a dot and a text without dots: what is in front, and all of the name where nothing is. -/
theorem stem_append {kind : String} (plain : '.' ∉ kind.toList) (front : String) :
    (splitName (front ++ ("." ++ kind))).1 = if front = "" then "." ++ kind else front := by
  split
  next empty =>
    have found : splitLastDot (front ++ ("." ++ kind)).toList = some ([], kind.toList) := by
      rw [splitLastDot_eq_some_iff]
      simp [empty, plain]
    rw [splitName, found, empty, String.empty_append]
  next inner => rw [splitName_eq_iff.mpr ⟨rfl, inner, plain⟩]

theorem notMem_stem {name : String} (plain : '/' ∉ name.toList) : '/' ∉ (splitName name).1.toList := by
  unfold splitName
  split
  next c before after split =>
    rw [(splitLastDot_eq_some_iff.mp split).1] at plain
    simp only [List.cons_append, List.mem_cons, List.mem_append, not_or] at plain
    simp [plain.1, plain.2.1]
  next => exact plain

theorem segmentComponent_of_name {name : String} (inner : name ≠ "") (here : name ≠ ".") (up : name ≠ "..") :
    segmentComponent name = some (.name name) := by
  simp [segmentComponent, inner, here, up]

theorem segmentComponent_of_validName {name : String} (valid : ValidName name) :
    segmentComponent name = some (.name name) :=
  segmentComponent_of_name valid.1 valid.2.1 valid.2.2.1

theorem components_of_segments {path : Path} {front : List String} {name : String}
    (shape : path.segments = front ++ [name]) (component : segmentComponent name = some (.name name)) :
    ∃ components, path.components = components ++ [.name name] := by
  unfold components
  split
  · exact ⟨.root :: front.filterMap segmentComponent, by simp [shape, component]⟩
  · rw [shape]
    unfold ofSegments
    split
    next rest start =>
      cases front with
      | nil =>
        obtain ⟨rfl, -⟩ := List.cons.inj start
        cases component
      | cons first front =>
        obtain ⟨-, rfl⟩ := List.cons.inj start
        exact ⟨.here :: front.filterMap segmentComponent, by simp [component]⟩
    next => exact ⟨front.filterMap segmentComponent, by simp [component]⟩

/-- A path that ends in a name has that name as its last component. -/
theorem fileName?_div (directory : Path) {name : String} (valid : ValidName name) :
    (directory / name).fileName? = some name := by
  have plain := valid.2.2.2.1
  obtain ⟨front, -, shape⟩ := directory.segments_div plain
  obtain ⟨components, listed⟩ := components_of_segments shape (segmentComponent_of_validName valid)
  simp [fileName?, listed]

theorem name_eq_of_same {directory : Path} {first second : String} (valid : ValidName first) (valid' : ValidName second)
    (same : (directory / first).components = (directory / second).components) : first = second := by
  have named : (directory / first).fileName? = (directory / second).fileName? := by simp only [fileName?, same]
  simpa [fileName?_div, valid, valid'] using named

theorem notMem_of_mem_segments {path : Path} {segment : String} (member : segment ∈ path.segments) :
    '/' ∉ segment.toList := by
  obtain ⟨chars, inside, rfl⟩ := List.mem_map.mp member
  simpa using notMem_of_mem_splitSlashes inside

theorem segments_ofList {segments : List String} (plain : ∀ segment ∈ segments, '/' ∉ segment.toList)
    (inner : segments ≠ []) : (splitSlashes (ofList segments).toList).map String.ofList = segments := by
  have slash : ("/" : String).toList = ['/'] := rfl
  rw [ofList, String.toList_intercalate, slash]
  induction segments with
  | nil => exact absurd rfl inner
  | cons segment rest ih =>
    have head := splitSlashes_of_notMem (plain segment List.mem_cons_self)
    cases rest with
    | nil => simp [head]
    | cons next rest =>
      have ih := ih (fun segment member => plain segment (.tail _ member)) (by simp)
      have shape : ['/'].intercalate ((segment :: next :: rest).map String.toList) =
          segment.toList ++ '/' :: ['/'].intercalate ((next :: rest).map String.toList) := by
        simp [List.intercalate]
      rw [shape, splitSlashes_append_slash, head, List.map_append, ih]
      simp

/-- An absolute path has an empty segment in front of the others. -/
theorem isAbsolute_iff (path : Path) : path.isAbsolute ↔ ∃ rest, path.segments = "" :: rest ∧ rest ≠ [] := by
  cases shape : path.text.toList with
  | nil => simp [isAbsolute, segments, shape, splitSlashes]
  | cons c rest =>
    have others := splitSlashes_ne_nil rest
    by_cases slash : c = '/'
    · simp [isAbsolute, segments, shape, splitSlashes, slash, others]
    · obtain ⟨segment, segments, listed⟩ := List.exists_cons_of_ne_nil others
      simp [isAbsolute, Path.segments, shape, splitSlashes, slash, listed, ← String.toList_inj]

theorem trimEnd_initial (segments : List String) : trimEnd segments <+: segments := by
  have ending := List.dropWhile_suffix (l := segments.reverse) fun segment => (segmentComponent segment).isNone
  simpa [trimEnd] using List.reverse_prefix.mpr ending

theorem trimRelative_initial (segments : List String) : trimRelative segments <+: segments := by
  unfold trimRelative
  split
  · exact List.cons_prefix_cons.mpr ⟨rfl, trimEnd_initial _⟩
  · exact trimEnd_initial _

theorem segments_ofList_or {front : List String} (plain : ∀ segment ∈ front, '/' ∉ segment.toList) :
    ({ text := ofList front } : Path).segments = front ∨ front = [] ∧ ({ text := ofList front } : Path).segments = [""] := by
  by_cases empty : front = []
  · exact .inr ⟨empty, by simp [empty, segments, ofList, splitSlashes]⟩
  · exact .inl (segments_ofList plain empty)

theorem segments_slash (text : String) :
    ({ text := "/" ++ text } : Path).segments = "" :: ({ text } : Path).segments := by
  simp [segments, splitSlashes]

/-- The parent of a path is spelled by the first of its segments, with a blank where none are left. -/
theorem parent?_segments {path parent : Path} (found : path.parent? = some parent) :
    parent.isAbsolute = path.isAbsolute ∧ ∃ front, front <+: path.segments ∧
      (parent.segments = front ∨ parent.segments = front ++ [""]) := by
  unfold parent? at found
  split at found
  next absolute =>
    obtain ⟨rest, shape, inner⟩ := path.isAbsolute_iff.mp absolute
    simp only [shape, List.drop_one, List.tail_cons] at found
    split at found
    · cases found
    next kept trimmed =>
      cases found
      have start : trimEnd (trimEnd rest).dropLast <+: rest :=
        (trimEnd_initial _).trans ((List.dropLast_prefix _).trans (trimEnd_initial rest))
      have plain : ∀ segment ∈ trimEnd (trimEnd rest).dropLast, '/' ∉ segment.toList := fun segment member =>
        notMem_of_mem_segments (by rw [shape]; exact .tail _ (start.subset member))
      refine ⟨?_, "" :: trimEnd (trimEnd rest).dropLast, by simpa [shape] using start, ?_⟩
      · exact absolute ▸ (isAbsolute_iff _).mpr ⟨_, segments_slash _, by simpa [segments] using splitSlashes_ne_nil _⟩
      · rw [segments_slash]
        rcases segments_ofList_or plain with same | ⟨empty, blank⟩
        · exact .inl (by rw [same])
        · exact .inr (by rw [blank, empty]; rfl)
  next relative =>
    split at found
    · cases found
    next kept trimmed =>
      cases found
      have start : trimRelative (trimRelative path.segments).dropLast <+: path.segments :=
        (trimRelative_initial _).trans ((List.dropLast_prefix _).trans (trimRelative_initial _))
      have plain : ∀ segment ∈ trimRelative (trimRelative path.segments).dropLast, '/' ∉ segment.toList :=
        fun segment member => notMem_of_mem_segments (start.subset member)
      have spelled := segments_ofList_or plain
      refine ⟨?_, _, start, spelled.imp_right fun blank => by rw [blank.2, blank.1]; rfl⟩
      rw [Bool.eq_iff_iff]
      refine iff_of_false (fun rooted => relative ?_) relative
      obtain ⟨rest, shape, inner⟩ := (isAbsolute_iff _).mp rooted
      rcases spelled with same | ⟨_, blank⟩
      · rw [← same, shape] at start
        obtain ⟨last, joined⟩ := start
        exact (isAbsolute_iff path).mpr ⟨rest ++ last, by simp [← joined], by simp [inner]⟩
      · rw [blank] at shape
        cases shape
        exact absurd rfl inner

end ComponentViews.Path
