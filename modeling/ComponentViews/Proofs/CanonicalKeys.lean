import ComponentViews.Proofs.LookupOrder
import ComponentViews.Proofs.ViewKeys

/-! Keys as names of views. What a path spells between its components does not count for where it leads, but it does for
its length: the path that a lookup of a key tries may be longer than the one that the key has been read off. -/

namespace ComponentViews

namespace Path

/-- How a component is spelled behind others. -/
def Component.spelled : Component → String
  | .root => ""
  | .here => "."
  | .up => ".."
  | .name value => value

/-- The last segment of a path is spelled for a component. -/
def Tidy (path : Path) : Prop :=
  ∃ front last component, path.segments = front ++ [last] ∧ segmentComponent last = some component

/-- A text that is one name of a path. -/
def IsName (name : String) : Prop := '/' ∉ name.toList ∧ segmentComponent name = some (.name name)

variable {path other root : Path} {names : List String}

theorem spelled_of_segmentComponent {segment : String} {component : Component}
    (found : segmentComponent segment = some component) : component.spelled = segment := by
  unfold segmentComponent at found
  grind [Component.spelled]

theorem isAbsolute_of_components {rest : List Component} (shape : path.components = .root :: rest) : path.isAbsolute := by
  by_contra relative
  rw [components_of_relative (by simpa using relative)] at shape
  unfold ofSegments at shape
  split at shape
  next => cases shape
  next =>
    have member : .root ∈ path.steps := by
      rw [steps, shape]
      exact List.mem_cons_self
    rcases steps_spelled path _ member with up | ⟨value, named⟩
    · cases up
    · cases named

theorem eq_of_segments (same : path.segments = other.segments) : path = other := by
  obtain ⟨text⟩ := path
  obtain ⟨text'⟩ := other
  rw [← ofList_segments text, ← ofList_segments text', same]

theorem segments_of_names (inner : names ≠ []) (named : ∀ name ∈ names, IsName name) :
    ({ text := ofList names } : Path).segments = names :=
  segments_ofList (fun name member => (named name member).1) inner

theorem components_ofList (inner : names ≠ []) (named : ∀ name ∈ names, IsName name) :
    ({ text := ofList names } : Path).components = names.map .name := by
  obtain ⟨relative, shape⟩ := steps_ofList inner named
  rw [components_of_relative relative, ← shape, steps, segments_of_names inner named]
  refine ofSegments.eq_2 _ ?_
  rintro rest rfl
  cases (named "." List.mem_cons_self).2

theorem segments_join_tidy (tidy : root.Tidy) (relative : path.isAbsolute = false) :
    (root.join path).segments = root.segments ++ path.segments := by
  obtain ⟨above, last, component, shape, named⟩ := tidy
  rcases segments_join root relative with ⟨empty, -⟩ | ⟨front, -, before | before, joined, -⟩
  · have blank : last = "" := by
      have ends : above ++ [last] = [] ++ [""] := by
        rw [← shape, segments, empty]
        rfl
      exact List.singleton_inj.mp (List.append_inj' ends rfl).2
    rw [blank] at named
    cases named
  · rw [joined, before]
  · obtain ⟨-, ends⟩ := List.append_inj' (shape.symm.trans before) rfl
    rw [List.singleton_inj.mp ends] at named
    cases named

theorem trimEnd_concat {front : List String} {last : String} {component : Component}
    (named : segmentComponent last = some component) : trimEnd (front ++ [last]) = front ++ [last] := by
  simp [trimEnd, named]

theorem trimEnd_append_replicate (front : List String) (count : Nat) : trimEnd (front ++ List.replicate count "") = trimEnd front := by
  induction count with
  | zero => simp
  | succ count ih =>
    have blank : (segmentComponent "").isNone := rfl
    rw [List.replicate_succ', ← List.append_assoc, ← ih]
    simp [trimEnd, blank]

theorem Tidy.segments_eq (rooted : root.isAbsolute) (tidy : root.Tidy) : ∃ front last component,
    root.segments = "" :: (front ++ [last]) ∧ segmentComponent last = some component := by
  obtain ⟨rest, listed, -⟩ := root.isAbsolute_iff.mp rooted
  obtain ⟨above, last, component, shape, named⟩ := tidy
  cases above with
  | nil =>
    rw [listed] at shape
    rw [← (List.cons.inj shape).1] at named
    cases named
  | cons first front =>
    obtain rfl : "" = first := (List.cons.inj (listed.symm.trans shape)).1
    exact ⟨front, last, component, shape, named⟩

/-- The parent of an absolute path is what its segments start with, without idle ones in front of the last. -/
theorem parent?_eq_some {above : Path} {last : String} {component : Component} (rooted : above.isAbsolute)
    (tidy : above.Tidy) (idle : Nat) (named : segmentComponent last = some component)
    (shape : path.segments = above.segments ++ List.replicate idle "" ++ [last]) : path.parent? = some above := by
  obtain ⟨front, middle, inner, listed, ends⟩ := tidy.segments_eq rooted
  have plain : ∀ segment ∈ front ++ [middle], '/' ∉ segment.toList := by
    intro segment member
    have inside : segment ∈ above.segments := listed ▸ List.mem_cons_of_mem _ member
    exact notMem_of_mem_segments inside
  have spelled : ({ text := "/" ++ ofList (front ++ [middle]) } : Path) = above := by
    refine eq_of_segments ?_
    rw [segments_slash, listed]
    exact congrArg _ (segments_ofList plain (by simp))
  have shape : path.segments = "" :: (front ++ [middle] ++ List.replicate idle "" ++ [last]) := by
    rw [shape, listed, List.cons_append, List.cons_append]
  have rooted' : path.isAbsolute := (isAbsolute_iff _).mpr ⟨_, shape, by simp⟩
  rw [parent?, if_pos rooted', shape, List.drop_one, List.tail_cons, trimEnd_concat named]
  split
  next empty => simp at empty
  next => rw [List.dropLast_concat, trimEnd_append_replicate, trimEnd_concat ends, spelled]

theorem join_ofList (rooted : root.isAbsolute) (inner : names ≠ []) (named : ∀ name ∈ names, IsName name) :
    (root.join { text := ofList names }).isAbsolute ∧
      (root.join { text := ofList names }).components = root.components ++ names.map .name ∧
      ∃ front, (root.join { text := ofList names }).segments = front ++ names := by
  obtain ⟨relative, shape⟩ := steps_ofList inner named
  refine ⟨isAbsolute_join rooted relative, by rw [components_join rooted relative, shape], ?_⟩
  rcases segments_join root relative with ⟨empty, -⟩ | ⟨front, -, -, joined, -⟩
  · simp [isAbsolute, empty] at rooted
  · exact ⟨front, by rw [joined, segments_of_names inner named]⟩

theorem IsName.of_mem_components {name : String} (member : .name name ∈ path.components) : IsName name :=
  ⟨notMem_of_mem_components member, (name_mem_components_iff.mp member).2⟩

theorem IsName.of_dotless {name : String} (slashless : '/' ∉ name.toList) (inner : name ≠ "") (dotless : '.' ∉ name.toList) :
    IsName name := by
  obtain ⟨c, rest, shape⟩ := List.exists_cons_of_ne_nil (mt String.toList_eq_nil_iff.mp inner)
  have inside : c ∈ name.toList := shape ▸ List.mem_cons_self
  exact ⟨slashless, segmentComponent_of_mem inside (ne_of_mem_of_not_mem inside dotless)⟩

theorem IsName.steps_eq {name : String} (named : IsName name) : ({ text := name } : Path).steps = [.name name] := by
  rw [steps_of_notMem named.1, named.2, Option.toList_some]

theorem IsName.segments_eq {name : String} (named : IsName name) : ({ text := name } : Path).segments = [name] := by
  simp [segments, splitSlashes_of_notMem named.1]

theorem Tidy.div {name : String} (tidy : root.Tidy) (named : IsName name) :
    (root / name).segments = root.segments ++ [name] ∧ (root / name).Tidy := by
  have shape : (root.join { text := name }).segments = root.segments ++ [name] := by
    rw [segments_join_tidy tidy (relative_of_notMem named.1), named.segments_eq]
  exact ⟨shape, _, _, _, shape, named.2⟩

theorem Tidy.segments_ofList (tidy : root.Tidy) (inner : names ≠ []) (named : ∀ name ∈ names, IsName name) :
    (root / ofList names).segments = root.segments ++ names := by
  have joined := segments_join_tidy tidy (steps_ofList inner named).1
  rw [segments_of_names inner named] at joined
  exact joined

theorem Tidy.below {front : List String} (rooted : root.isAbsolute) (tidy : root.Tidy) (named : ∀ name ∈ front, IsName name) :
    ∃ above : Path, above.isAbsolute ∧ above.Tidy ∧ above.segments = root.segments ++ front := by
  rcases List.eq_nil_or_concat front with rfl | ⟨others, last, rfl⟩
  · exact ⟨root, rooted, tidy, (List.append_nil _).symm⟩
  · rw [List.concat_eq_append] at named ⊢
    have shape := tidy.segments_ofList (by simp) named
    refine ⟨root / ofList (others ++ [last]), (join_ofList rooted (by simp) named).1, ?_, shape⟩
    exact ⟨_, _, _, shape.trans (List.append_assoc ..).symm, (named last (by simp)).2⟩

/-- A path with slashes to spare at its end. -/
def padded (path : Path) (count : Nat) : Path := { text := path.text ++ String.ofList (List.replicate count '/') }

theorem utf8ByteSize_padded (path : Path) (count : Nat) : (path.padded count).text.utf8ByteSize = path.text.utf8ByteSize + count := by
  have slashes : (String.ofList (List.replicate count '/')).utf8ByteSize = count := by
    induction count with
    | zero => rfl
    | succ count ih =>
      have more : String.ofList (List.replicate (count + 1) '/') = "/" ++ String.ofList (List.replicate count '/') :=
        String.toList_inj.mp (by simp [List.replicate_succ])
      have slash : ("/" : String).utf8ByteSize = 1 := rfl
      rw [more, String.utf8ByteSize_append, ih, slash, Nat.add_comm]
  rw [padded, String.utf8ByteSize_append, slashes]

theorem utf8ByteSize_le_join (base : Path) (relative : path.isAbsolute = false) :
    base.text.utf8ByteSize ≤ (base.join path).text.utf8ByteSize := by
  unfold join
  rw [if_neg (by simp [relative])]
  split
  · rw [String.utf8ByteSize_append]
    omega
  · rw [String.utf8ByteSize_append, String.utf8ByteSize_append]
    omega

theorem long_padded_div {text : String} {count limit : Nat} (long : limit < root.text.utf8ByteSize + count)
    (relative : Path.isAbsolute { text } = false) : ¬ (root.padded count / text).text.utf8ByteSize ≤ limit := by
  have longer : (root.padded count).text.utf8ByteSize ≤ (root.padded count / text).text.utf8ByteSize :=
    utf8ByteSize_le_join _ relative
  rw [utf8ByteSize_padded] at longer
  omega

theorem segments_padded (path : Path) (count : Nat) : (path.padded count).segments = path.segments ++ List.replicate count "" := by
  simp [segments, padded, splitSlashes_replicate]

theorem components_padded (rooted : path.isAbsolute) (count : Nat) :
    (path.padded count).isAbsolute ∧ (path.padded count).components = path.components := by
  obtain ⟨rest, shape, inner⟩ := path.isAbsolute_iff.mp rooted
  have rooted' : (path.padded count).isAbsolute :=
    (isAbsolute_iff _).mpr ⟨rest ++ List.replicate count "", by rw [segments_padded, shape, List.cons_append], by simp [inner]⟩
  have idle : (List.replicate count "").filterMap segmentComponent = [] := by
    simp [segmentComponent]
  rw [components_of_isAbsolute rooted, components_of_isAbsolute rooted', steps, steps, segments_padded, List.filterMap_append,
    idle, List.append_nil]
  exact ⟨rooted', rfl⟩

/-- The parent of a name behind a path with slashes to spare is the path without them. -/
theorem parent?_padded_div {name : String} (rooted : root.isAbsolute) (tidy : root.Tidy) (named : IsName name) (count : Nat) :
    (root.padded count / name).parent? = some root := by
  obtain ⟨above, before, after⟩ := (root.padded count).segments_div named.1
  rw [segments_padded] at before
  rcases before with rfl | ended
  · exact parent?_eq_some rooted tidy _ named.2 after
  cases count with
  | zero =>
    obtain ⟨front, last, component, shape, ends⟩ := tidy
    rw [List.replicate_zero, List.append_nil, shape] at ended
    rw [List.singleton_inj.mp (List.append_inj' ended rfl).2] at ends
    cases ends
  | succ count =>
    rw [List.replicate_succ', ← List.append_assoc] at ended
    rw [← (List.append_inj' ended rfl).1] at after
    exact parent?_eq_some rooted tidy _ named.2 after

theorem ofList_append (front : List String) (last ending : String) :
    ofList (front ++ [last]) ++ ending = ofList (front ++ [last ++ ending]) := by
  rw [ofList_concat, ofList_concat, String.append_assoc]

end Path

namespace FileSystem
open FileTree
open Path (segmentComponent Component)

variable {files : FileSystem} {path other : Path}

/-- A segment of no component stays where it is, and what comes behind it asks for a directory there anyway. -/
theorem follow_idle {tree : FileTree} {here : Location} {segment : String} {rest : List String}
    (idle : segmentComponent segment = none) (inner : rest ≠ []) :
    follow tree (.standing here) (segment :: rest) = follow tree (.standing here) rest := by
  have idle : segment = "" ∨ segment = "." := by
    unfold segmentComponent at idle
    grind
  obtain ⟨next, others, rfl⟩ := List.exists_cons_of_ne_nil inner
  rw [follow]
  split
  next missing => simp [follow, missing]
  next held => simp [follow, held]
  next => rw [if_pos idle]

/-- Up to a name at its end a path leads where its components do. -/
theorem follow_spelled {last : String} (named : segmentComponent last = some (.name last)) (tree : FileTree) (here : Location)
    (front : List String) : follow tree (.standing here) (front ++ [last]) =
      follow tree (.standing here) (((front ++ [last]).filterMap segmentComponent).map Component.spelled) := by
  -- The name stays at the end throughout: in front of it, segments of no component can be left out one by one.
  induction front generalizing here with
  | nil => simp [named, Component.spelled]
  | cons segment rest ih =>
    cases found : segmentComponent segment with
    | none => rw [List.cons_append, follow_idle found (by simp), ih, List.filterMap_cons_none found]
    | some component =>
      rw [List.cons_append, List.filterMap_cons_some found, List.map_cons, Path.spelled_of_segmentComponent found]
      simp only [follow, ih]

/-- A path with the components of a path to a file leads to that file as well, as long as it is no longer than paths may
be and ends in the name of the file. -/
theorem isFile_of_components (rooted : path.isAbsolute) (same : other.components = path.components)
    (short : other.text.utf8ByteSize ≤ greatestPathSize)
    (ends : ∃ front last, other.segments = front ++ [last] ∧ segmentComponent last = some (.name last))
    (stands : files.isFile path) : files.isFile other := by
  obtain ⟨front, last, shape, named⟩ := last_of_isFile rooted stands
  obtain ⟨front', last', shape', named'⟩ := ends
  have rooted' : other.isAbsolute := Path.isAbsolute_of_components (same.trans (Path.components_of_isAbsolute rooted))
  have steps : other.steps = path.steps := by
    rw [Path.components_of_isAbsolute rooted, Path.components_of_isAbsolute rooted'] at same
    exact (List.cons.inj same).2
  obtain ⟨target, content, executable, led, found⟩ := isFile_iff.mp stands
  obtain ⟨⟨-, clean, -⟩, reached⟩ := locate_eq_ok_iff.mp led
  have fits : Fits other := by
    refine ⟨?_, ?_, short⟩
    · intro empty
      simp [Path.isAbsolute, empty] at rooted'
    · rwa [Path.mem_text_congr same (by decide) (by decide)]
  refine isFile_iff.mpr ⟨target, content, executable, locate_eq_ok_iff.mpr ⟨fits, ?_⟩, found⟩
  -- Both paths are followed by their components, which are the same.
  rw [base, if_pos rooted, shape, follow_spelled named, ← shape] at reached
  rw [base, if_pos rooted', shape', follow_spelled named', ← shape']
  rw [Path.steps, Path.steps] at steps
  rw [steps, reached]

end FileSystem

namespace View
open Path (Component IsName ofList)

variable {files : FileSystem} {root file index found : Path} {extension stem last : String} {front : List String}

/-- A path below a root that only names lead to. The last of them is a stem without dots and the extension. -/
structure PageAt (root : Path) (extension : String) (front : List String) (stem : String) (file : Path) : Prop where
  components : file.components = root.components ++ (front ++ [stem ++ extension]).map .name
  inner : stem ≠ ""
  dotless : '.' ∉ stem.toList

def IsPage (root : Path) (extension : String) (file : Path) : Prop := ∃ front stem, PageAt root extension front stem file

namespace PageAt
variable (page : PageAt root extension front stem file)
include page

theorem isName_full : ∀ name ∈ front ++ [stem ++ extension], IsName name := by
  intro name member
  have listed : .name name ∈ file.components := by
    rw [page.components]
    exact List.mem_append_right _ (List.mem_map_of_mem member)
  exact Path.IsName.of_mem_components listed

theorem isName : ∀ name ∈ front ++ [stem], IsName name := by
  intro name member
  rcases List.mem_append.mp member with inside | ends
  · exact page.isName_full name (List.mem_append_left _ inside)
  · obtain rfl := List.mem_singleton.mp ends
    have slashless := (page.isName_full _ (List.mem_append_right _ List.mem_cons_self)).1
    rw [String.toList_append, List.mem_append, not_or] at slashless
    exact Path.IsName.of_dotless slashless.1 page.inner page.dotless

theorem fileName? : file.fileName? = some (stem ++ extension) :=
  Path.fileName?_eq_some_iff.mpr ⟨root.components ++ front.map .name, by simp [page.components]⟩

end PageAt

/-- What follows the dot of an extension. -/
structure IsKind (kind : String) : Prop where
  inner : kind ≠ ""
  dotless : '.' ∉ kind.toList
  slashless : '/' ∉ kind.toList

theorem extended_of_names (named : ∀ name ∈ front ++ [last], IsName name) (dotless : '.' ∉ last.toList) (extension : String) :
    Extended (ofList (front ++ [last])) extension (ofList (front ++ [last]) ++ extension) extension := by
  refine .added ?_
  rintro other ⟨above, stem, shape, -, -⟩
  rw [Path.components_ofList (by simp) named, List.map_append] at shape
  obtain ⟨-, ends⟩ := List.append_inj' shape rfl
  cases ends
  simp at dotless

theorem resolve?_eq_some_iff : resolve? files file extension = some found ↔
    files.isFile file ∧ found = file ∨ ¬ files.isFile file ∧ indexFile? file extension = some found ∧ files.isFile found := by
  unfold resolve?
  split
  next stands => simp [stands, @eq_comm _ found]
  next missing => simp [missing, Option.filter_eq_some_iff]

section
variable {kind : String} (plain : IsKind kind)
include plain

theorem isName_append (slashless : '/' ∉ last.toList) : IsName (last ++ ("." ++ kind)) := by
  obtain ⟨c, rest, shape⟩ := List.exists_cons_of_ne_nil (mt String.toList_eq_nil_iff.mp plain.inner)
  have inside : c ∈ kind.toList := shape ▸ List.mem_cons_self
  have dot := ne_of_mem_of_not_mem inside plain.dotless
  exact ⟨by simpa using ⟨slashless, plain.slashless⟩, Path.segmentComponent_of_mem (by simp [inside]) dot⟩

theorem key_of_page (page : PageAt root ("." ++ kind) front stem file) : key [root] file = ofList (front ++ [stem]) := by
  have below : file.below? root = some ((front ++ [stem ++ ("." ++ kind)]).map .name) :=
    Path.dropStart?_eq_some_iff.mpr page.components
  have slashless : ∀ name ∈ front ++ [stem ++ ("." ++ kind)], '/' ∉ name.toList :=
    fun name member => (page.isName_full name member).1
  have read : key [root] file = Path.stripExtension (ofList (front ++ [stem ++ ("." ++ kind)])) := by
    simp only [key, List.findSome?_singleton, below, Path.slashed_names]
  rw [read, Path.stripExtension_ofList slashless (by simp), Path.stemmed_concat, Path.stem_append plain.dotless,
    if_neg page.inner]

theorem key_inj {other : Path} (page : IsPage root ("." ++ kind) file) (page' : IsPage root ("." ++ kind) other)
    (same : key [root] file = key [root] other) : file.same other := by
  obtain ⟨front, stem, page⟩ := page
  obtain ⟨front', stem', page'⟩ := page'
  rw [key_of_page plain page, key_of_page plain page'] at same
  have names : front ++ [stem] = front' ++ [stem'] :=
    Path.ofList_inj (fun name member => (page.isName name member).1) (fun name member => (page'.isName name member).1)
      (by simp) (by simp) same
  obtain ⟨rfl, ends⟩ := List.append_inj' names rfl
  obtain rfl := List.singleton_inj.mp ends
  exact beq_iff_eq.mpr (page.components.trans page'.components.symm)

/-- The index file in the stead of a page is a page in its turn. -/
theorem PageAt.indexed (page : PageAt root ("." ++ kind) front stem file) (absolute : file.isAbsolute)
    (stands : indexFile? file ("." ++ kind) = some index) : PageAt root ("." ++ kind) (front ++ [stem]) "index" index := by
  obtain ⟨above, last, shape, -, spelled⟩ := indexFile?_components absolute stands
  rw [page.components, List.map_append, ← List.append_assoc] at shape
  obtain ⟨rfl, ends⟩ := List.append_inj' shape rfl
  obtain rfl := Component.name.inj (List.singleton_inj.mp ends)
  have cut : stemOf ("." ++ kind) (stem ++ ("." ++ kind)) = stem := (cut_iff.mp (.short rfl)).symm
  have inside := page.isName stem (List.mem_append_right _ List.mem_cons_self)
  have indexed : IsName ("index" ++ ("." ++ kind)) := isName_append plain (by decide)
  rw [cut, inside.steps_eq, indexed.steps_eq] at spelled
  refine ⟨?_, by decide, by decide⟩
  rw [spelled]
  simp

variable (rooted : root.isAbsolute) (named : ∀ name ∈ front ++ [last], IsName name) (dotless : '.' ∉ last.toList)
include rooted named dotless

theorem page_of_names : let file : Path := root / (ofList (front ++ [last]) ++ ("." ++ kind))
    file.isAbsolute ∧ PageAt root ("." ++ kind) front last file ∧
      ∃ above, file.segments = above ++ (front ++ [last ++ ("." ++ kind)]) := by
  have ends : last ∈ front ++ [last] := List.mem_append_right _ List.mem_cons_self
  have named' : ∀ name ∈ front ++ [last ++ ("." ++ kind)], IsName name := by
    intro name member
    rcases List.mem_append.mp member with inside | ends'
    · exact named name (List.mem_append_left _ inside)
    · exact List.mem_singleton.mp ends' ▸ isName_append plain (named last ends).1
  obtain ⟨absolute, shape, listed⟩ := Path.join_ofList rooted (by simp) named'
  have inner : last ≠ "" := by
    rintro rfl
    cases (named "" ends).2
  rw [Path.ofList_append]
  exact ⟨absolute, ⟨shape, inner, dotless⟩, listed⟩

theorem lookup?_names : lookup? files [root] (ofList (front ++ [last])) ("." ++ kind) =
    resolve? files (root / (ofList (front ++ [last]) ++ ("." ++ kind))) ("." ++ kind) := by
  obtain ⟨full, extension⟩ := extended_iff.mp (extended_of_names named dotless ("." ++ kind))
  have absolute := Path.absolute_of_isAbsolute files (page_of_names plain rooted named dotless).1
  rw [lookup?, List.findSome?_singleton, ← full, ← extension, absolute]

theorem found_of_names (result : lookup? files [root] (ofList (front ++ [last])) ("." ++ kind) = some found) :
    files.isFile found ∧ IsPage root ("." ++ kind) found ∧ (found = root / (ofList (front ++ [last]) ++ ("." ++ kind)) ∨
      indexFile? (root / (ofList (front ++ [last]) ++ ("." ++ kind))) ("." ++ kind) = some found ∧
        PageAt root ("." ++ kind) (front ++ [last]) "index" found) := by
  obtain ⟨absolute, page, -⟩ := page_of_names plain rooted named dotless
  rw [lookup?_names plain rooted named dotless] at result
  rcases resolve?_eq_some_iff.mp result with ⟨stands, rfl⟩ | ⟨-, indexed, stands⟩
  · exact ⟨stands, ⟨front, last, page⟩, .inl rfl⟩
  · have page' := page.indexed plain absolute indexed
    exact ⟨stands, ⟨_, _, page'⟩, .inr ⟨indexed, page'⟩⟩

/-- Where nothing idle stands at the end of a root, the index file is spelled as the first path for its key. -/
theorem indexFile?_of_tidy (tidy : root.Tidy) :
    indexFile? (root / (ofList (front ++ [last]) ++ ("." ++ kind))) ("." ++ kind) =
      some (root / (ofList (front ++ [last] ++ ["index"]) ++ ("." ++ kind))) := by
  obtain ⟨absolute, page, -⟩ := page_of_names plain rooted named dotless
  have ends : IsName last := named last (List.mem_append_right _ List.mem_cons_self)
  have indexed : IsName ("index" ++ ("." ++ kind)) := isName_append plain (by decide)
  have named' : ∀ name ∈ front ++ [last] ++ ["index" ++ ("." ++ kind)], IsName name := by
    intro name member
    rcases List.mem_append.mp member with inside | same
    · exact named name inside
    · exact List.mem_singleton.mp same ▸ indexed
  have ends' := (page.isName_full _ (List.mem_append_right _ List.mem_cons_self)).2
  -- The parent of the first path keeps all segments of the root, and the index file is spelled behind it.
  obtain ⟨above, rooted', tidy', upper⟩ := tidy.below rooted fun name member => named name (List.mem_append_left _ member)
  have listed := tidy.segments_ofList (by simp) page.isName_full
  rw [← Path.ofList_append, ← List.append_assoc, ← upper] at listed
  have under := Path.parent?_eq_some rooted' tidy' 0 ends' (by rw [listed, List.replicate_zero, List.append_nil])
  obtain ⟨lower, tidy'⟩ := tidy'.div ends
  rw [indexFile?_of_cut page.fileName? under (.short rfl)]
  refine congrArg some (Path.eq_of_segments ?_)
  rw [(tidy'.div indexed).1, lower, upper, Path.ofList_append, tidy.segments_ofList (by simp) named']
  simp

end

/-- A lookup of the key of a page finds the page, unless the path that is tried for it is too long. -/
theorem lookup?_key_iff {kind : String} (plain : IsKind kind) (rooted : root.isAbsolute) (stands : files.isFile file)
    (page : IsPage root ("." ++ kind) file) :
    (∃ found, lookup? files [root] (key [root] file) ("." ++ kind) = some found ∧ found.same file) ↔
      (root / (key [root] file ++ ("." ++ kind))).text.utf8ByteSize ≤ FileSystem.greatestPathSize := by
  obtain ⟨front, stem, page⟩ := page
  obtain ⟨absolute, first, above, listed⟩ := page_of_names plain rooted page.isName page.dotless
  rw [key_of_page plain page, lookup?_names plain rooted page.isName page.dotless]
  constructor
  · rintro ⟨found, result, same⟩
    have same : found.components = file.components := beq_iff_eq.mp same
    rcases resolve?_eq_some_iff.mp result with ⟨stands', -⟩ | ⟨-, indexed, -⟩
    · exact (FileSystem.fits_of_isFile stands').2.2
    · -- An index file lies one name deeper than what it stands for, so it is not the page.
      have deeper := (first.indexed plain absolute indexed).components
      rw [same, page.components] at deeper
      have lengths := congrArg List.length deeper
      simp at lengths
  · intro short
    have rooted' : file.isAbsolute :=
      Path.isAbsolute_of_components (by rw [page.components, Path.components_of_isAbsolute rooted, List.cons_append])
    have same := first.components.trans page.components.symm
    have ends := (page.isName_full _ (List.mem_append_right _ List.mem_cons_self)).2
    have stands' := FileSystem.isFile_of_components rooted' same short ⟨above ++ front, _, by rw [listed, List.append_assoc], ends⟩ stands
    exact ⟨_, resolve?_eq_some_iff.mpr (.inl ⟨stands', rfl⟩), beq_iff_eq.mpr same⟩

/-- A root with so many slashes to spare that no path behind it can be opened still has its index files. -/
theorem lookup?_padded {kind : String} {count : Nat} (plain : IsKind kind) (rooted : root.isAbsolute) (tidy : root.Tidy)
    (named : IsName last) (dotless : '.' ∉ last.toList) (long : FileSystem.greatestPathSize < root.text.utf8ByteSize + count)
    (stands : files.isFile (root / last / ("index" ++ ("." ++ kind)))) :
    lookup? files [root.padded count] last ("." ++ kind) = some (root / last / ("index" ++ ("." ++ kind))) := by
  have rooted' := (Path.components_padded rooted count).1
  have single : ∀ name ∈ [] ++ [last], IsName name := fun name member => List.mem_singleton.mp member ▸ named
  have first := (page_of_names plain rooted' single dotless).2.1
  have looked : lookup? files _ _ _ = _ := lookup?_names plain rooted' single dotless
  rw [List.nil_append, Path.ofList_singleton] at first looked
  have ends := isName_append plain named.1
  have under := Path.parent?_padded_div rooted tidy ends count
  rw [looked]
  refine resolve?_eq_some_iff.mpr (.inr ⟨fun short => ?_, indexFile?_of_cut first.fileName? under (.short rfl), stands⟩)
  exact Path.long_padded_div long (Path.relative_of_notMem ends.1) (FileSystem.fits_of_isFile short).2.2

/-- The key of a page leads a lookup back to the page as long as the path that spells the key behind the root is not too
long. That is so for every page that has been found by names, at these names or below a root that ends in a component. -/
theorem canonical_keys (files : FileSystem) (root : Path) (rooted : root.isAbsolute) {kind : String} (plain : IsKind kind) :
    (∀ file, files.isFile file → IsPage root ("." ++ kind) file →
      ((∃ found, lookup? files [root] (key [root] file) ("." ++ kind) = some found ∧ found.same file) ↔
        (root / (key [root] file ++ ("." ++ kind))).text.utf8ByteSize ≤ FileSystem.greatestPathSize)) ∧
    (∀ front last found, (∀ name ∈ front ++ [last], name ∉ ["", ".", ".."] ∧ '/' ∉ name.toList) → '.' ∉ last.toList →
      lookup? files [root] (ofList (front ++ [last])) ("." ++ kind) = some found →
      files.isFile found ∧ IsPage root ("." ++ kind) found ∧
        (found = root / (ofList (front ++ [last]) ++ ("." ++ kind)) ∨ root.Tidy →
          lookup? files [root] (key [root] found) ("." ++ kind) = some found)) ∧
    (∀ file other, IsPage root ("." ++ kind) file → IsPage root ("." ++ kind) other →
      key [root] file = key [root] other → file.same other) := by
  refine ⟨fun file stands page => lookup?_key_iff plain rooted stands page, ?_, fun _ _ => key_inj plain⟩
  intro front last found spelled dotless result
  have named : ∀ name ∈ front ++ [last], IsName name := by
    intro name member
    obtain ⟨other, slashless⟩ := spelled name member
    simp only [List.mem_cons, List.not_mem_nil, or_false, not_or] at other
    exact ⟨slashless, by simp [Path.segmentComponent, other]⟩
  obtain ⟨stands, page, spelling⟩ := found_of_names plain rooted named dotless result
  refine ⟨stands, page, fun either => ?_⟩
  have direct : found = root / (ofList (front ++ [last]) ++ ("." ++ kind)) →
      lookup? files [root] (key [root] found) ("." ++ kind) = some found := by
    intro same
    have first := (page_of_names plain rooted named dotless).2.1
    rw [← same] at first
    rw [key_of_page plain first, result]
  rcases spelling with same | ⟨indexed, page'⟩
  · exact direct same
  · refine either.elim direct fun tidy => ?_
    rw [indexFile?_of_tidy plain rooted named dotless tidy] at indexed
    rw [key_of_page plain page', lookup?_names plain rooted page'.isName page'.dotless, Option.some.inj indexed]
    exact resolve?_eq_some_iff.mpr (.inl ⟨stands, rfl⟩)

theorem isKind_svelte : IsKind "svelte" := ⟨by decide, by decide, by decide⟩

def indexedPage : FileSystem :=
  match FileSystem.makeDirectory default { text := "views" } with
  | .ok files =>
    let files := (files.makeDirectory { text := "views/P" }).toOption.getD files
    (files.write { text := "views/P/index.svelte" } (.text "") false).toOption.getD files
  | .error _ => default

/-- A view that is found as an index file has the key of that file. -/
theorem index_page_has_its_key :
    let root : Path := { text := "/views" }
    let file : Path := { text := "/views/P/index.svelte" }
    root.isAbsolute ∧ IsKind "svelte" ∧ lookup? indexedPage [root] "P" ("." ++ "svelte") = some file ∧
      lookup? indexedPage [root] (key [root] file) ("." ++ "svelte") = some file := by
  intro root file
  have rooted : root.isAbsolute := by decide
  have found : lookup? indexedPage [root] "P" ("." ++ "svelte") = some file := by decide +kernel
  have tidy : root.Tidy := ⟨[""], "views", .name "views", by decide, by decide⟩
  obtain ⟨-, names, -⟩ := canonical_keys indexedPage root rooted isKind_svelte
  obtain ⟨-, -, again⟩ := names [] "P" file (by decide) (by decide) found
  exact ⟨rooted, isKind_svelte, found, again (.inr tidy)⟩

/-- A view that is found behind a root with very many slashes is not found by its key, which makes too long a path. -/
theorem padded_root_loses_its_page :
    let root : Path := Path.padded { text := "/views" } 4200
    let file : Path := { text := "/views/P/index.svelte" }
    root.isAbsolute ∧ IsKind "svelte" ∧ indexedPage.isFile file ∧ IsPage root ("." ++ "svelte") file ∧
      lookup? indexedPage [root] "P" ("." ++ "svelte") = some file ∧
      ¬ ∃ found, lookup? indexedPage [root] (key [root] file) ("." ++ "svelte") = some found ∧ found.same file := by
  have rooted : Path.isAbsolute { text := "/views" } := by decide
  have tidy : Path.Tidy { text := "/views" } := ⟨[""], "views", .name "views", by decide, by decide⟩
  have named : IsName "P" := ⟨by decide, by decide⟩
  have long : FileSystem.greatestPathSize < ("/views" : String).utf8ByteSize + 4200 := by decide
  have stands : indexedPage.isFile { text := "/views/P/index.svelte" } := by decide +kernel
  have spelled : ({ text := "/views" } : Path) / "P" / ("index" ++ ("." ++ "svelte")) = { text := "/views/P/index.svelte" } := by
    decide
  have found := lookup?_padded isKind_svelte rooted tidy named (by decide) long (spelled ▸ stands)
  obtain ⟨rooted', same⟩ := Path.components_padded rooted 4200
  have page : PageAt (Path.padded { text := "/views" } 4200) ("." ++ "svelte") ["P"] "index"
      { text := "/views/P/index.svelte" } := ⟨by rw [same]; decide, by decide, by decide⟩
  rw [spelled] at found
  refine ⟨rooted', isKind_svelte, stands, ⟨_, _, page⟩, found, fun again => ?_⟩
  rw [lookup?_key_iff isKind_svelte rooted' stands ⟨_, _, page⟩, key_of_page isKind_svelte page] at again
  exact Path.long_padded_div long (by decide) again

end View
end ComponentViews
