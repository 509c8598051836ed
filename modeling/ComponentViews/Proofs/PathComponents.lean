import ComponentViews.Proofs.FileReach
import Mathlib.Data.List.Basic
import Mathlib.Data.List.Induction

/-! The components of joined paths and of parents, where components lead when each `..` is
resolved by the text alone, and what of a path's text its components tell. -/

namespace ComponentViews.Path
open FileTree

variable {base path parent : Path}

/-- The components that a path adds behind a directory. -/
def steps (path : Path) : List Component := path.segments.filterMap segmentComponent

theorem segmentComponent_spelled {segment : String} {component : Component} (found : segmentComponent segment = some component) :
    component = .up ∨ component = .name segment := by
  unfold segmentComponent at found
  grind

theorem steps_spelled (path : Path) : ∀ component ∈ path.steps, component = .up ∨ ∃ value, component = .name value := by
  intro component member
  obtain ⟨segment, -, found⟩ := List.mem_filterMap.mp member
  exact (segmentComponent_spelled found).imp_right fun named => ⟨segment, named⟩

theorem components_of_isAbsolute (rooted : path.isAbsolute) : path.components = .root :: path.steps := by
  simp [components, rooted, steps]

theorem absolute_of_isAbsolute (files : FileSystem) (rooted : path.isAbsolute) : files.absolute path = path := by
  simp [FileSystem.absolute, rooted]

theorem components_of_relative (relative : path.isAbsolute = false) : path.components = ofSegments path.segments := by
  simp [components, relative]

/-- A relative path behind another one, by the segments of both. -/
theorem segments_join (base : Path) (relative : path.isAbsolute = false) :
    base.text = "" ∧ base.join path = path ∨
      ∃ front, front ≠ [] ∧ (base.segments = front ∨ base.segments = front ++ [""]) ∧
        (base.join path).segments = front ++ path.segments ∧ (base.join path).isAbsolute = base.isAbsolute := by
  by_cases empty : base.text = ""
  · exact .inl ⟨empty, by simp [join, relative, empty]⟩
  right
  have inner : base.text.toList ≠ [] := by simpa using empty
  obtain ⟨c, rest, head⟩ := List.exists_cons_of_ne_nil inner
  by_cases ended : base.text.toList.getLast? = some '/'
  · obtain ⟨front, shape⟩ := List.getLast?_eq_some_iff.mp ended
    have joined : (base.join path).text = base.text ++ path.text := by simp [join, relative, ended]
    refine ⟨(splitSlashes front).map String.ofList, by simp [splitSlashes_ne_nil], .inr ?_, ?_, ?_⟩
    · rw [segments, shape, splitSlashes_append_slash]
      simp [splitSlashes]
    · rw [segments, joined, String.toList_append, shape, List.append_assoc, List.singleton_append,
        splitSlashes_append_slash, List.map_append]
      rfl
    · simp [isAbsolute, joined, head]
  · have joined : (base.join path).text = base.text ++ "/" ++ path.text := by simp [join, relative, ended, empty]
    refine ⟨base.segments, by simp [segments, splitSlashes_ne_nil], .inl rfl, ?_, ?_⟩
    · simp [segments, joined, splitSlashes_append_slash]
    · simp [isAbsolute, joined, head]

theorem isAbsolute_join (rooted : base.isAbsolute) (relative : path.isAbsolute = false) : (base.join path).isAbsolute := by
  rcases segments_join base relative with ⟨empty, -⟩ | ⟨front, -, -, -, same⟩
  · simp [isAbsolute, empty] at rooted
  · rw [same, rooted]

theorem steps_join (relative : path.isAbsolute = false) : (base.join path).steps = base.steps ++ path.steps := by
  rcases segments_join base relative with ⟨empty, same⟩ | ⟨front, -, before, after, -⟩
  · have blank : base.steps = [] := by simp [steps, segments, empty, splitSlashes, segmentComponent]
    rw [same, blank, List.nil_append]
  · have front_steps : base.steps = front.filterMap segmentComponent := by
      rcases before with shape | shape <;> simp [steps, shape, segmentComponent]
    rw [front_steps, steps, steps, after, List.filterMap_append]

theorem components_join (rooted : base.isAbsolute) (relative : path.isAbsolute = false) :
    (base.join path).components = base.components ++ path.steps := by
  rw [components_of_isAbsolute (isAbsolute_join rooted relative), components_of_isAbsolute rooted, steps_join relative,
    List.cons_append]

theorem relative_of_notMem {text : String} (plain : '/' ∉ text.toList) : ({ text } : Path).isAbsolute = false := by
  cases shape : text.toList with
  | nil => simp [isAbsolute, shape]
  | cons c rest =>
    simp only [shape, List.mem_cons, not_or] at plain
    simp [isAbsolute, shape, Ne.symm plain.1]

theorem steps_of_notMem {text : String} (plain : '/' ∉ text.toList) :
    ({ text } : Path).steps = (segmentComponent text).toList := by
  have single : ({ text } : Path).segments = [text] := by simp [segments, splitSlashes_of_notMem plain]
  rw [steps, single]
  cases found : segmentComponent text <;> simp [found]

theorem steps_of_validName {name : String} (valid : ValidName name) : ({ text := name } : Path).steps = [.name name] := by
  rw [steps_of_notMem valid.2.2.2.1, segmentComponent_of_validName valid]
  rfl

/-- Names joined by slashes are a relative path of just these names. -/
theorem steps_ofList {names : List String} (inner : names ≠ [])
    (named : ∀ name ∈ names, '/' ∉ name.toList ∧ segmentComponent name = some (.name name)) :
    ({ text := ofList names } : Path).isAbsolute = false ∧ ({ text := ofList names } : Path).steps = names.map .name := by
  have segments : ({ text := ofList names } : Path).segments = names :=
    segments_ofList (fun name member => (named name member).1) inner
  constructor
  · refine Bool.eq_false_iff.mpr fun rooted => ?_
    obtain ⟨rest, shape, -⟩ := (isAbsolute_iff _).mp rooted
    have blank := (named "" (by rw [← segments, shape]; exact List.mem_cons_self)).2
    cases blank
  · rw [steps, segments, ← List.filterMap_eq_map]
    exact List.filterMap_congr fun name member => (named name member).2

theorem ofSegments_append {front : List String} (inner : front ≠ []) (segments : List String) :
    ofSegments (front ++ segments) = ofSegments front ++ segments.filterMap segmentComponent := by
  obtain ⟨first, rest, rfl⟩ := List.exists_cons_of_ne_nil inner
  by_cases here : first = "."
  · subst here
    simp [ofSegments]
  · simp only [List.cons_append, ofSegments.eq_2 _ fun rest same => here (List.cons.inj same).1, ← List.filterMap_append]

/-- A name behind a path is one more component. -/
theorem components_div {name : String} (valid : ValidName name) :
    (base / name).components = base.components ++ [.name name] := by
  have relative := relative_of_notMem valid.2.2.2.1
  change (base.join { text := name }).components = _
  by_cases rooted : base.isAbsolute
  · rw [components_join rooted relative, steps_of_validName valid]
  have unrooted : base.isAbsolute = false := by simpa using rooted
  have single : ({ text := name } : Path).segments = [name] := by simp [segments, splitSlashes_of_notMem valid.2.2.2.1]
  have component := segmentComponent_of_validName valid
  rcases segments_join base relative with ⟨empty, same⟩ | ⟨front, inner, before, after, kept⟩
  · have blank : base.components = [] := by
      simp [components, isAbsolute, empty, segments, splitSlashes, ofSegments, segmentComponent]
    rw [same, blank, components_of_relative relative, single, List.nil_append]
    simp [ofSegments, component, valid.2.1]
  · rw [components_of_relative (kept.trans unrooted), after, single, ofSegments_append inner, components_of_relative unrooted]
    rcases before with shape | shape
    · simp [shape, component]
    · rw [shape, ofSegments_append inner]
      simp [component, show segmentComponent "" = none from rfl]

theorem fileName?_eq_some_iff {last : String} :
    path.fileName? = some last ↔ ∃ above, path.components = above ++ [.name last] := by
  unfold fileName?
  constructor
  · intro named
    split at named
    next value ends =>
      cases named
      exact List.getLast?_eq_some_iff.mp ends
    next => cases named
  · rintro ⟨above, shape⟩
    simp [shape]

theorem notMem_of_mem_components {value : String} (member : .name value ∈ path.components) :
    '/' ∉ value.toList := by
  have spelled : ∀ segment, segmentComponent segment = some (.name value) → segment = value := by
    intro segment named
    unfold segmentComponent at named
    grind
  have inside : value ∈ path.segments := by
    have within : ∀ segments : List String, .name value ∈ segments.filterMap segmentComponent → value ∈ segments := by
      intro segments member
      obtain ⟨segment, listed, named⟩ := List.mem_filterMap.mp member
      exact spelled segment named ▸ listed
    unfold components at member
    split at member
    · exact within _ (by simpa using member)
    · unfold ofSegments at member
      split at member
      next rest shape => rw [shape]; exact .tail _ (within rest (by simpa using member))
      next => exact within _ member
  exact notMem_of_mem_segments inside

/-- The parts of a list of segments up to its last component. -/
theorem trimEnd_eq (segments : List String) :
    (trimEnd segments).filterMap segmentComponent = segments.filterMap segmentComponent ∧
      (trimEnd segments = [] ∨ ∃ front last component, trimEnd segments = front ++ [last] ∧
        segmentComponent last = some component) := by
  induction segments using List.reverseRecOn with
  | nil => exact ⟨rfl, .inl rfl⟩
  | append_singleton front last ih =>
    cases found : segmentComponent last with
    | none =>
      have same : trimEnd (front ++ [last]) = trimEnd front := by simp [trimEnd, found]
      rw [same, List.filterMap_append]
      simpa [found] using ih
    | some component =>
      have same : trimEnd (front ++ [last]) = front ++ [last] := by simp [trimEnd, found]
      exact ⟨by rw [same], .inr ⟨front, last, component, same, found⟩⟩

/-- The parent of an absolute path lacks its last component. -/
theorem components_parent (rooted : path.isAbsolute) (found : path.parent? = some parent) :
    parent.isAbsolute ∧ parent.components = path.components.dropLast := by
  obtain ⟨rest, shape, inner⟩ := path.isAbsolute_iff.mp rooted
  have rooted' : parent.isAbsolute := (parent?_segments found).1.trans rooted
  refine ⟨rooted', ?_⟩
  obtain ⟨kept, last⟩ := trimEnd_eq rest
  simp only [parent?, rooted, if_true, shape, List.drop_one, List.tail_cons] at found
  rcases last with empty | ⟨front, last, component, trimmed, named⟩
  · simp [empty] at found
  have upper : trimEnd (trimEnd rest).dropLast = trimEnd front := by rw [trimmed, List.dropLast_concat]
  have spelled : parent = { text := "/" ++ ofList (trimEnd front) } := by
    rw [← upper]
    split at found
    · cases found
    · exact (Option.some.inj found).symm
  have plain : ∀ segment ∈ trimEnd front, '/' ∉ segment.toList := by
    intro segment member
    have inside : segment ∈ trimEnd rest := trimmed ▸ List.mem_append_left _ ((trimEnd_initial front).subset member)
    have listed : segment ∈ path.segments := by rw [shape]; exact .tail _ ((trimEnd_initial rest).subset inside)
    exact notMem_of_mem_segments listed
  have above : parent.steps = front.filterMap segmentComponent := by
    rw [steps, spelled, segments_slash, ← (trimEnd_eq front).1]
    rcases segments_ofList_or plain with same | ⟨empty, blank⟩
    · rw [same]; rfl
    · rw [blank, empty]; rfl
  have below : path.steps = parent.steps ++ [component] := by
    rw [above, steps, shape, List.filterMap_cons_none (by rfl), ← kept, trimmed]
    simp [named]
  rw [components_of_isAbsolute rooted', components_of_isAbsolute rooted, below, ← List.cons_append, List.dropLast_concat]

theorem exists_parent {last : String} (named : path.fileName? = some last) : ∃ parent, path.parent? = some parent := by
  obtain ⟨above, shape⟩ := fileName?_eq_some_iff.mp named
  have kept : ∀ segments : List String, segments.filterMap segmentComponent ≠ [] → trimEnd segments ≠ [] := by
    intro segments inner empty
    rw [← (trimEnd_eq segments).1, empty] at inner
    exact inner rfl
  unfold parent?
  split
  next rooted =>
    obtain ⟨rest, listed, -⟩ := path.isAbsolute_iff.mp rooted
    have inner : rest.filterMap segmentComponent ≠ [] := by
      intro empty
      rw [components_of_isAbsolute rooted, steps, listed, List.filterMap_cons_none (by rfl), empty] at shape
      cases above <;> simp at shape
    rw [listed, List.drop_one, List.tail_cons]
    split
    next empty => exact absurd empty (kept rest inner)
    next => exact ⟨_, rfl⟩
  next relative =>
    have inner : trimRelative path.segments ≠ [] := by
      rw [components_of_relative (by simpa using relative)] at shape
      unfold ofSegments at shape
      split at shape
      next rest listed => simp [trimRelative, listed]
      next other =>
        rw [trimRelative.eq_2 _ other]
        exact kept _ (by simp [shape])
    split
    next empty => exact absurd empty inner
    next => exact ⟨_, rfl⟩

/-- A step from a location. -/
def turn (location : Location) : Component → Location
  | .up => location.dropLast
  | .name value => location ++ [value]
  | .root => location
  | .here => location

/-- Where components lead from a location by their text alone. -/
def walk (start : Location) (components : List Component) : Location := components.foldl turn start

/-- The names that are left of an absolute path once its `.` and `..` are resolved. -/
def resolved (path : Path) : Location := walk [] path.components

theorem walk_cons (start : Location) (component : Component) (rest : List Component) :
    walk start (component :: rest) = walk (turn start component) rest := rfl

theorem walk_append (start : Location) (first second : List Component) :
    walk start (first ++ second) = walk (walk start first) second := List.foldl_append

theorem walk_concat_name (start : Location) (above : List Component) (value : String) :
    walk start (above ++ [.name value]) = walk start above ++ [value] := by
  rw [walk_append]
  rfl

theorem walk_names (start : Location) (names : List String) : walk start (names.map .name) = start ++ names := by
  induction names generalizing start with
  | nil => simp [walk]
  | cons name names ih => rw [List.map_cons, walk_cons, turn, ih, List.append_assoc, List.singleton_append]

theorem resolve_eq_walk (start : Location) (segments : List String) :
    FileSystem.resolve start segments = walk start (segments.filterMap segmentComponent) := by
  induction segments generalizing start with
  | nil => rfl
  | cons segment rest ih =>
    by_cases stays : segment = "" ∨ segment = "."
    · simp [FileSystem.resolve, segmentComponent, stays, ih]
    · by_cases above : segment = ".."
      · subst above
        simpa [FileSystem.resolve, segmentComponent, walk, turn] using ih start.dropLast
      · simpa [FileSystem.resolve, segmentComponent, walk, turn, stays, above] using ih (start ++ [segment])

/-- A relative path leads on from where the path before it leads. -/
theorem home_join (files : FileSystem) (relative : path.isAbsolute = false) :
    files.home (base.join path) = walk (files.home base) path.steps := by
  rcases segments_join base relative with ⟨empty, same⟩ | ⟨front, -, before, after, kept⟩
  · have start : files.home base = (files.base path).location := by
      simp [FileSystem.home, FileSystem.base, isAbsolute, empty, segments, splitSlashes, FileSystem.resolve, ← relative]
    rw [same, start, FileSystem.home, resolve_eq_walk, steps]
  · have start : files.base (base.join path) = files.base base := by simp only [FileSystem.base, kept]
    have led : walk (files.base base).location (front.filterMap segmentComponent) = files.home base := by
      rw [FileSystem.home, resolve_eq_walk]
      rcases before with shape | shape <;> simp [shape, segmentComponent]
    rw [FileSystem.home, start, after, resolve_eq_walk, List.filterMap_append, walk_append, led, steps]

/-- A name behind a path leads to that name where the path leads. -/
theorem home_div (files : FileSystem) {name : String} (valid : ValidName name) :
    files.home (base / name) = files.home base ++ [name] := by
  have joined : files.home (base.join { text := name }) = _ := home_join files (relative_of_notMem valid.2.2.2.1)
  rw [steps_of_validName valid] at joined
  exact joined

/-- One component further, with the height climbed and the names gone down by so far. -/
def bend : Nat × Location → Component → Nat × Location
  | (height, names), .name value => (height, names ++ [value])
  | (height, []), .up => (height + 1, [])
  | (height, names), .up => (height, names.dropLast)
  | course, _ => course

/-- How far components climb above where they start, and the names that they lead down by from there. -/
def course (components : List Component) : Nat × Location := components.foldl bend (0, [])

theorem turn_bend (start : Location) (course : Nat × Location) (component : Component) :
    turn (start.take (start.length - course.1) ++ course.2) component =
      start.take (start.length - (bend course component).1) ++ (bend course component).2 := by
  obtain ⟨height, names⟩ := course
  cases component with
  | root => rfl
  | here => rfl
  | name value => simp [turn, bend]
  | up =>
    cases names with
    | nil =>
      simp only [turn, bend, List.append_nil, List.dropLast_eq_take, List.take_take, List.length_take]
      congr 1
      omega
    | cons name names =>
      simp only [turn, bend]
      exact List.dropLast_append_of_ne_nil (by simp)

/-- Components lead up by their height and then down by their names. -/
theorem walk_eq_course (start : Location) (components : List Component) :
    walk start components = start.take (start.length - (course components).1) ++ (course components).2 := by
  have goes : ∀ reached, walk (start.take (start.length - reached.1) ++ reached.2) components =
      start.take (start.length - (components.foldl bend reached).1) ++ (components.foldl bend reached).2 := by
    induction components with
    | nil => exact fun _ => rfl
    | cons component rest ih =>
      intro reached
      rw [List.foldl_cons, ← ih, ← turn_bend]
      rfl
  simpa [course] using goes (0, [])

section
variable {left right : Path} {c : Char}

/-- In front of its steps a path has at most one component, which says where it starts. -/
theorem components_eq (path : Path) :
    ∃ front, (front = [] ∨ front = [.root] ∨ front = [.here]) ∧ path.components = front ++ path.steps := by
  by_cases rooted : path.isAbsolute
  · exact ⟨[.root], .inr (.inl rfl), components_of_isAbsolute rooted⟩
  have relative : path.isAbsolute = false := by simpa using rooted
  rw [components_of_relative relative]
  unfold ofSegments
  split
  next rest shape =>
    refine ⟨[.here], .inr (.inr rfl), ?_⟩
    rw [steps, shape]
    rfl
  next => exact ⟨[], .inl rfl, rfl⟩

theorem name_mem_components_iff {value : String} :
    .name value ∈ path.components ↔ value ∈ path.segments ∧ segmentComponent value = some (.name value) := by
  have stepwise : .name value ∈ path.components ↔ .name value ∈ path.steps := by
    obtain ⟨front, start, shape⟩ := path.components_eq
    rw [shape, List.mem_append]
    rcases start with rfl | rfl | rfl <;> simp
  rw [stepwise, steps, List.mem_filterMap]
  constructor
  · rintro ⟨segment, listed, found⟩
    have same : value = segment := by
      rcases segmentComponent_spelled found with up | named
      · cases up
      · exact Component.name.inj named
    subst same
    exact ⟨listed, found⟩
  · rintro ⟨listed, found⟩
    exact ⟨value, listed, found⟩

theorem segmentComponent_of_mem {segment : String} (inside : c ∈ segment.toList) (dot : c ≠ '.') :
    segmentComponent segment = some (.name segment) := by
  have visible : ∀ special : String, c ∉ special.toList → segment ≠ special := by
    rintro special absent rfl
    exact absent inside
  have blank := visible "" (by simp)
  have here := visible "." (by simpa using dot)
  have up := visible ".." (by simpa using dot)
  simp [segmentComponent, blank, here, up]

theorem mem_splitSlashes_iff {text : List Char} (other : c ≠ '/') : (∃ segment ∈ splitSlashes text, c ∈ segment) ↔ c ∈ text := by
  induction text with
  | nil => simp [splitSlashes]
  | cons first rest ih =>
    rw [List.mem_cons, ← ih]
    by_cases slash : first = '/'
    · simp [splitSlashes, slash, other]
    · obtain ⟨segment, segments, shape⟩ := List.exists_cons_of_ne_nil (splitSlashes_ne_nil rest)
      simp [splitSlashes, slash, shape, or_assoc]

/-- All characters of a path but its slashes and dots stand in its names. -/
theorem mem_text_iff (slash : c ≠ '/') (dot : c ≠ '.') :
    c ∈ path.text.toList ↔ ∃ value, .name value ∈ path.components ∧ c ∈ value.toList := by
  rw [← mem_splitSlashes_iff slash]
  constructor
  · rintro ⟨segment, listed, inside⟩
    have named : segmentComponent (String.ofList segment) = some (.name (String.ofList segment)) :=
      segmentComponent_of_mem (by simpa using inside) dot
    refine ⟨String.ofList segment, name_mem_components_iff.mpr ⟨List.mem_map_of_mem listed, named⟩, ?_⟩
    simpa using inside
  · rintro ⟨value, member, inside⟩
    obtain ⟨segment, listed, rfl⟩ := List.mem_map.mp (name_mem_components_iff.mp member).1
    exact ⟨segment, listed, by simpa using inside⟩

theorem mem_text_congr (same : left.components = right.components) (slash : c ≠ '/') (dot : c ≠ '.') :
    c ∈ left.text.toList ↔ c ∈ right.text.toList := by
  rw [mem_text_iff slash dot, mem_text_iff slash dot, same]

end

end ComponentViews.Path
