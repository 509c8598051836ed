import ComponentViews.Proofs.ViewKeys
import ComponentViews.Proofs.WalkOrder

/-! Two rules that take the extension off. A key is cut at the place of its last dot behind its last slash, a file's name
is split from the right. Both go by bytes, and no byte of a character that takes several is a dot or a slash. -/

namespace ComponentViews

/-- A byte of a character that takes several is none that a character takes alone. -/
theorem mem_utf8EncodeChar {c : Char} (short : c.toNat < 128) (d : Char) :
    c.toUInt8 ∈ String.utf8EncodeChar d ↔ d = c := by
  have bound := toNat_val_lt d
  have short : c.val.toNat < 128 := short
  have same : d = c ↔ d.val.toNat = c.val.toNat := by rw [Char.ext_iff, ← UInt32.toNat_inj]
  have byte : c.toUInt8.toNat = c.val.toNat % 256 := UInt32.toNat_toUInt8 c.val
  rw [same]
  simp only [String.utf8EncodeChar]
  repeat' split
  all_goals
    simp (disch := omega) only [List.mem_cons, List.not_mem_nil, or_false, ← UInt8.toNat_inj, byte, UInt8.toNat_ofNat',
      Nat.mod_eq_of_lt]
    omega

theorem mem_bytesOf {c : Char} (short : c.toNat < 128) {text : String} : c.toUInt8 ∈ bytesOf text ↔ c ∈ text.toList := by
  simp [bytesOf_eq, mem_utf8EncodeChar short]

theorem bytesOf_append (first second : String) : bytesOf (first ++ second) = bytesOf first ++ bytesOf second := by
  simp [bytesOf_eq]

namespace Path

def slashByte : UInt8 := Char.toUInt8 '/'

def dotByte : UInt8 := Char.toUInt8 '.'

/-- Where a byte occurs last. -/
def lastPlace? (byte : UInt8) : List UInt8 → Option Nat
  | [] => none
  | b :: rest =>
    match lastPlace? byte rest with
    | some place => some (place + 1)
    | none => if b = byte then some 0 else none

/-- A key up to its last dot behind its last slash, and all of it where that dot comes right behind the slash. -/
def cutKey (key : List UInt8) : List UInt8 :=
  let start := match lastPlace? slashByte key with | some place => place + 1 | none => 0
  match lastPlace? dotByte (key.drop start) with
  | some place => if 0 < place then key.take (start + place) else key
  | none => key

/-- A text split once from its end: what comes behind a byte, and what comes in front if the byte is there. -/
def splitRight (byte : UInt8) (bytes : List UInt8) : List UInt8 × Option (List UInt8) :=
  ((bytes.reverse.takeWhile (· ≠ byte)).reverse, (bytes.reverse.dropWhile (· ≠ byte)).tail?.map List.reverse)

/-- The stem of a file's name, of which a dot at the start takes nothing away. -/
def fileStem (name : List UInt8) : List UInt8 :=
  if name = [dotByte, dotByte] then name
  else match splitRight dotByte name with
    | (_, some []) => name
    | (behind, front) => front.getD behind

/-- What both rules leave of a name: what is in front of its last dot, or all of it where no dot has anything in front. -/
inductive Stems (name stem : List UInt8) : Prop
  | cut (kind : List UInt8) (shape : name = stem ++ dotByte :: kind) (inner : stem ≠ []) (plain : dotByte ∉ kind)
  | whole (same : stem = name) (plain : dotByte ∉ name.tail)

theorem lastPlace?_eq_none {byte : UInt8} {bytes : List UInt8} (plain : byte ∉ bytes) : lastPlace? byte bytes = none := by
  induction bytes with
  | nil => rfl
  | cons b rest ih =>
    simp only [List.mem_cons, not_or] at plain
    simp [lastPlace?, ih plain.2, Ne.symm plain.1]

theorem lastPlace?_append {byte : UInt8} {behind : List UInt8} (plain : byte ∉ behind) (front : List UInt8) :
    lastPlace? byte (front ++ byte :: behind) = some front.length := by
  induction front with
  | nil => simp [lastPlace?, lastPlace?_eq_none plain]
  | cons b front ih => simp [lastPlace?, ih]

theorem exists_last {byte : UInt8} {bytes : List UInt8} (member : byte ∈ bytes) :
    ∃ front behind, bytes = front ++ byte :: behind ∧ byte ∉ behind := by
  obtain ⟨front, behind, shape, plain⟩ := List.eq_append_cons_of_mem (List.mem_reverse.mpr member)
  exact ⟨behind.reverse, front.reverse, by simpa using congrArg List.reverse shape, by simpa using plain⟩

theorem mem_tail_of_append {byte : UInt8} {front : List UInt8} (inner : front ≠ []) (behind : List UInt8) :
    byte ∈ (front ++ byte :: behind).tail := by
  obtain ⟨first, rest, rfl⟩ := List.exists_cons_of_ne_nil inner
  simp

theorem Stems.unique {name stem stem' : List UInt8} (first : Stems name stem) (second : Stems name stem') : stem = stem' := by
  cases first with
  | whole same plain =>
    cases second with
    | whole same' => rw [same, same']
    | cut kind shape inner => exact absurd (shape ▸ mem_tail_of_append inner kind) plain
  | cut kind shape inner plain =>
    cases second with
    | whole same' plain' => exact absurd (shape ▸ mem_tail_of_append inner kind) plain'
    | cut kind' shape' inner' plain' =>
      have place := lastPlace?_append plain stem
      rw [← shape, shape', lastPlace?_append plain', Option.some_inj] at place
      exact (List.append_inj (shape.symm.trans shape') place.symm).1

theorem ne_of_notMem {byte : UInt8} {bytes : List UInt8} (plain : byte ∉ bytes) :
    ∀ b ∈ bytes.reverse, decide (b ≠ byte) = true :=
  fun _ member => decide_eq_true fun same => plain (same ▸ List.mem_reverse.mp member)

theorem splitRight_of_notMem {byte : UInt8} {bytes : List UInt8} (plain : byte ∉ bytes) :
    splitRight byte bytes = (bytes, none) := by
  have others := ne_of_notMem plain
  rw [splitRight, List.takeWhile_eq_self_iff.mpr others, List.dropWhile_eq_nil_iff.mpr others]
  simp

theorem splitRight_append {byte : UInt8} {behind : List UInt8} (plain : byte ∉ behind) (front : List UInt8) :
    splitRight byte (front ++ byte :: behind) = (behind, some front) := by
  have others := ne_of_notMem plain
  have turned : (front ++ byte :: behind).reverse = behind.reverse ++ byte :: front.reverse := by simp
  rw [splitRight, turned, List.takeWhile_append_of_pos others, List.dropWhile_append_of_pos others]
  simp

/-- The last dot of a name, if there is one, and what a stem then is. -/
theorem dots_cases (name : List UInt8) : dotByte ∉ name ∨ (∃ kind, name = dotByte :: kind ∧ dotByte ∉ kind) ∨
    ∃ stem kind, name = stem ++ dotByte :: kind ∧ stem ≠ [] ∧ dotByte ∉ kind := by
  by_cases member : dotByte ∈ name
  · obtain ⟨stem, kind, rfl, plain⟩ := exists_last member
    by_cases inner : stem = []
    · exact .inr (.inl ⟨kind, by rw [inner, List.nil_append], plain⟩)
    · exact .inr (.inr ⟨stem, kind, rfl, inner, plain⟩)
  · exact .inl member

theorem stems_fileStem {name : List UInt8} (up : name ≠ [dotByte, dotByte]) : Stems name (fileStem name) := by
  rw [fileStem, if_neg up]
  rcases dots_cases name with plain | ⟨kind, rfl, plain⟩ | ⟨stem, kind, rfl, inner, plain⟩
  · rw [splitRight_of_notMem plain]
    exact .whole rfl fun member => plain (List.mem_of_mem_tail member)
  · have split := splitRight_append plain []
    rw [List.nil_append] at split
    rw [split]
    exact .whole rfl plain
  · rw [splitRight_append plain]
    cases stem with
    | nil => exact absurd rfl inner
    | cons b stem => exact .cut kind rfl inner plain

theorem exists_stems_cutKey {front name : List UInt8} (leads : front = [] ∨ ∃ directory, front = directory ++ [slashByte])
    (flat : slashByte ∉ name) : ∃ stem, Stems name stem ∧ cutKey (front ++ name) = front ++ stem := by
  have start : (match lastPlace? slashByte (front ++ name) with | some place => place + 1 | none => 0) = front.length := by
    rcases leads with rfl | ⟨directory, rfl⟩
    · simp [lastPlace?_eq_none flat]
    · simp [lastPlace?_append flat]
  simp only [cutKey, start, List.drop_left]
  rcases dots_cases name with plain | ⟨kind, rfl, plain⟩ | ⟨stem, kind, rfl, inner, plain⟩
  · refine ⟨name, .whole rfl fun member => plain (List.mem_of_mem_tail member), ?_⟩
    rw [lastPlace?_eq_none plain]
  · have place := lastPlace?_append plain []
    rw [List.nil_append] at place
    refine ⟨_, .whole rfl plain, ?_⟩
    rw [place]
    simp
  · refine ⟨stem, .cut kind rfl inner plain, ?_⟩
    have ahead : 0 < stem.length := List.length_pos_of_ne_nil inner
    rw [lastPlace?_append plain]
    simp [ahead, List.take_append, List.take_of_length_le]

theorem dotByte_mem_iff {text : String} : dotByte ∈ bytesOf text ↔ '.' ∈ text.toList := mem_bytesOf (by decide)

theorem slashByte_mem_iff {text : String} : slashByte ∈ bytesOf text ↔ '/' ∈ text.toList := mem_bytesOf (by decide)

theorem bytesOf_dot (text : String) : bytesOf ("." ++ text) = dotByte :: bytesOf text := bytesOf_append "." text

theorem stems_splitName (name : String) : Stems (bytesOf name) (bytesOf (splitName name).1) := by
  unfold splitName
  split
  next c before after found =>
    obtain ⟨spelled, plain⟩ := splitLastDot_eq_some_iff.mp found
    refine .cut (bytesOf (String.ofList after)) ?_ ?_ ?_
    · rw [← bytesOf_dot, ← bytesOf_append, bytesOf_inj, ← String.toList_inj, spelled]
      simp
    · simp [bytesOf_eq]
    · rwa [dotByte_mem_iff, String.toList_ofList]
  next other =>
    refine .whole rfl fun member => ?_
    cases found : splitLastDot name.toList with
    | none => exact splitLastDot_eq_none_iff.mp found (dotByte_mem_iff.mp (List.mem_of_mem_tail member))
    | some parts =>
      obtain ⟨before, after⟩ := parts
      obtain ⟨spelled, plain⟩ := splitLastDot_eq_some_iff.mp found
      cases before with
      | cons c before => exact other c before after found
      | nil =>
        have shape : name = "." ++ String.ofList after := String.toList_inj.mp (by simp [spelled])
        rw [shape, bytesOf_dot, List.tail_cons, dotByte_mem_iff, String.toList_ofList] at member
        exact plain member

/-- A text in front of a name: nothing, or a directory with its slash. -/
def Leads (front : String) : Prop := front = "" ∨ ∃ directory, front = directory ++ "/"

variable {front name : String} {path : Path} {names : List String}

theorem exists_leads (names : List String) : ∃ front, Leads front ∧ ∀ name, ofList (names ++ [name]) = front ++ name :=
  ⟨if names.isEmpty then "" else ofList names ++ "/", by unfold Leads; split <;> simp, ofList_concat names⟩

theorem Leads.segments (leads : Leads front) (plain : '/' ∉ name.toList) : ∃ names,
    ({ text := front ++ name } : Path).segments = names ++ [name] ∧ ∀ last, ofList (names ++ [last]) = front ++ last := by
  rcases leads with rfl | ⟨directory, rfl⟩
  · exact ⟨[], by simp [Path.segments, splitSlashes_of_notMem plain], by simp [ofList]⟩
  · refine ⟨({ text := directory } : Path).segments, ?_, fun last => ?_⟩
    · simp [Path.segments, splitSlashes_append_slash, splitSlashes_of_notMem plain]
    · rw [ofList_concat, ofList_segments]
      simp [Path.segments, splitSlashes_ne_nil]

theorem exists_leads_append (key : String) : ∃ front name, Leads front ∧ '/' ∉ name.toList ∧ key = front ++ name := by
  rcases List.eq_nil_or_concat ({ text := key } : Path).segments with empty | ⟨names, name, shape⟩
  · simp [Path.segments, splitSlashes_ne_nil] at empty
  · rw [List.concat_eq_append] at shape
    obtain ⟨front, leads, spelled⟩ := exists_leads names
    refine ⟨front, name, leads, notMem_of_mem_segments (shape ▸ List.mem_append_right _ List.mem_cons_self), ?_⟩
    rw [← spelled, ← shape, ofList_segments]

theorem stripExtension_append (leads : Leads front) (plain : '/' ∉ name.toList) :
    stripExtension (front ++ name) = front ++ (splitName name).1 := by
  obtain ⟨names, shape, spelled⟩ := leads.segments plain
  rw [stripExtension_of_segments shape, spelled]

theorem Leads.bytesOf (leads : Leads front) :
    bytesOf front = [] ∨ ∃ directory, bytesOf front = directory ++ [slashByte] := by
  rcases leads with rfl | ⟨directory, rfl⟩
  · exact .inl rfl
  · exact .inr ⟨_, bytesOf_append directory "/"⟩

/-- Every key is cut where its bytes are, so that a cut never falls inside a character. -/
theorem bytesOf_stripExtension (key : String) : bytesOf (stripExtension key) = cutKey (bytesOf key) := by
  obtain ⟨front, name, leads, plain, rfl⟩ := exists_leads_append key
  obtain ⟨stem, stems, cut⟩ := exists_stems_cutKey leads.bytesOf (mt slashByte_mem_iff.mp plain)
  rw [stripExtension_append leads plain, bytesOf_append, bytesOf_append, cut, stems.unique (stems_splitName name)]

theorem bytesOf_stem (up : name ≠ "..") : bytesOf (splitName name).1 = fileStem (bytesOf name) :=
  (stems_splitName name).unique (stems_fileStem fun same => up (bytesOf_inj.mp same))

theorem exists_slashed {components above start : List Component}
    (shape : above ++ [.name name] = start ++ components) :
    components = [] ∨ ∃ directory, Leads directory ∧ slashed components = directory ++ name := by
  rcases List.eq_nil_or_concat components with empty | ⟨inner, last, rfl⟩
  · exact .inl empty
  · rw [List.concat_eq_append, ← List.append_assoc] at shape
    obtain ⟨-, same⟩ := List.append_inj' shape rfl
    obtain ⟨directory, leads, spelled⟩ := exists_leads (namesOf inner)
    refine .inr ⟨directory, leads, ?_⟩
    rw [← spelled, List.concat_eq_append, ← same, slashed]
    exact congrArg ofList (namesOf_append ..)

end Path

namespace View
open Path (Leads stripExtension splitName slashed fileStem cutKey)

variable {front name : String} {path : Path}

/-- A key keeps the directories below a root, and just a root itself has none. -/
theorem key_of_below {above components : List Path.Component} (shape : path.components = above ++ [.name name])
    (plain : '/' ∉ name.toList) {roots : List Path}
    (inside : (roots.findSome? fun root => path.below? root) = some components) :
    components = [] ∧ key roots path = "" ∨ ∃ directory, Leads directory ∧ slashed components = directory ++ name ∧
      key roots path = directory ++ (splitName name).1 := by
  have keyed : key roots path = stripExtension (slashed components) := by rw [key, inside]
  obtain ⟨root, -, below⟩ := List.exists_of_findSome?_eq_some inside
  rw [Path.below?, Path.dropStart?_eq_some_iff, shape] at below
  rcases Path.exists_slashed below with rfl | ⟨directory, leads, spelled⟩
  · exact .inl ⟨rfl, keyed⟩
  · exact .inr ⟨directory, leads, spelled, by rw [keyed, spelled, Path.stripExtension_append leads plain]⟩

/-- Both rules leave the same of a name that a directory can hold, whatever stands in front of it: the key is cut where the
name is split, byte by byte. So a key loses the same in a root and outside all of them. -/
theorem stripExtension_eq_stem (leads : Leads front) (inner : name ≠ "") (here : name ≠ ".") (up : name ≠ "..")
    (plain : '/' ∉ name.toList) : let path : Path := { text := front ++ name }
    ∃ stem, ({ text := name } : Path).stem? = some stem ∧ path.stem? = some stem ∧
      stripExtension (front ++ name) = front ++ stem ∧
      bytesOf stem = fileStem (bytesOf name) ∧ cutKey (bytesOf (front ++ name)) = bytesOf front ++ fileStem (bytesOf name) ∧
      (∀ roots : List Path, (roots.findSome? fun root => path.below? root) = none → key roots path = stem) ∧
      (∀ roots components, (roots.findSome? fun root => path.below? root) = some components →
        components = [] ∧ key roots path = "" ∨ ∃ directory, Leads directory ∧ slashed components = directory ++ name ∧
          key roots path = directory ++ stem) := by
  intro path
  have component := Path.segmentComponent_of_name inner here up
  have ended {front : String} (leads : Leads front) : ∃ above,
      ({ text := front ++ name } : Path).components = above ++ [.name name] := by
    obtain ⟨names, shape, -⟩ := leads.segments plain
    exact Path.components_of_segments shape component
  obtain ⟨above, shape⟩ := ended leads
  obtain ⟨alone, shape'⟩ := ended (.inl rfl)
  rw [String.empty_append] at shape'
  have stem := Path.bytesOf_stem up
  refine ⟨(splitName name).1, ?_, ?_, Path.stripExtension_append leads plain, stem, ?_, fun roots => key_of_outside shape,
    fun roots components => key_of_below shape plain⟩
  · simp [Path.stem?, Path.fileName?, shape']
  · simp [path, Path.stem?, Path.fileName?, shape]
  · rw [← stem, ← bytesOf_append, ← Path.stripExtension_append leads plain, Path.bytesOf_stripExtension]

theorem stripExtension_eq_stem_dotted : let path : Path := { text := "/views/blog.d/" ++ "Café.v2.svelte" }
    path.stem? = some "Café.v2" ∧ stripExtension path.text = "/views/blog.d/" ++ "Café.v2" ∧
      key [{ text := "/other" }] path = "Café.v2" ∧ key [{ text := "/views" }] path = "blog.d/" ++ "Café.v2" := by
  intro path
  obtain ⟨stem, -, named, cut, -, -, outside, inside⟩ := stripExtension_eq_stem
    (.inr ⟨"/views/blog.d", rfl⟩ : Leads "/views/blog.d/") (by decide : "Café.v2.svelte" ≠ "") (by decide) (by decide) (by decide)
  obtain rfl : "Café.v2" = stem := Option.some.inj (Eq.trans (by decide +kernel) named)
  refine ⟨named, cut, outside _ (by decide +kernel), ?_⟩
  rcases inside [{ text := "/views" }] [.name "blog.d", .name "Café.v2.svelte"] (by decide +kernel) with
    ⟨nothing, -⟩ | ⟨directory, -, spelled, keyed⟩
  · cases nothing
  · have spelled : "blog.d/" ++ "Café.v2.svelte" = directory ++ "Café.v2.svelte" := spelled
    rw [keyed, (String.append_left_inj _).mp spelled]

end View
end ComponentViews
