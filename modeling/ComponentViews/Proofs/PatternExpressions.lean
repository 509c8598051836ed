import ComponentViews.Bundle.Manifest
import ComponentViews.Proofs.PatternTexts
import Mathlib.Data.List.Nodup
import Mathlib.Data.List.TakeWhile

/-! Patterns as regular expressions. A search tries the ways to read a text in order of
preference and takes the first, but the expression of a pattern never leaves it a choice. -/

namespace ComponentViews.Bundle

/-- A part of an expression. All but literals are captured, as a group of their own. -/
inductive Part where
  | literal (value : Char)
  | many (group : String) (admits : Char → Bool)
  | exactly (group : String) (count : Nat) (admits : Char → Bool)
  | either (group : String) (choices : List String)

namespace Part

def group? : Part → Option String
  | .literal _ => none
  | .many group _ | .exactly group _ _ | .either group _ => some group

/-- What is read at the start of a text and what is left, the longest or the first choice first. -/
def reads : Part → List Char → List (List Char × List Char)
  | .literal _, [] => []
  | .literal value, c :: text => if c = value then [([c], text)] else []
  | .many _ admits, text =>
    let longest := (text.takeWhile admits).length
    (List.range longest).map fun returned => text.splitAt (longest - returned)
  | .exactly _ count admits, text =>
    if (text.take count).length = count ∧ (text.take count).all admits then [text.splitAt count] else []
  | .either _ choices, text =>
    (choices.filter (·.toList.isPrefixOf text)).map fun choice => text.splitAt choice.toList.length

variable {text read rest : List Char} {group : String} {admits : Char → Bool}

theorem splitAt_eq_iff {count : Nat} (bounded : count ≤ text.length) :
    text.splitAt count = (read, rest) ↔ read.length = count ∧ text = read ++ rest := by
  rw [List.splitAt_eq, Prod.mk.injEq]
  constructor
  · rintro ⟨rfl, rfl⟩
    exact ⟨List.length_take_of_le bounded, (List.take_append_drop count text).symm⟩
  · rintro ⟨rfl, rfl⟩
    exact ⟨List.take_left, List.drop_left⟩

theorem mem_reads_literal {value : Char} :
    (read, rest) ∈ (literal value).reads text ↔ read = [value] ∧ text = read ++ rest := by
  cases text with
  | nil => cases read <;> simp [reads]
  | cons c text =>
    simp only [reads]
    split <;> grind

/-- Shorter and shorter texts are read, down to one character. -/
theorem mem_reads_many :
    (read, rest) ∈ (many group admits).reads text ↔ (read ≠ [] ∧ ∀ c ∈ read, admits c) ∧ text = read ++ rest := by
  simp only [reads, List.mem_map, List.mem_range]
  constructor
  · rintro ⟨returned, fewer, cut⟩
    have longest : (text.takeWhile admits).length ≤ text.length := (List.takeWhile_prefix admits).length_le
    obtain ⟨length, rfl⟩ := (splitAt_eq_iff (by omega)).mp cut
    have ahead : read <+: (read ++ rest).takeWhile admits :=
      List.prefix_of_prefix_length_le (List.prefix_append read rest) (List.takeWhile_prefix admits) (by omega)
    refine ⟨⟨List.length_pos_iff.mp (by omega), fun c member => ?_⟩, rfl⟩
    exact List.mem_takeWhile_imp (ahead.subset member)
  · rintro ⟨⟨more, all⟩, rfl⟩
    have run : (read ++ rest).takeWhile admits = read ++ rest.takeWhile admits := List.takeWhile_append_of_pos all
    have positive : 0 < read.length := List.length_pos_iff.mpr more
    rw [run, List.length_append]
    refine ⟨(rest.takeWhile admits).length, by omega, ?_⟩
    rw [Nat.add_sub_cancel, splitAt_eq_iff (by simp)]
    exact ⟨rfl, rfl⟩

theorem mem_reads_exactly {count : Nat} : (read, rest) ∈ (exactly group count admits).reads text ↔
    (read.length = count ∧ ∀ c ∈ read, admits c) ∧ text = read ++ rest := by
  simp only [reads]
  split
  next valid =>
    obtain ⟨enough, all⟩ := valid
    rw [List.mem_singleton, eq_comm, splitAt_eq_iff (by rw [← enough]; exact List.length_take_le' ..)]
    constructor
    · rintro ⟨length, rfl⟩
      rw [← length, List.take_left, List.all_eq_true] at all
      exact ⟨⟨length, all⟩, rfl⟩
    · rintro ⟨⟨length, -⟩, same⟩
      exact ⟨length, same⟩
  next invalid =>
    simp only [List.not_mem_nil, false_iff, not_and]
    rintro ⟨rfl, all⟩ rfl
    exact invalid (by simpa using all)

theorem mem_reads_either {choices : List String} : (read, rest) ∈ (either group choices).reads text ↔
    (∃ choice ∈ choices, read = choice.toList) ∧ text = read ++ rest := by
  simp only [reads, List.mem_map, List.mem_filter, List.isPrefixOf_iff_prefix]
  constructor
  · rintro ⟨choice, ⟨member, behind, rfl⟩, cut⟩
    obtain ⟨length, same⟩ := (splitAt_eq_iff (by simp)).mp cut
    exact ⟨⟨choice, member, (List.append_inj same length.symm).1.symm⟩, same⟩
  · rintro ⟨⟨choice, member, rfl⟩, rfl⟩
    exact ⟨choice, ⟨member, List.prefix_append ..⟩, (splitAt_eq_iff (by simp)).mpr ⟨rfl, rfl⟩⟩

end Part

/-- The groups of every way to read a whole text, the preferred way first. -/
def searches : List Part → List Char → List (List (String × List Char))
  | [], [] => [[]]
  | [], _ :: _ => []
  | part :: parts, text => (part.reads text).flatMap fun (read, rest) =>
    (searches parts rest).map fun groups => (part.group?.map (·, read)).toList ++ groups

/-- An expression for whole texts, in which no group stands twice. -/
structure Expression where
  parts : List Part
  distinct : (parts.filterMap Part.group?).Nodup

namespace Expression

def ofParts? (parts : List Part) : Option Expression :=
  if distinct : (parts.filterMap Part.group?).Nodup then some { parts, distinct } else none

/-- What the groups of the preferred way to read a text hold. -/
def captures? (expression : Expression) (text : String) : Option (String → Option String) :=
  (searches expression.parts text.toList).head?.map fun groups group => (groups.lookup group).map String.ofList

end Expression

namespace Piece

/-- The part of an expression that a piece of a pattern stands for. -/
def part : Piece → Part
  | .char value => .literal value
  | .name => .many "name" (· ≠ '\n')
  | .hash => .exactly "hash" 8 fun c => ('a' ≤ c ∧ c ≤ 'z') ∨ ('0' ≤ c ∧ c ≤ '9')
  | .extension => .either "extname" [".js", ".css"]

/-- The texts that may stand for a piece. -/
def Admits : Piece → List Char → Prop
  | .char value, read => read = [value]
  | .name, read => Pattern.isName read
  | .hash, read => Pattern.isHash read
  | .extension, read => ∃ extension : Extension, read = extension.text.toList

theorem mem_reads {piece : Piece} {text read rest : List Char} :
    (read, rest) ∈ piece.part.reads text ↔ piece.Admits read ∧ text = read ++ rest := by
  cases piece with
  | char value => exact Part.mem_reads_literal
  | name =>
    rw [part, Part.mem_reads_many]
    have line : (∀ c ∈ read, decide (c ≠ '\n') = true) ↔ '\n' ∉ read := by
      simp only [decide_eq_true_eq]
      exact ⟨fun all member => all _ member rfl, fun absent c member same => absent (same ▸ member)⟩
    rw [line]
    simp [Admits, Pattern.isName]
  | hash =>
    rw [part, Part.mem_reads_exactly]
    simp [Admits, Pattern.isHash, Pattern.isHashChar, Pattern.hashLength]
  | extension =>
    rw [part, Part.mem_reads_either]
    have texts : (∃ choice ∈ [".js", ".css"], read = choice.toList) ↔ ∃ extension : Extension, read = extension.text.toList := by
      constructor
      · simp only [List.mem_cons, List.not_mem_nil, or_false]
        rintro ⟨choice, rfl | rfl, rfl⟩
        · exact ⟨.script, rfl⟩
        · exact ⟨.style, rfl⟩
      · rintro ⟨extension, rfl⟩
        exact ⟨extension.text, by cases extension <;> decide, rfl⟩
    rw [texts, Admits]

/-- The groups of pieces that are filled in. -/
def groups (pieces : List Piece) (fill : Piece → List Char) : List (String × List Char) :=
  pieces.filterMap fun piece => piece.part.group?.map (·, fill piece)

theorem groups_cons (piece : Piece) (pieces : List Piece) (fill : Piece → List Char) :
    groups (piece :: pieces) fill = (piece.part.group?.map (·, fill piece)).toList ++ groups pieces fill := by
  cases named : piece.part.group? <;> simp [groups, named]

theorem groups_congr {pieces : List Piece} {fill other : Piece → List Char} (same : ∀ piece ∈ pieces, fill piece = other piece) :
    groups pieces fill = groups pieces other := by
  refine List.filterMap_congr fun piece member => ?_
  rw [same piece member]

theorem mem_groups {piece : Piece} {group : String} {pieces : List Piece} (named : piece.part.group? = some group)
    (member : piece ∈ pieces) : group ∈ (pieces.map part).filterMap Part.group? :=
  List.mem_filterMap.mpr ⟨piece.part, List.mem_map_of_mem member, named⟩

/-- A piece that stands again is a character, which leaves no choice. -/
theorem unique {piece : Piece} {pieces : List Piece} {read other : List Char}
    (distinct : (((piece :: pieces).map part).filterMap Part.group?).Nodup) (admits : piece.Admits read)
    (again : piece ∈ pieces) (admits' : piece.Admits other) : other = read := by
  cases named : piece.part.group? with
  | none => cases piece <;> simp_all [Admits, part, Part.group?]
  | some group =>
    rw [List.map_cons, List.filterMap_cons_some named, List.nodup_cons] at distinct
    exact absurd (mem_groups named again) distinct.1

/-- A piece that is captured stands once, so what it reads is free. A character reads itself. -/
theorem mem_searches {pieces : List Piece} (distinct : ((pieces.map part).filterMap Part.group?).Nodup)
    {text : List Char} {found : List (String × List Char)} : found ∈ searches (pieces.map part) text ↔
      ∃ fill : Piece → List Char, (∀ piece ∈ pieces, piece.Admits (fill piece)) ∧ text = pieces.flatMap fill ∧
        found = groups pieces fill := by
  induction pieces generalizing text found with
  | nil => cases text <;> simp [searches, groups]
  | cons piece pieces ih =>
    have distinct' : ((pieces.map part).filterMap Part.group?).Nodup := by
      rw [List.map_cons, List.filterMap_cons] at distinct
      split at distinct
      · exact distinct
      · exact distinct.of_cons
    simp only [List.map_cons, searches, List.mem_flatMap, List.mem_map, Prod.exists, mem_reads, ih distinct']
    constructor
    · rintro ⟨read, rest, ⟨admitted, rfl⟩, -, ⟨fill, admits, rfl, rfl⟩, rfl⟩
      -- What is filled in for the others stays, as none of them is this piece unless it reads the same.
      let filled := fun other => if other = piece then read else fill other
      have here : filled piece = read := if_pos rfl
      have same : ∀ other ∈ pieces, fill other = filled other := by
        intro other member
        by_cases again : other = piece
        · rw [again, here]
          exact unique distinct admitted (again ▸ member) (admits piece (again ▸ member))
        · exact (if_neg again).symm
      refine ⟨filled, ?_, ?_, ?_⟩
      · simp only [List.forall_mem_cons, here]
        exact ⟨admitted, fun other member => same other member ▸ admits other member⟩
      · rw [List.flatMap_cons, here, List.flatMap_def, List.flatMap_def, List.map_congr_left same]
      · rw [groups_cons, here, groups_congr same]
    · rintro ⟨fill, admits, rfl, rfl⟩
      refine ⟨fill piece, pieces.flatMap fill, ⟨admits piece List.mem_cons_self, rfl⟩, groups pieces fill, ⟨fill, ?_, rfl, rfl⟩,
        (groups_cons piece pieces fill).symm⟩
      exact fun other member => admits other (List.mem_cons_of_mem _ member)

theorem group?_injective {piece other : Piece} {group : String} (named : piece.part.group? = some group)
    (named' : other.part.group? = some group) : piece = other := by
  cases piece <;> cases named <;> cases other <;> simp_all [part, Part.group?]

theorem group_ne {piece other : Piece} {group group' : String} (different : other ≠ piece)
    (named : piece.part.group? = some group) (named' : other.part.group? = some group') : group' ≠ group := by
  rintro rfl
  exact different (group?_injective named' named)

theorem count_groups (piece : Piece) {group : String} (named : piece.part.group? = some group) (pieces : List Piece) :
    ((pieces.map part).filterMap Part.group?).count group = pieces.count piece := by
  induction pieces with
  | nil => rfl
  | cons other pieces ih =>
    by_cases same : other = piece
    · subst same
      simpa [named] using ih
    · cases named' : other.part.group? with
      | none => simpa [named', same] using ih
      | some group' =>
        simpa [named', same, group_ne same named named'] using ih

theorem lookup_groups (piece : Piece) {group : String} (named : piece.part.group? = some group) (pieces : List Piece)
    (fill : Piece → List Char) : (groups pieces fill).lookup group = if piece ∈ pieces then some (fill piece) else none := by
  induction pieces with
  | nil => rfl
  | cons other pieces ih =>
    rw [groups_cons]
    by_cases same : other = piece
    · subst same
      simp [named]
    · cases named' : other.part.group? with
      | none => simp [ih, Ne.symm same]
      | some group' =>
        have apart : (group == group') = false := beq_false_of_ne (group_ne same named named').symm
        simp [List.lookup_cons, ih, Ne.symm same, apart]

theorem lookup_groups_eq_none {group : String} (unknown : ∀ piece : Piece, piece.part.group? ≠ some group)
    (pieces : List Piece) (fill : Piece → List Char) : (groups pieces fill).lookup group = none := by
  refine List.lookup_eq_none_iff.mpr fun (other, read) member => ?_
  obtain ⟨piece, -, found⟩ := List.mem_filterMap.mp member
  obtain ⟨_, named, same⟩ := Option.map_eq_some_iff.mp found
  cases same
  have apart : group ≠ other := by
    rintro rfl
    exact unknown piece named
  exact bne_iff_ne.mpr apart

theorem nodup_groups_iff {pieces : List Piece} : ((pieces.map part).filterMap Part.group?).Nodup ↔
    pieces.count .name ≤ 1 ∧ pieces.count .hash ≤ 1 ∧ pieces.count .extension ≤ 1 := by
  rw [List.nodup_iff_count_le_one]
  constructor
  · intro once
    have name : pieces.count .name ≤ 1 := count_groups .name rfl pieces ▸ once "name"
    have hash : pieces.count .hash ≤ 1 := count_groups .hash rfl pieces ▸ once "hash"
    have extension : pieces.count .extension ≤ 1 := count_groups .extension rfl pieces ▸ once "extname"
    exact ⟨name, hash, extension⟩
  · rintro ⟨name, hash, extension⟩ group
    by_cases member : group ∈ (pieces.map part).filterMap Part.group?
    · obtain ⟨_, stands, named⟩ := List.mem_filterMap.mp member
      obtain ⟨piece, -, rfl⟩ := List.mem_map.mp stands
      rw [count_groups piece named]
      cases piece with
      | char value => cases named
      | name => exact name
      | hash => exact hash
      | extension => exact extension
    · rw [List.count_eq_zero_of_not_mem member]
      exact Nat.zero_le 1

end Piece

/-- What each group holds of a capture. -/
def Capture.groups (capture : Capture) (group : String) : Option String :=
  if group = "name" then some capture.name
  else if group = "hash" then capture.hash
  else if group = "extname" then some capture.extension.text
  else none

namespace Expression

/-- The expression that the text of a pattern stands for. -/
def ofText? (text : String) : Option Expression :=
  ofParts? ((Piece.parse text.toList).map Piece.part)

theorem ofText?_isSome_iff {text : String} : (ofText? text).isSome ↔ occurrences "[name]" text.toList ≤ 1 ∧
    occurrences "[hash]" text.toList ≤ 1 ∧ occurrences "[extname]" text.toList ≤ 1 := by
  rw [← Piece.count_parse .name rfl, ← Piece.count_parse .hash rfl,
    ← Piece.count_parse .extension rfl, ← Piece.nodup_groups_iff, ofText?, ofParts?]
  split
  next distinct => exact iff_of_true rfl distinct
  next repeated => exact iff_of_false (by simp) repeated

theorem parts_of_ofText? {text : String} {expression : Expression} (read : ofText? text = some expression) :
    expression.parts = (Piece.parse text.toList).map Piece.part := by
  unfold ofText? ofParts? at read
  split at read
  next => cases read; rfl
  next => cases read

/-- A text is a pattern if there is a name, the extension ends it, and no group stands twice. -/
theorem isPattern_iff {text : String} : IsPattern text.toList ↔ 0 < occurrences "[name]" text.toList ∧
    "[extname]".toList <:+ text.toList ∧ (ofText? text).isSome := by
  rw [ofText?_isSome_iff]
  constructor
  · rintro ⟨name, hash, extension, ending⟩
    exact ⟨by omega, ending, by omega, hash, by omega⟩
  · rintro ⟨named, ending, name, hash, extension⟩
    have last := List.mem_of_getLast? ((Piece.getLast?_parse _).mpr ending)
    have ended := (Piece.mem_parse .extension rfl _).mp last
    exact ⟨by omega, hash, by omega, ending⟩

/-- A text that is filled in fits the pattern, with what stands in the groups captured. -/
theorem exists_fits {text fileName : String} {fill : Piece → List Char} (valid : IsPattern text.toList)
    (admits : ∀ piece ∈ Piece.parse text.toList, piece.Admits (fill piece))
    (whole : fileName.toList = (Piece.parse text.toList).flatMap fill) : ∃ capture, Fits text fileName capture ∧
      ∀ group, ((Piece.groups (Piece.parse text.toList) fill).lookup group).map String.ofList = capture.groups group := by
  have named : .name ∈ Piece.parse text.toList := (Piece.mem_parse .name rfl _).mpr (by rw [valid.name]; exact Nat.one_pos)
  have ended : .extension ∈ Piece.parse text.toList :=
    (Piece.mem_parse .extension rfl _).mpr (by rw [valid.extension]; exact Nat.one_pos)
  obtain ⟨extension, read⟩ := admits .extension ended
  obtain ⟨more, oneLine⟩ := Pattern.isName_iff.mp
    (String.toList_ofList.symm ▸ admits .name named : Pattern.isName (String.ofList (fill .name)).toList)
  let hash := if .hash ∈ Piece.parse text.toList then some (String.ofList (fill .hash)) else none
  refine ⟨{ name := String.ofList (fill .name), hash, extension }, ⟨more, oneLine, ?_, ?_, ?_⟩, fun group => ?_⟩
  · rw [← Piece.mem_parse .hash rfl, Option.isSome_ite]
  · intro text' seen
    obtain ⟨present, rfl⟩ := Option.ite_some_none_eq_some.mp seen
    exact Pattern.isHash_iff.mp (String.toList_ofList.symm ▸ admits .hash present)
  · rw [Piece.spells_iff, whole, List.flatMap_def, List.flatMap_def]
    refine congrArg List.flatten (List.map_congr_left fun piece member => ?_)
    cases piece with
    | char value => exact admits (.char value) member
    | name => exact String.toList_ofList.symm
    | hash => simp [hash, member, Piece.write]
    | extension => exact read
  · unfold Capture.groups
    split
    next same => simp [same, Piece.lookup_groups .name rfl, named]
    next =>
      split
      next same => simp [same, Piece.lookup_groups .hash rfl, hash]
      next =>
        split
        next same => simp [same, Piece.lookup_groups .extension rfl, ended, read]
        next =>
          have unknown (piece : Piece) : piece.part.group? ≠ some group := by
            intro named
            cases piece <;> cases named <;> contradiction
          rw [Piece.lookup_groups_eq_none unknown, Option.map_none]

/-- What fits a pattern fills it in. -/
theorem exists_fill {text fileName : String} {capture : Capture} (fits : Fits text fileName capture) :
    ∃ fill : Piece → List Char, (∀ piece ∈ Piece.parse text.toList, piece.Admits (fill piece)) ∧
      fileName.toList = (Piece.parse text.toList).flatMap fill := by
  refine ⟨Piece.write capture.name.toList (capture.hash.getD "").toList capture.extension, fun piece member => ?_,
    Piece.spells_iff.mp fits.spells⟩
  cases piece with
  | char value => rfl
  | name => exact Pattern.isName_iff.mpr ⟨fits.named, fits.oneLine⟩
  | hash =>
    have present := fits.hashed.mpr ((Piece.mem_parse .hash rfl _).mp member)
    obtain ⟨hash, seen⟩ := Option.isSome_iff_exists.mp present
    rw [Piece.write, seen]
    exact Pattern.isHash_iff.mpr (fits.hash hash seen)
  | extension => exact ⟨capture.extension, rfl⟩

/-- The preferred way to read a file name is the only one. -/
theorem captures?_eq {text : String} {pattern : Pattern} {expression : Expression}
    (accepted : Pattern.ofText text = .ok pattern) (read : ofText? text = some expression) (fileName : String) :
    expression.captures? fileName = (pattern.capture? fileName).map Capture.groups := by
  have parts := parts_of_ofText? read
  have valid := Pattern.exists_ofText_iff.mp ⟨pattern, accepted⟩
  have distinct := parts ▸ expression.distinct
  rw [captures?, parts]
  have fitting {found} (member : found ∈ searches ((Piece.parse text.toList).map Piece.part) fileName.toList) :
      ∃ capture, pattern.capture? fileName = some capture ∧
        (fun group => (found.lookup group).map String.ofList) = capture.groups := by
    obtain ⟨fill, admits, whole, rfl⟩ := (Piece.mem_searches distinct).mp member
    obtain ⟨capture, fits, same⟩ := exists_fits valid admits whole
    exact ⟨capture, (Pattern.capture?_eq_some_iff accepted).mpr fits, funext same⟩
  cases captured : pattern.capture? fileName with
  | none =>
    have nothing : searches ((Piece.parse text.toList).map Piece.part) fileName.toList = [] := by
      refine List.eq_nil_iff_forall_not_mem.mpr fun found member => ?_
      obtain ⟨capture, same, -⟩ := fitting member
      cases captured ▸ same
    rw [nothing]
    rfl
  | some capture =>
    -- There is a way to read the text, so a first one, and that fits as well.
    obtain ⟨fill, admits, whole⟩ := exists_fill ((Pattern.capture?_eq_some_iff accepted).mp captured)
    have member := (Piece.mem_searches distinct).mpr ⟨fill, admits, whole, rfl⟩
    cases ways : searches ((Piece.parse text.toList).map Piece.part) fileName.toList with
    | nil => cases ways ▸ member
    | cons found others =>
      obtain ⟨other, same, groups⟩ := fitting (ways ▸ List.mem_cons_self)
      obtain rfl : capture = other := Option.some.inj (captured.symm.trans same)
      exact congrArg some groups

end Expression

namespace Pattern

/-- Why a text is no pattern. -/
def fault (text : String) : Misconfiguration :=
  if occurrences "[name]" text.toList = 0 then .patternWithoutName text
  else if "[extname]".toList <:+ text.toList then .patternInvalid text
  else .patternWithoutExtension text

/-- The texts with one name, at most one hash, and one extension at the end are patterns, as these are the placeholders
that an expression may have. No manifest is built from other texts. File names fit a pattern in one way only, which is
the one that the groups of the expression capture. -/
theorem pattern_language (text : String) :
    ((∃ pattern, ofText text = .ok pattern) ↔ IsPattern text.toList) ∧
      (IsPattern text.toList ↔ 0 < occurrences "[name]" text.toList ∧ "[extname]".toList <:+ text.toList ∧
        (Expression.ofText? text).isSome) ∧
      (¬ IsPattern text.toList → ofText text = .error (fault text) ∧
        ∀ files directories, Manifest.build files directories text = .error (.configuration (fault text))) ∧
      ∀ pattern, ofText text = .ok pattern → ∃ expression, Expression.ofText? text = some expression ∧ ∀ fileName,
        (∀ capture, pattern.capture? fileName = some capture ↔ Fits text fileName capture) ∧
          (∀ capture other, Fits text fileName capture → Fits text fileName other → capture = other) ∧
          expression.captures? fileName = (pattern.capture? fileName).map Capture.groups := by
  refine ⟨exists_ofText_iff, Expression.isPattern_iff, fun invalid => ?_, fun pattern accepted => ?_⟩
  · have failed : ofText text = .error (fault text) := by
      obtain ⟨unnamed, unended, repeated⟩ := ofText_eq_error text
      unfold fault
      split
      next absent => exact unnamed absent
      next named =>
        split
        next ended => exact repeated (Nat.pos_of_ne_zero named) ended invalid
        next other => exact unended (Nat.pos_of_ne_zero named) other
    refine ⟨failed, fun files directories => ?_⟩
    rw [Manifest.build, failed]
    rfl
  · have valid := exists_ofText_iff.mp ⟨pattern, accepted⟩
    obtain ⟨expression, read⟩ := Option.isSome_iff_exists.mp (Expression.isPattern_iff.mp valid).2.2
    refine ⟨expression, read, fun fileName => ⟨fun capture => capture?_eq_some_iff accepted, ?_,
      Expression.captures?_eq accepted read fileName⟩⟩
    intro capture other fits fits'
    have captured := (capture?_eq_some_iff accepted).mpr fits
    have captured' := (capture?_eq_some_iff accepted).mpr fits'
    exact Option.some.inj (captured.symm.trans captured')

/-- Brackets and dots of a pattern stand for themselves, and the longest name is the only one. -/
theorem one_way_to_read_brackets : ∃ pattern, ofText "[b](.+)[na[name]-[hash][extname]" = .ok pattern ∧
    Fits "[b](.+)[na[name]-[hash][extname]" "[b](.+)[naP-5cd0a7e1-5cd0a7e1.css"
      { name := "P-5cd0a7e1", hash := some "5cd0a7e1", extension := .style } := by
  obtain ⟨pattern, accepted⟩ : ∃ pattern, ofText "[b](.+)[na[name]-[hash][extname]" = .ok pattern :=
    ⟨{ front := "[b](.+)[na".toList.map .char, back := [.char '-', .hash] }, by decide +kernel⟩
  have captured : (ofText "[b](.+)[na[name]-[hash][extname]").toOption.bind
      (capture? · "[b](.+)[naP-5cd0a7e1-5cd0a7e1.css") =
        some { name := "P-5cd0a7e1", hash := some "5cd0a7e1", extension := .style } := by decide +kernel
  obtain ⟨expression, -, read⟩ := (pattern_language _).2.2.2 pattern accepted
  rw [accepted] at captured
  exact ⟨pattern, accepted, ((read _).1 _).mp captured⟩

end Pattern
end ComponentViews.Bundle
