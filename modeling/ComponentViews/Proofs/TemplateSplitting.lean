import ComponentViews.Page.Template
import Mathlib.Data.List.Sort
import Mathlib.Data.List.TakeWhile

/-! A template's source falls apart in one way only: into the placeholders that occur in it, and
the stretches of text between them. A page is these pieces in their order, with values
in the place of the placeholders, and nothing in a value is read again. -/

namespace ComponentViews.Page
open Text

/-- A placeholder as it is written, a name with blanks on either side. -/
structure Hole where
  before : List Char
  name : List Char
  after : List Char

namespace Hole

def text (hole : Hole) : List Char := '$' :: '{' :: (hole.before ++ (hole.name ++ (hole.after ++ ['}'])))

/-- The name is an identifier, and around it is nothing but white space. -/
structure Formed (hole : Hole) : Prop where
  before : ∀ c ∈ hole.before, isBlank c
  name : ∃ first rest, hole.name = first :: rest ∧ isNameStart first ∧ ∀ c ∈ rest, isNameChar c
  after : ∀ c ∈ hole.after, isBlank c

end Hole

/-- A placeholder stands in a text, behind some front part of it. -/
def Occurs (text front : List Char) (hole : Hole) : Prop := hole.Formed ∧ ∃ rest, text = front ++ (hole.text ++ rest)

/-- Stretches of text, each with the placeholder behind it, and a last stretch. -/
structure Split where
  stretches : List (List Char × Hole)
  last : List Char

namespace Split

def text (split : Split) : List Char := split.stretches.flatMap (fun (literal, hole) => literal ++ hole.text) ++ split.last

/-- The placeholders of stretches, each with all that stands in front of it. -/
def placesBehind (front : List Char) : List (List Char × Hole) → List (List Char × Hole)
  | [] => []
  | (literal, hole) :: rest => (front ++ literal, hole) :: placesBehind (front ++ literal ++ hole.text) rest

def places (split : Split) : List (List Char × Hole) := placesBehind [] split.stretches

/-- The pieces make up the text, and their placeholders are those that occur in it. -/
structure Of (split : Split) (text : List Char) : Prop where
  whole : split.text = text
  places : ∀ front hole, (front, hole) ∈ split.places ↔ Occurs text front hole

/-- A placeholder of the split has this name. -/
def Names (split : Split) (name : String) : Prop :=
  ∃ literal hole, (literal, hole) ∈ split.stretches ∧ hole.name = name.toList

end Split

/-- What the known placeholders stand for. -/
def Data.known : List (String × (Data → String)) := [
  ("head", Data.head), ("style", Data.style), ("html", Data.html), ("globalProps", Data.globalProps),
  ("globalStore", Data.globalStore), ("props", Data.props), ("script", Data.script), ("scriptModern", Data.scriptModern),
  ("scriptLegacy", Data.scriptLegacy), ("hydratable", fun data => if data.hydratable then "true" else "false")]

/-- The text that a name stands for, none for an unknown one. -/
def Data.shown (data : Data) (name : String) : String := (known.lookup name).elim "" (· data)

/-- The stretches as they are, with values in the place of the placeholders. -/
def Split.filled (split : Split) (data : Data) : List Char :=
  split.stretches.flatMap (fun (literal, hole) => literal ++ (data.shown (String.ofList hole.name)).toList) ++ split.last

/-- A name is made of ASCII letters, digits and low lines, and none of these is a blank. -/
theorem isBlank_of_isNameChar {c : Char} (name : isNameChar c) : isBlank c = false := by
  have code : c.toNat = 95 ∨ (65 ≤ c.toNat ∧ c.toNat ≤ 90) ∨ (97 ≤ c.toNat ∧ c.toNat ≤ 122) ∨ (48 ≤ c.toNat ∧ c.toNat ≤ 57) := by
    rcases of_decide_eq_true name with start | digit
    · rcases of_decide_eq_true start with upper | lower | rfl
      · exact .inr (.inl upper)
      · exact .inr (.inr (.inl lower))
      · exact .inl rfl
    · exact .inr (.inr (.inr digit))
  -- No range of blanks has any of these codes in it.
  rw [isBlank, List.any_eq_false]
  intro range member
  simp only [blankRanges, List.mem_cons, List.not_mem_nil, or_false] at member
  simp only [decide_eq_true_eq]
  rcases member with rfl | rfl | rfl | rfl | rfl | rfl | rfl | rfl | rfl | rfl <;> simp only <;> omega

theorem not_isNameChar_of_isBlank {c : Char} (blank : isBlank c) : ¬ isNameChar c := by
  intro name
  rw [isBlank_of_isNameChar name] at blank
  exact Bool.false_ne_true blank

theorem isName_iff {name : List Char} :
    isName name ↔ ∃ first rest, name = first :: rest ∧ isNameStart first ∧ ∀ c ∈ rest, isNameChar c := by
  cases name with
  | nil => simp [isName]
  | cons first rest =>
    rw [isName, decide_eq_true_eq, List.all_eq_true, List.forall_mem_cons]
    constructor
    · rintro ⟨start, -, later⟩
      exact ⟨first, rest, rfl, by simpa using start, later⟩
    · rintro ⟨first, rest, same, start, later⟩
      obtain ⟨rfl, rfl⟩ := List.cons.inj same
      exact ⟨by simpa using start, by simp [isNameChar, start], later⟩

namespace Hole

variable {hole other : Hole} {more more' : List Char}

theorem text_append (hole : Hole) (more : List Char) :
    hole.text ++ more = '$' :: '{' :: (hole.before ++ (hole.name ++ (hole.after ++ '}' :: more))) := by
  simp [text]

theorem Formed.chars (formed : hole.Formed) : ∀ c ∈ hole.name, isNameChar c := by
  obtain ⟨first, rest, same, start, later⟩ := formed.name
  intro c member
  rw [same] at member
  rcases List.mem_cons.mp member with rfl | member
  · simp [isNameChar, start]
  · exact later c member

/-- Whatever stands behind the blanks that follow a name, the name ends in front of them. -/
theorem name_ends {blanks : List Char} (blank : ∀ c ∈ blanks, isBlank c) :
    (blanks ++ '}' :: more).takeWhile isNameChar = [] ∧
      (blanks ++ '}' :: more).dropWhile isNameChar = blanks ++ '}' :: more := by
  have stops : ∃ c rest, blanks ++ '}' :: more = c :: rest ∧ ¬ isNameChar c := by
    cases blanks with
    | nil => exact ⟨'}', more, rfl, by decide⟩
    | cons c rest => exact ⟨c, rest ++ '}' :: more, rfl, not_isNameChar_of_isBlank (blank c (by simp))⟩
  obtain ⟨c, rest, same, other⟩ := stops
  rw [same]
  exact ⟨List.takeWhile_cons_of_neg other, List.dropWhile_cons_of_neg other⟩

/-- A name begins where the blanks in front of it end. -/
theorem Formed.name_begins (formed : hole.Formed) :
    (hole.name ++ more).takeWhile isBlank = [] ∧ (hole.name ++ more).dropWhile isBlank = hole.name ++ more := by
  have chars := formed.chars
  obtain ⟨first, rest, same, -, -⟩ := formed.name
  have visible : ¬ isBlank first := by
    rw [isBlank_of_isNameChar (chars first (by simp [same]))]
    exact Bool.false_ne_true
  rw [same]
  exact ⟨List.takeWhile_cons_of_neg visible, List.dropWhile_cons_of_neg visible⟩

end Hole

/-- The only placeholder that a text behind an opening brace could go on with. -/
def readHole (text : List Char) : Hole where
  before := text.takeWhile isBlank
  name := (text.dropWhile isBlank).takeWhile isNameChar
  after := ((text.dropWhile isBlank).dropWhile isNameChar).takeWhile isBlank

namespace Hole

variable {hole other : Hole} {more more' : List Char}

theorem Formed.readHole (formed : hole.Formed) (more : List Char) :
    readHole (hole.before ++ (hole.name ++ (hole.after ++ '}' :: more))) = hole := by
  have closing : ¬ isBlank '}' := by decide
  rw [Page.readHole, List.takeWhile_append_of_pos formed.before, List.dropWhile_append_of_pos formed.before,
    formed.name_begins.1, formed.name_begins.2, List.takeWhile_append_of_pos formed.chars,
    List.dropWhile_append_of_pos formed.chars, (name_ends formed.after).1, (name_ends formed.after).2,
    List.takeWhile_append_of_pos formed.after, List.takeWhile_cons_of_neg closing]
  simp only [List.append_nil]

/-- At a place in a text there is at most one placeholder. -/
theorem Formed.unique (formed : hole.Formed) (formed' : other.Formed) (same : hole.text ++ more = other.text ++ more') :
    hole = other ∧ more = more' := by
  have inner := same
  rw [text_append, text_append, List.cons.injEq, List.cons.injEq] at inner
  have equal : hole = other := by rw [← formed.readHole more, inner.2.2, formed'.readHole]
  subst equal
  exact ⟨rfl, List.append_cancel_left same⟩

/-- A dollar sign begins a placeholder, and there is no other in it. -/
theorem Formed.no_dollar (formed : hole.Formed) {front back : List Char} (whole : hole.text = front ++ '$' :: back) :
    front = [] := by
  cases front with
  | nil => rfl
  | cons first front =>
    rw [text, List.cons_append, List.cons.injEq] at whole
    have member : '$' ∈ '{' :: (hole.before ++ (hole.name ++ (hole.after ++ ['}']))) := by simp [whole.2]
    simp only [List.mem_cons, List.mem_append, List.not_mem_nil, or_false] at member
    rcases member with brace | blank | name | blank | brace
    · exact absurd brace (by decide)
    · exact absurd (formed.before _ blank) (by decide)
    · exact absurd (formed.chars _ name) (by decide)
    · exact absurd (formed.after _ blank) (by decide)
    · exact absurd brace (by decide)

end Hole

theorem placeholder?_hole {hole : Hole} (formed : hole.Formed) (after : List Char) :
    placeholder? (hole.text ++ after) = some (String.ofList hole.name, after) := by
  have closing : ¬ isBlank '}' := by decide
  rw [Hole.text_append, placeholder?, List.dropWhile_append_of_pos formed.before, formed.name_begins.2,
    List.takeWhile_append_of_pos formed.chars, List.dropWhile_append_of_pos formed.chars, (Hole.name_ends formed.after).1,
    (Hole.name_ends formed.after).2, List.dropWhile_append_of_pos formed.after, List.dropWhile_cons_of_neg closing]
  simp only [List.append_nil, isName_iff.mpr formed.name, if_true]

theorem hole_of_placeholder? {text after : List Char} {name : String} (found : placeholder? text = some (name, after)) :
    ∃ hole : Hole, hole.Formed ∧ name = String.ofList hole.name ∧ text = hole.text ++ after := by
  unfold placeholder? at found
  split at found
  case h_2 => cases found
  case h_1 rest =>
    simp only at found
    split at found
    case h_2 => cases found
    case h_1 behind closed =>
      split at found
      case isFalse => cases found
      case isTrue proper =>
        simp only [Option.some.injEq, Prod.mk.injEq] at found
        obtain ⟨rfl, rfl⟩ := found
        refine ⟨readHole rest, ?formed, rfl, ?whole⟩
        case formed =>
          exact ⟨fun c => List.mem_takeWhile_imp, isName_iff.mp proper, fun c => List.mem_takeWhile_imp⟩
        case whole =>
          rw [Hole.text_append, ← closed]
          simp only [readHole, List.takeWhile_append_dropWhile]

section Occurrences

variable {text rest front : List Char} {hole other : Hole} {c : Char}

theorem not_occurs_nil : ¬ Occurs [] front hole := by
  rintro ⟨-, rest, whole⟩
  have short := congrArg List.length whole
  simp [Hole.text] at short

/-- In front of a character where no placeholder begins there is none. -/
theorem occurs_cons (none : placeholder? (c :: rest) = none) :
    Occurs (c :: rest) front hole ↔ ∃ front', front = c :: front' ∧ Occurs rest front' hole := by
  constructor
  · rintro ⟨formed, more, whole⟩
    cases front with
    | nil =>
      rw [List.nil_append] at whole
      rw [whole, placeholder?_hole formed] at none
      cases none
    | cons first front' =>
      rw [List.cons_append, List.cons.injEq] at whole
      obtain ⟨rfl, whole⟩ := whole
      exact ⟨front', rfl, formed, more, whole⟩
  · rintro ⟨front', rfl, formed, more, rfl⟩
    exact ⟨formed, more, rfl⟩

/-- The placeholders in a text that begins with one are that one and those behind it: two placeholders never overlap. -/
theorem occurs_hole (formed : hole.Formed) :
    Occurs (hole.text ++ rest) front other ↔
      (front = [] ∧ other = hole) ∨ ∃ front', front = hole.text ++ front' ∧ Occurs rest front' other := by
  constructor
  · rintro ⟨formed', more, whole⟩
    rcases List.append_eq_append_iff.mp whole with ⟨behind, start, later⟩ | ⟨within, start, later⟩
    · exact .inr ⟨behind, start, formed', more, later⟩
    · cases within with
      | nil =>
        rw [List.append_nil] at start
        exact .inr ⟨[], by rw [start, List.append_nil], formed', more, later.symm⟩
      | cons first within =>
        -- The other begins within the first one, whose only dollar sign is its own first character.
        have dollar : first = '$' := by
          rw [Hole.text_append, List.cons_append, List.cons.injEq] at later
          exact later.1.symm
        subst dollar
        have empty := formed.no_dollar start
        subst empty
        exact .inl ⟨rfl, (formed.unique formed' whole).1.symm⟩
  · rintro (⟨rfl, rfl⟩ | ⟨front', rfl, formed', more, rfl⟩)
    · exact ⟨formed, rest, rfl⟩
    · exact ⟨formed', more, by simp⟩

end Occurrences

namespace Split

theorem placesBehind_eq (front : List Char) (stretches : List (List Char × Hole)) :
    placesBehind front stretches = (placesBehind [] stretches).map fun (behind, hole) => (front ++ behind, hole) := by
  induction stretches generalizing front with
  | nil => rfl
  | cons stretch rest continues =>
    obtain ⟨literal, hole⟩ := stretch
    rw [placesBehind, placesBehind, continues, continues ([] ++ literal ++ hole.text)]
    simp

/-- A split with one more character in front of its first placeholder. -/
def push (c : Char) : Split → Split
  | ⟨[], last⟩ => ⟨[], c :: last⟩
  | ⟨(literal, hole) :: rest, last⟩ => ⟨(c :: literal, hole) :: rest, last⟩

/-- A split with one more placeholder in front of it. -/
def pushHole (hole : Hole) (split : Split) : Split := ⟨([], hole) :: split.stretches, split.last⟩

/-- What a split is to a reader that goes from character to character. -/
def pieces (split : Split) : List Piece :=
  split.stretches.flatMap (fun (literal, hole) => literal.map .literal ++ [.placeholder (String.ofList hole.name)]) ++
    split.last.map .literal

variable {split other : Split} {text rest : List Char} {hole : Hole} {c : Char}

theorem places_push : (split.push c).places = split.places.map fun (front, hole) => (c :: front, hole) := by
  obtain ⟨stretches, last⟩ := split
  cases stretches with
  | nil => rfl
  | cons stretch rest =>
    obtain ⟨literal, hole⟩ := stretch
    simp only [push, places, placesBehind, List.nil_append]
    rw [placesBehind_eq, placesBehind_eq (literal ++ hole.text)]
    simp

theorem places_pushHole : (split.pushHole hole).places =
    ([], hole) :: split.places.map fun (front, other) => (hole.text ++ front, other) := by
  rw [pushHole, places, placesBehind, placesBehind_eq]
  simp [places]

theorem text_push : (split.push c).text = c :: split.text := by
  obtain ⟨stretches, last⟩ := split
  cases stretches with
  | nil => rfl
  | cons stretch rest => rfl

theorem text_pushHole : (split.pushHole hole).text = hole.text ++ split.text := by
  simp [pushHole, text]

theorem pieces_push : (split.push c).pieces = .literal c :: split.pieces := by
  obtain ⟨stretches, last⟩ := split
  cases stretches with
  | nil => rfl
  | cons stretch rest => rfl

theorem pieces_pushHole : (split.pushHole hole).pieces = .placeholder (String.ofList hole.name) :: split.pieces := by
  simp [pushHole, pieces]

theorem Of.push (of : split.Of rest) (none : placeholder? (c :: rest) = none) : (split.push c).Of (c :: rest) := by
  refine ⟨by rw [text_push, of.whole], fun front hole => ?_⟩
  rw [places_push, occurs_cons none, List.mem_map]
  constructor
  · rintro ⟨⟨front', hole'⟩, member, same⟩
    obtain ⟨rfl, rfl⟩ := Prod.mk.inj same
    exact ⟨front', rfl, (of.places _ _).mp member⟩
  · rintro ⟨front', rfl, occurs⟩
    exact ⟨(front', hole), (of.places _ _).mpr occurs, rfl⟩

theorem Of.pushHole (of : split.Of rest) (formed : hole.Formed) : (split.pushHole hole).Of (hole.text ++ rest) := by
  refine ⟨by rw [text_pushHole, of.whole], fun front other => ?_⟩
  rw [places_pushHole, occurs_hole formed, List.mem_cons, Prod.mk.injEq, List.mem_map]
  apply or_congr Iff.rfl
  constructor
  · rintro ⟨⟨front', other'⟩, member, same⟩
    obtain ⟨rfl, rfl⟩ := Prod.mk.inj same
    exact ⟨front', rfl, (of.places _ _).mp member⟩
  · rintro ⟨front', rfl, occurs⟩
    exact ⟨(front', other), (of.places _ _).mpr occurs, rfl⟩

/-- Places stand in the order of the text, each behind the end of the one before. -/
theorem placesBehind_ordered (front : List Char) (stretches : List (List Char × Hole)) :
    (placesBehind front stretches).Pairwise (fun near far => near.1.length < far.1.length) := by
  induction stretches generalizing front with
  | nil => exact .nil
  | cons stretch rest continues =>
    obtain ⟨literal, hole⟩ := stretch
    refine .cons ?_ (continues _)
    intro far member
    rw [placesBehind_eq, List.mem_map] at member
    obtain ⟨⟨behind, other⟩, -, rfl⟩ := member
    simp [Hole.text]

theorem placesBehind_injective {stretches stretches' : List (List Char × Hole)} (front : List Char)
    (same : placesBehind front stretches = placesBehind front stretches') : stretches = stretches' := by
  induction stretches generalizing front stretches' with
  | nil =>
    cases stretches' with
    | nil => rfl
    | cons stretch rest => cases same
  | cons stretch rest continues =>
    cases stretches' with
    | nil => cases same
    | cons stretch' rest' =>
      obtain ⟨literal, hole⟩ := stretch
      obtain ⟨literal', hole'⟩ := stretch'
      rw [placesBehind, placesBehind, List.cons.injEq, Prod.mk.injEq] at same
      obtain ⟨⟨front_eq, rfl⟩, later⟩ := same
      have literal_eq := List.append_cancel_left front_eq
      subst literal_eq
      rw [continues _ later]

/-- No text falls apart in two ways. -/
theorem Of.unique (of : split.Of text) (of' : other.Of text) : other = split := by
  have antisymm : Std.Antisymm fun near far : List Char × Hole => near.1.length < far.1.length :=
    ⟨fun _ _ less more => absurd less (Nat.lt_asymm more)⟩
  have irrefl : Std.Irrefl fun near far : List Char × Hole => near.1.length < far.1.length := ⟨fun _ => Nat.lt_irrefl _⟩
  -- Both have the places of the text, and a list in order is known by its members.
  have places : other.places = split.places := by
    apply List.Pairwise.eq_of_mem_iff (placesBehind_ordered [] _) (placesBehind_ordered [] _)
    rintro ⟨front, hole⟩
    exact (of'.places front hole).trans (of.places front hole).symm
  have stretches : other.stretches = split.stretches := placesBehind_injective [] places
  have whole := of'.whole.trans of.whole.symm
  rw [Split.text, Split.text, stretches] at whole
  have last : other.last = split.last := List.append_cancel_left whole
  cases other
  cases split
  rw [Split.mk.injEq]
  exact ⟨stretches, last⟩

end Split

/-- What is read from a text is what it falls apart into. -/
theorem parse_splits (text : List Char) : ∃ split : Split, split.Of text ∧ Piece.parse text = split.pieces := by
  fun_induction Piece.parse text with
  | case1 =>
    refine ⟨⟨[], []⟩, ⟨rfl, fun front hole => ⟨?_, ?_⟩⟩, rfl⟩
    · exact fun member => absurd member List.not_mem_nil
    · exact fun occurs => absurd occurs not_occurs_nil
  | case2 c rest name after found continues =>
    obtain ⟨split, of, read⟩ := continues
    obtain ⟨hole, formed, rfl, whole⟩ := hole_of_placeholder? found
    rw [whole, read]
    exact ⟨split.pushHole hole, of.pushHole formed, Split.pieces_pushHole.symm⟩
  | case3 c rest none continues =>
    obtain ⟨split, of, read⟩ := continues
    rw [read]
    exact ⟨split.push c, of.push none, Split.pieces_push.symm⟩

theorem Data.shown_eq (data : Data) (name : String) : (data.value? name).getD "" = data.shown name := by
  unfold Data.value?
  split
  case h_11 =>
    have unknown : Data.known.lookup name = none := by
      rw [List.lookup_eq_none_iff]
      simp only [Data.known, List.forall_mem_cons, bne_iff_ne]
      exact ⟨‹_›, ‹_›, ‹_›, ‹_›, ‹_›, ‹_›, ‹_›, ‹_›, ‹_›, ‹_›, fun _ member => absurd member List.not_mem_nil⟩
    rw [Data.shown, unknown]
    rfl
  all_goals rfl

theorem fill_literals (data : Data) (text : List Char) : (text.map Piece.literal).flatMap (Template.fill data) = text := by
  induction text with
  | nil => rfl
  | cons c rest continues =>
    rw [List.map_cons, List.flatMap_cons, continues]
    rfl

theorem flatMap_fill (split : Split) (data : Data) : split.pieces.flatMap (Template.fill data) = split.filled data := by
  rw [Split.pieces, List.flatMap_append, fill_literals, List.flatMap_assoc, Split.filled]
  congr 2
  funext ⟨literal, hole⟩
  rw [List.flatMap_append, fill_literals, List.flatMap_singleton, Template.fill, Data.shown_eq]

theorem html_mem_pieces (split : Split) : Piece.html ∈ split.pieces ↔ split.Names "html" := by
  rw [Split.pieces, Piece.html, List.mem_append, List.mem_flatMap]
  constructor
  · rintro (⟨⟨literal, hole⟩, member, named⟩ | literal)
    · refine ⟨literal, hole, member, ?_⟩
      simp at named
      simp [named]
    · simp at literal
  · rintro ⟨literal, hole, member, named⟩
    refine .inl ⟨(literal, hole), member, ?_⟩
    simp [named]

/-- Pieces that are read as they are written, whatever stands behind them. -/
def Piece.plain : Piece → Bool
  | .literal value => value ≠ '$'
  | .placeholder name => isName name.toList

theorem Piece.parse_of_none {c : Char} {rest : List Char} (none : placeholder? (c :: rest) = none) :
    parse (c :: rest) = .literal c :: parse rest := by
  rw [parse]
  split
  next found =>
    rw [none] at found
    cases found
  next => rfl

theorem Piece.parse_of_found {text after : List Char} {name : String} (found : placeholder? text = some (name, after)) :
    parse text = .placeholder name :: parse after := by
  cases text with
  | nil => cases found
  | cons c rest =>
    rw [parse]
    split
    next found' =>
      obtain ⟨rfl, rfl⟩ := Prod.mk.inj (Option.some.inj (found.symm.trans found'))
      rfl
    next none =>
      rw [none] at found
      cases found

theorem parse_source {pieces : List Piece} (plain : ∀ piece ∈ pieces, piece.plain) :
    Piece.parse (pieces.flatMap Piece.source) = pieces := by
  induction pieces with
  | nil => rw [List.flatMap_nil, Piece.parse]
  | cons piece rest continues =>
    have first := plain piece List.mem_cons_self
    have later := continues (fun other member => plain other (List.mem_cons_of_mem piece member))
    rw [List.flatMap_cons]
    cases piece with
    | literal value =>
      have none : placeholder? (value :: rest.flatMap Piece.source) = none := by
        unfold placeholder?
        split
        · simp_all [Piece.plain]
        · rfl
      rw [Piece.source, List.singleton_append, Piece.parse_of_none none, later]
    | placeholder name =>
      have formed : Hole.Formed ⟨[], name.toList, []⟩ :=
        ⟨List.forall_mem_nil _, isName_iff.mp first, List.forall_mem_nil _⟩
      have found := placeholder?_hole formed (rest.flatMap Piece.source)
      rw [String.ofList_toList] at found
      exact (Piece.parse_of_found found).trans (by rw [later])

theorem Template.parse_builtInSource : parse builtInSource = .ok builtIn := by
  have read : Piece.parse builtInSource.toList = builtInPieces := by
    rw [builtInSource, String.toList_ofList]
    exact parse_source (by decide +kernel)
  have html_mem := builtIn.html_mem
  simp only [parse, read]
  rfl

/-- Every template shows the markup of the body. -/
theorem Template.render_html (template : Template) (data : Data) :
    ∃ before after, template.render data = before ++ data.html ++ after := by
  obtain ⟨front, back, same⟩ := List.append_of_mem template.html_mem
  refine ⟨String.ofList (front.flatMap (fill data)), String.ofList (back.flatMap (fill data)), ?_⟩
  have html : fill data Piece.html = data.html.toList := rfl
  rw [render, same, List.flatMap_append, List.flatMap_cons, html, String.ofList_append, String.ofList_append,
    String.ofList_toList, String.append_assoc]

/-- Every source falls apart in exactly one way into placeholders that are all those in it and the text between them,
and a page has these stretches as they are with the values in between; a source is a template when one of its placeholders
is that of the body, and then every page of it has the body in it. -/
theorem template_substitution (source : String) :
    ∃ split : Split, split.Of source.toList ∧ (∀ other : Split, other.Of source.toList → other = split) ∧
      ((Template.parse source = .error .noHtmlPlaceholder ∧ ¬ split.Names "html") ∨
        ∃ template, Template.parse source = .ok template ∧ split.Names "html" ∧
          ∀ data, template.render data = String.ofList (split.filled data) ∧
            ∃ before after, template.render data = before ++ data.html ++ after) := by
  obtain ⟨split, of, read⟩ := parse_splits source.toList
  refine ⟨split, of, fun other => of.unique, ?_⟩
  have named := html_mem_pieces split
  rw [← read] at named
  by_cases html_mem : Piece.html ∈ Piece.parse source.toList
  · refine .inr ⟨⟨Piece.parse source.toList, html_mem⟩, ?_, named.mp html_mem, fun data => ⟨?_, Template.render_html _ data⟩⟩
    · simp only [Template.parse, html_mem, dite_true]
    · rw [← flatMap_fill, ← read, Template.render]
  · refine .inl ⟨?_, fun names => html_mem (named.mpr names)⟩
    simp only [Template.parse, html_mem, dite_false]

end ComponentViews.Page
