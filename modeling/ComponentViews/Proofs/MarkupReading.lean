import ComponentViews.Text.Markup

/-! Markup as a reader takes it apart: text and tags at its angle brackets, and the value
of an attribute at its entities. Escaped values have no brackets and no quotes, so they
never reach beyond the attribute they stand in, and they are read back as they were. -/

namespace ComponentViews.Text.Markup

/-- The text that an attribute's value stands for, by one pass over its entities. -/
def decode : List Char → List Char
  | '&' :: 'a' :: 'm' :: 'p' :: ';' :: rest => '&' :: decode rest
  | '&' :: 'q' :: 'u' :: 'o' :: 't' :: ';' :: rest => '"' :: decode rest
  | '&' :: 'l' :: 't' :: ';' :: rest => '<' :: decode rest
  | '&' :: 'g' :: 't' :: ';' :: rest => '>' :: decode rest
  | c :: rest => c :: decode rest
  | [] => []

theorem decode_cons {c : Char} (plain : c ≠ '&') (rest : List Char) : decode (c :: rest) = c :: decode rest := by
  cases rest <;> simp [decode, plain]

theorem decode_escapeChar (c : Char) (rest : List Char) : decode (escapeChar c ++ rest) = c :: decode rest := by
  unfold escapeChar
  split
  next same => subst same; rfl
  next plain =>
    split
    next same => subst same; rfl
    split
    next same => subst same; rfl
    split
    next same => subst same; rfl
    next => exact decode_cons plain rest

theorem decode_escape (text : List Char) : decode (escape text) = text := by
  induction text with
  | nil => rfl
  | cons c rest ih => rw [escape, List.flatMap_cons, decode_escapeChar, ← escape, ih]

/-- Text without angle brackets. -/
def Plain (text : List Char) : Prop := '<' ∉ text ∧ '>' ∉ text

instance (text : List Char) : Decidable (Plain text) := inferInstanceAs (Decidable (_ ∧ _))

@[simp] theorem plain_append {left right : List Char} : Plain (left ++ right) ↔ Plain left ∧ Plain right := by
  simp only [Plain, List.mem_append, not_or]
  exact and_and_and_comm

theorem escapeChar_safe {c d : Char} (member : d ∈ escapeChar c) : d ≠ '"' ∧ d ≠ '<' ∧ d ≠ '>' := by
  unfold escapeChar at member
  grind

theorem escape_safe (text : List Char) : '"' ∉ escape text ∧ Plain (escape text) := by
  have safe : ∀ d ∈ escape text, d ≠ '"' ∧ d ≠ '<' ∧ d ≠ '>' := by
    intro d member
    obtain ⟨c, -, escaped⟩ := List.mem_flatMap.mp member
    exact escapeChar_safe escaped
  exact ⟨fun member => (safe _ member).1 rfl, fun member => (safe _ member).2.1 rfl, fun member => (safe _ member).2.2 rfl⟩

/-- A tag by what stands between its brackets, with the text behind it. -/
structure Tag where
  inner : List Char
  after : List Char
  deriving DecidableEq

mutual

/-- Text up to the first tag, and the tags; nothing where a bracket is out of place. -/
def scanText : List Char → Option (List Char × List Tag)
  | [] => some ([], [])
  | c :: rest =>
    if c = '<' then (scanTag rest).map ([], ·)
    else if c = '>' then none
    else (scanText rest).map fun (text, tags) => (c :: text, tags)

/-- The tags of a text that starts behind an opening bracket. -/
def scanTag : List Char → Option (List Tag)
  | [] => none
  | c :: rest =>
    if c = '>' then (scanText rest).map fun (after, tags) => { inner := [], after } :: tags
    else if c = '<' then none
    else match scanTag rest with
      | some (tag :: tags) => some ({ tag with inner := c :: tag.inner } :: tags)
      | _ => none

end

def Tag.write (tag : Tag) : List Char := '<' :: tag.inner ++ '>' :: tag.after

/-- Neither the tag nor the text behind it has brackets of its own. -/
def Tag.Plain (tag : Tag) : Prop := Markup.Plain tag.inner ∧ Markup.Plain tag.after

@[simp] theorem plain_nil : Plain [] := by simp [Plain]

@[simp] theorem plain_cons {c : Char} {rest : List Char} : Plain (c :: rest) ↔ c ≠ '<' ∧ c ≠ '>' ∧ Plain rest := by
  simp only [Plain, List.mem_cons, not_or, eq_comm]
  grind

theorem scanText_append {text : List Char} (plain : Plain text) (rest : List Char) :
    scanText (text ++ rest) = (scanText rest).map fun (after, tags) => (text ++ after, tags) := by
  induction text with
  | nil => simp
  | cons c text ih =>
    obtain ⟨opens, closes, plain⟩ := plain_cons.mp plain
    simp [scanText, opens, closes, ih plain, Function.comp_def]

theorem scanTag_append {inner : List Char} (plain : Plain inner) (rest : List Char) :
    scanTag (inner ++ '>' :: rest) = (scanText rest).map fun (after, tags) => { inner, after } :: tags := by
  induction inner with
  | nil => simp [scanTag]
  | cons c inner ih =>
    obtain ⟨opens, closes, plain⟩ := plain_cons.mp plain
    rw [List.cons_append, scanTag, if_neg closes, if_neg opens, ih plain]
    cases scanText rest <;> rfl

theorem scanText_write {tags : List Tag} (plain : ∀ tag ∈ tags, tag.Plain) :
    scanText (tags.flatMap Tag.write) = some ([], tags) := by
  induction tags with
  | nil => rfl
  | cons tag tags ih =>
    obtain ⟨⟨inner, after⟩, plain⟩ := List.forall_mem_cons.mp plain
    have later := scanText_append after (tags.flatMap Tag.write)
    rw [ih plain] at later
    have first := scanTag_append inner (tag.after ++ tags.flatMap Tag.write)
    rw [later] at first
    simp [Tag.write, scanText, first]

theorem scan_sound (input : List Char) :
    (∀ text tags, scanText input = some (text, tags) →
      Plain text ∧ (∀ tag ∈ tags, tag.Plain) ∧ input = text ++ tags.flatMap Tag.write) ∧
    (∀ tags, scanTag input = some tags → (∀ tag ∈ tags, tag.Plain) ∧ '<' :: input = tags.flatMap Tag.write) := by
  induction input with
  | nil => simp [scanText, scanTag]
  | cons c rest ih =>
    obtain ⟨texts, inTag⟩ := ih
    refine ⟨fun text tags found => ?_, fun tags found => ?_⟩
    · rw [scanText] at found
      split at found
      next opens =>
        obtain ⟨_, scanned, same⟩ := Option.map_eq_some_iff.mp found
        cases same
        obtain ⟨plain, shape⟩ := inTag _ scanned
        exact ⟨plain_nil, plain, by simpa [opens] using shape⟩
      next opens =>
        split at found
        · cases found
        next closes =>
          obtain ⟨⟨after, _⟩, scanned, same⟩ := Option.map_eq_some_iff.mp found
          cases same
          obtain ⟨plain, later, shape⟩ := texts _ _ scanned
          exact ⟨plain_cons.mpr ⟨opens, closes, plain⟩, later, by rw [shape]; rfl⟩
    · rw [scanTag] at found
      split at found
      next closes =>
        obtain ⟨⟨after, _⟩, scanned, same⟩ := Option.map_eq_some_iff.mp found
        cases same
        obtain ⟨plain, later, shape⟩ := texts _ _ scanned
        refine ⟨List.forall_mem_cons.mpr ⟨⟨plain_nil, plain⟩, later⟩, ?_⟩
        simp [Tag.write, closes, shape]
      next closes =>
        split at found
        · cases found
        next opens =>
          split at found
          next tag others scanned =>
            cases found
            obtain ⟨plain, shape⟩ := inTag _ scanned
            obtain ⟨⟨inner, after⟩, later⟩ := List.forall_mem_cons.mp plain
            refine ⟨List.forall_mem_cons.mpr ⟨⟨plain_cons.mpr ⟨opens, closes, inner⟩, after⟩, later⟩, ?_⟩
            simpa [Tag.write] using shape
          · cases found

/-- Scanning finds the one way to take a text apart where brackets stand around tags and nowhere else. -/
theorem scanText_eq_some_iff {input text : List Char} {tags : List Tag} : scanText input = some (text, tags) ↔
    Plain text ∧ (∀ tag ∈ tags, tag.Plain) ∧ input = text ++ tags.flatMap Tag.write := by
  constructor
  · exact (scan_sound input).1 text tags
  · rintro ⟨plain, later, rfl⟩
    simp [scanText_append plain, scanText_write later]

end ComponentViews.Text.Markup
