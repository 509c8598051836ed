import ComponentViews.Proofs.Dictionaries
import ComponentViews.Proofs.JsonLiterals

/-! Values read back as they were written for a script element. Reading descends through a
text as writing did through the value, and the text is long enough to bound the descent. -/

namespace ComponentViews.Json

mutual

/-- A reader that nests so deep can give a value back: its numbers read back, and its objects hold their fields in key
order, as dictionaries do. -/
def Legible (depth : Nat) : Json → Prop
  | .number value => value.ReadsBack
  | .array items =>
    match depth with
    | 0 => False
    | depth + 1 => LegibleItems depth items
  | .object fields =>
    match depth with
    | 0 => False
    | depth + 1 => (fields.map Prod.fst).Pairwise (· < ·) ∧ LegibleFields depth fields
  | _ => True

def LegibleItems (depth : Nat) : List Json → Prop
  | [] => True
  | item :: rest => Legible depth item ∧ LegibleItems depth rest

def LegibleFields (depth : Nat) : List (String × Json) → Prop
  | [] => True
  | (_, value) :: rest => Legible depth value ∧ LegibleFields depth rest

end

mutual

/-- How deep a value nests arrays and objects. -/
def nesting : Json → Nat
  | .array items => nestingOfItems items + 1
  | .object fields => nestingOfFields fields + 1
  | _ => 0

def nestingOfItems : List Json → Nat
  | [] => 0
  | item :: rest => max item.nesting (nestingOfItems rest)

def nestingOfFields : List (String × Json) → Nat
  | [] => 0
  | (_, value) :: rest => max value.nesting (nestingOfFields rest)

end

mutual

/-- The numbers in a value, as they are written one after the other. -/
def numbers : Json → List Number
  | .number value => [value]
  | .array items => numbersOfItems items
  | .object fields => numbersOfFields fields
  | _ => []

def numbersOfItems : List Json → List Number
  | [] => []
  | item :: rest => item.numbers ++ numbersOfItems rest

def numbersOfFields : List (String × Json) → List Number
  | [] => []
  | (_, value) :: rest => value.numbers ++ numbersOfFields rest

end

mutual

/-- All objects in a value hold their fields in key order. -/
def Sorted : Json → Prop
  | .array items => SortedItems items
  | .object fields => (fields.map Prod.fst).Pairwise (· < ·) ∧ SortedFields fields
  | _ => True

def SortedItems : List Json → Prop
  | [] => True
  | item :: rest => item.Sorted ∧ SortedItems rest

def SortedFields : List (String × Json) → Prop
  | [] => True
  | (_, value) :: rest => value.Sorted ∧ SortedFields rest

end

variable {depth fuel : Nat} {rest : List Char}

theorem skipBlanks_cons {c : Char} (visible : isBlank c = false) (rest : List Char) : skipBlanks (c :: rest) = c :: rest := by
  simp [skipBlanks, visible]

theorem ne_of_isNumeral {c d : Char} (numeral : isNumeral c) (other : isNumeral d = false) : c ≠ d := by
  rintro rfl
  simp [numeral] at other

theorem isBlank_of_isNumeral {c : Char} (numeral : isNumeral c) : isBlank c = false := by
  have space := ne_of_isNumeral numeral (d := ' ') rfl
  have tab := ne_of_isNumeral numeral (d := '\t') rfl
  have lineFeed := ne_of_isNumeral numeral (d := '\n') rfl
  have carriageReturn := ne_of_isNumeral numeral (d := '\r') rfl
  simp [isBlank, space, tab, lineFeed, carriageReturn]

theorem readDocument_literal {c : Char} (numeral : isNumeral c) (rest : List Char) :
    readDocument .ofText (fuel + 1) (c :: rest) =
      (readLiteral (c :: rest)).map fun (literal, rest) => (.number literal.value?, rest) := by
  unfold readDocument
  rw [skipBlanks_cons (isBlank_of_isNumeral numeral)]
  split
  next same => cases same; cases numeral
  next same => cases same; cases numeral
  next same => cases same; cases numeral
  next same => cases same; cases numeral
  next same => cases same; cases numeral
  next same => cases same; cases numeral
  next => rfl

theorem guarded_writeText (value : String) :
    guarded (writeText value) = '"' :: (guarded (value.toList.flatMap escapeChar) ++ ['"']) := by
  simp only [writeText, List.cons_append, guarded_cons, guarded_append, guarded_nil]
  rfl

theorem write_eq_cons {value : Json} (readBack : ∀ number ∈ value.numbers, number.ReadsBack) :
    ∃ c tail, guarded value.write = c :: tail ∧ isBlank c = false ∧ c ≠ ']' ∧ c ≠ '}' := by
  cases value with
  | null => exact ⟨'n', ['u', 'l', 'l'], by decide⟩
  | bool value => cases value with
    | true => exact ⟨'t', ['r', 'u', 'e'], by decide⟩
    | false => exact ⟨'f', ['a', 'l', 's', 'e'], by decide⟩
  | number value =>
    obtain ⟨literal, read, -⟩ := readBack value (List.mem_singleton_self value)
    cases written : value.write with
    | nil => simp [written, readLiteral, readDigits] at read
    | cons c tail =>
      have numeral : isNumeral c := isNumeral_write value (by simp [written])
      refine ⟨c, tail, by rw [Json.write, guarded_write_number, written], isBlank_of_isNumeral numeral,
        ne_of_isNumeral numeral rfl, ne_of_isNumeral numeral rfl⟩
  | text value => exact ⟨'"', _, guarded_writeText value, by decide⟩
  | array items => cases items with
    | nil => exact ⟨'[', [']'], by decide⟩
    | cons item rest => exact ⟨'[', guarded (item.write ++ writeItems rest), rfl, by decide⟩
  | object fields => cases fields with
    | nil => exact ⟨'{', ['}'], by decide⟩
    | cons field rest => exact ⟨'{', guarded (writeText field.1 ++ ':' :: field.2.write ++ writeFields rest), rfl, by decide⟩

theorem readDocument_array {c : Char} (visible : isBlank c = false) (further : c ≠ ']') (rest : List Char) :
    readDocument .ofText (fuel + 1) ('[' :: c :: rest) =
      (readItems .ofText fuel (c :: rest)).map fun (items, rest) => (.array items, rest) := by
  unfold readDocument
  rw [skipBlanks_cons (by decide)]
  simp only [skipBlanks_cons visible]
  split
  next same => cases same; exact absurd rfl further
  next => rfl

theorem readDocument_object (rest : List Char) : readDocument .ofText (fuel + 1) ('{' :: '"' :: rest) =
    (readFields .ofText fuel ('"' :: rest)).map fun (fields, rest) => (.object fields, rest) := by
  unfold readDocument
  rw [skipBlanks_cons (by decide)]
  simp only [skipBlanks_cons (show isBlank '"' = false by decide)]
  rfl

/-- A written value is read back, and what follows it is left over. -/
def Reads (value : Json) : Prop := ∀ fuel rest, (guarded value.write).length ≤ fuel → Stops rest →
  readDocument .ofText fuel (guarded value.write ++ rest) = some (value.toDocument, rest)

def ReadsItems : List Json → Prop
  | [] => True
  | item :: items => ∀ fuel rest, (guarded (item.write ++ writeItems items)).length ≤ fuel →
    readItems .ofText fuel (guarded (item.write ++ writeItems items) ++ rest) =
      some (itemsToDocument (item :: items), rest)

def ReadsFields : List (String × Json) → Prop
  | [] => True
  | (key, value) :: fields => ∀ fuel rest, (guarded (writeText key ++ ':' :: value.write ++ writeFields fields)).length ≤ fuel →
    readFields .ofText fuel (guarded (writeText key ++ ':' :: value.write ++ writeFields fields) ++ rest) =
      some (fieldsToDocument ((key, value) :: fields), rest)

theorem reads_of_succ {value : Json} (opens : guarded value.write ≠ [])
    (reads : ∀ fuel rest, (guarded value.write).length ≤ fuel + 1 → Stops rest →
      readDocument .ofText (fuel + 1) (guarded value.write ++ rest) = some (value.toDocument, rest)) : Reads value := by
  intro fuel rest enough stops
  cases fuel with
  | zero => exact absurd (List.length_eq_zero_iff.mp (Nat.le_zero.mp enough)) opens
  | succ fuel => exact reads fuel rest enough stops

theorem reads_number {value : Number} (readsBack : value.ReadsBack) : Reads (.number value) := by
  have readBack : ∀ number ∈ (Json.number value).numbers, number.ReadsBack := List.forall_mem_singleton.mpr readsBack
  obtain ⟨c, tail, written, -⟩ := write_eq_cons readBack
  have opens : guarded (Json.number value).write ≠ [] := by simp [written]
  refine reads_of_succ opens fun fuel rest _ stops => ?_
  obtain ⟨literal, read, stands⟩ := readsBack
  have read := readLiteral_append stops read
  rw [Json.write, guarded_write_number] at written ⊢
  have numeral : isNumeral c := isNumeral_write value (by simp [written])
  rw [written, List.cons_append] at read ⊢
  rw [readDocument_literal numeral, read]
  simp [toDocument, stands]

theorem reads_text (value : String) : Reads (.text value) := by
  refine reads_of_succ (by simp [Json.write, guarded_writeText]) fun fuel rest enough _ => ?_
  rw [Json.write, guarded_writeText, List.cons_append, List.append_assoc]
  unfold readDocument
  rw [skipBlanks_cons (by decide)]
  simp [readText_write, toDocument]

theorem reads_array {item : Json} {items : List Json} (readBack : ∀ number ∈ item.numbers, number.ReadsBack)
    (reads : ReadsItems (item :: items)) : Reads (.array (item :: items)) := by
  have bracketed : guarded (Json.array (item :: items)).write = '[' :: guarded (item.write ++ writeItems items) := rfl
  have opens : guarded (Json.array (item :: items)).write ≠ [] := by simp [bracketed]
  refine reads_of_succ opens fun fuel rest enough _ => ?_
  rw [bracketed] at enough ⊢
  have inside : readItems .ofText fuel (guarded (item.write ++ writeItems items) ++ rest) = _ :=
    reads _ _ (Nat.le_of_succ_le_succ enough)
  obtain ⟨c, tail, opens, visible, further, -⟩ := write_eq_cons readBack
  rw [guarded_append, opens, List.cons_append, List.cons_append] at inside ⊢
  rw [List.cons_append, readDocument_array visible further, inside]
  rfl

theorem reads_object {key : String} {value : Json} {fields : List (String × Json)}
    (reads : ReadsFields ((key, value) :: fields)) : Reads (.object ((key, value) :: fields)) := by
  have braced : guarded (Json.object ((key, value) :: fields)).write =
    '{' :: guarded (writeText key ++ ':' :: value.write ++ writeFields fields) := rfl
  have opens : guarded (Json.object ((key, value) :: fields)).write ≠ [] := by simp [braced]
  refine reads_of_succ opens fun fuel rest enough _ => ?_
  rw [braced] at enough ⊢
  have inside : readFields .ofText fuel (guarded (writeText key ++ ':' :: value.write ++ writeFields fields) ++ rest) = _ :=
    reads _ _ (Nat.le_of_succ_le_succ enough)
  obtain ⟨tail, opens⟩ : ∃ tail, guarded (writeText key ++ ':' :: value.write ++ writeFields fields) = '"' :: tail :=
    ⟨_, rfl⟩
  rw [opens, List.cons_append] at inside ⊢
  rw [List.cons_append, readDocument_object, inside]
  rfl

theorem stops_writeItems (items : List Json) (rest : List Char) : Stops (guarded (writeItems items) ++ rest) := by
  cases items with
  | nil => exact fun c first => .inr (.inl (Option.some_inj.mp first).symm)
  | cons item items => exact fun c first => .inl (Option.some_inj.mp first).symm

theorem stops_writeFields (fields : List (String × Json)) (rest : List Char) : Stops (guarded (writeFields fields) ++ rest) := by
  cases fields with
  | nil => exact fun c first => .inr (.inr (Option.some_inj.mp first).symm)
  | cons field fields => exact fun c first => .inl (Option.some_inj.mp first).symm

-- Each item takes a step of the fuel, and the comma or the bracket behind it makes up for that.
theorem readsItems_cons {item : Json} {items : List Json} (first : Reads item) (later : ReadsItems items) :
    ReadsItems (item :: items) := by
  intro fuel rest enough
  rw [guarded_append, List.length_append] at enough
  rw [guarded_append, List.append_assoc]
  cases items with
  | nil =>
    have closes : guarded (writeItems []) = [']'] := rfl
    rw [closes] at enough
    cases fuel with
    | zero => simp at enough
    | succ fuel =>
      rw [readItems, first _ _ (Nat.le_of_succ_le_succ enough) (stops_writeItems [] rest)]
      rfl
  | cons next items =>
    have goesOn : guarded (writeItems (next :: items)) = ',' :: guarded (next.write ++ writeItems items) := rfl
    rw [goesOn, List.length_cons] at enough
    cases fuel with
    | zero => simp at enough
    | succ fuel =>
      have inside : readItems .ofText fuel (guarded (next.write ++ writeItems items) ++ rest) = _ := later _ _ (by omega)
      rw [readItems, first _ _ (by omega) (stops_writeItems (next :: items) rest), goesOn]
      simp only [bind, Option.bind_some, List.cons_append]
      rw [skipBlanks_cons (by decide)]
      simp only [inside]
      rfl

theorem readFields_field (key : String) (rest : List Char) :
    readFields .ofText (fuel + 1) (guarded (writeText key) ++ ':' :: rest) = (do
      let (item, rest) ← readDocument .ofText fuel rest
      match skipBlanks rest with
      | ',' :: rest => (readFields .ofText fuel rest).map fun (fields, rest) => ((some key, item) :: fields, rest)
      | '}' :: rest => some ([(some key, item)], rest)
      | _ => none) := by
  rw [guarded_writeText, List.cons_append, List.append_assoc, readFields, skipBlanks_cons (by decide)]
  simp only [List.singleton_append, readText_write, bind, Option.bind_some]
  rw [skipBlanks_cons (by decide), String.ofList_toList]
  all_goals rfl

theorem readsFields_cons {key : String} {value : Json} {fields : List (String × Json)} (first : Reads value)
    (later : ReadsFields fields) : ReadsFields ((key, value) :: fields) := by
  intro fuel rest enough
  have shape : guarded (writeText key ++ ':' :: value.write ++ writeFields fields) =
      guarded (writeText key) ++ ':' :: (guarded value.write ++ guarded (writeFields fields)) := by
    simp [guardChar, unsafeInScript]
  rw [shape] at enough ⊢
  simp only [List.length_append, List.length_cons] at enough
  cases fuel with
  | zero => omega
  | succ fuel =>
    rw [List.append_assoc, List.cons_append, readFields_field, List.append_assoc,
      first _ _ (by omega) (stops_writeFields fields rest)]
    cases fields with
    | nil => rfl
    | cons next fields =>
      have goesOn : guarded (writeFields (next :: fields)) =
        ',' :: guarded (writeText next.1 ++ ':' :: next.2.write ++ writeFields fields) := rfl
      rw [goesOn, List.length_cons] at enough
      have inside : readFields .ofText fuel
          (guarded (writeText next.1 ++ ':' :: next.2.write ++ writeFields fields) ++ rest) = _ := later _ _ (by omega)
      rw [goesOn]
      simp only [bind, Option.bind_some, List.cons_append]
      rw [skipBlanks_cons (by decide)]
      simp only [inside]
      rfl

-- The induction follows the value; the lemmas above read each kind of value once its parts can be read.
mutual

theorem reads_of_readsBack : ∀ {value : Json}, (∀ number ∈ value.numbers, number.ReadsBack) → Reads value
  | .null, _ => reads_of_succ (by decide) fun _ _ _ _ => rfl
  | .bool true, _ => reads_of_succ (by decide) fun _ _ _ _ => rfl
  | .bool false, _ => reads_of_succ (by decide) fun _ _ _ _ => rfl
  | .number value, readBack => reads_number (readBack value (List.mem_singleton_self value))
  | .text value, _ => reads_text value
  | .array [], _ => reads_of_succ (by decide) fun _ _ _ _ => rfl
  | .array (_ :: items), readBack =>
    have ⟨first, later⟩ := List.forall_mem_append.mp readBack
    reads_array first (readsItems_cons (reads_of_readsBack first) (readsItems_of_readsBack later))
  | .object [], _ => reads_of_succ (by decide) fun _ _ _ _ => rfl
  | .object ((_, _) :: _), readBack =>
    have ⟨first, later⟩ := List.forall_mem_append.mp readBack
    reads_object (readsFields_cons (reads_of_readsBack first) (readsFields_of_readsBack later))

theorem readsItems_of_readsBack : ∀ {items : List Json}, (∀ number ∈ numbersOfItems items, number.ReadsBack) → ReadsItems items
  | [], _ => trivial
  | _ :: _, readBack =>
    have ⟨first, later⟩ := List.forall_mem_append.mp readBack
    readsItems_cons (reads_of_readsBack first) (readsItems_of_readsBack later)

theorem readsFields_of_readsBack : ∀ {fields : List (String × Json)},
    (∀ number ∈ numbersOfFields fields, number.ReadsBack) → ReadsFields fields
  | [], _ => trivial
  | (_, _) :: _, readBack =>
    have ⟨first, later⟩ := List.forall_mem_append.mp readBack
    readsFields_cons (reads_of_readsBack first) (readsFields_of_readsBack later)

end

mutual

/-- A value is what its document stands for, once its fields are in key order. -/
theorem value?_toDocument : ∀ {depth : Nat} {value : Json}, value.nesting ≤ depth →
    value.toDocument.value? depth = some value.normalize
  | _, .null, _ => by simp [toDocument, Document.value?, normalize]
  | _, .bool _, _ => by simp [toDocument, Document.value?, normalize]
  | _, .number _, _ => by simp [toDocument, Document.value?, normalize]
  | _, .text _, _ => by simp [toDocument, Document.value?, normalize]
  | depth + 1, .array items, shallow => by
    have inside : nestingOfItems items ≤ depth := Nat.le_of_succ_le_succ shallow
    simp [toDocument, Document.value?, normalize, itemsValue?_toDocument inside]
  | depth + 1, .object fields, shallow => by
    have inside : nestingOfFields fields ≤ depth := Nat.le_of_succ_le_succ shallow
    simp [toDocument, Document.value?, normalize, fieldsValue?_toDocument inside]

theorem itemsValue?_toDocument : ∀ {depth : Nat} {items : List Json}, nestingOfItems items ≤ depth →
    itemsValue? depth (itemsToDocument items) = some (normalizeItems items)
  | _, [], _ => rfl
  | _, _ :: _, shallow => by
    obtain ⟨first, later⟩ := Nat.max_le.mp shallow
    simp [itemsToDocument, itemsValue?, normalizeItems, value?_toDocument first, itemsValue?_toDocument later]

theorem fieldsValue?_toDocument : ∀ {depth : Nat} {fields : List (String × Json)}, nestingOfFields fields ≤ depth →
    fieldsValue? depth (fieldsToDocument fields) = some (normalizeFields fields)
  | _, [], _ => rfl
  | _, (_, _) :: _, shallow => by
    obtain ⟨first, later⟩ := Nat.max_le.mp shallow
    simp [fieldsToDocument, fieldsValue?, normalizeFields, value?_toDocument first, fieldsValue?_toDocument later]

end

mutual

theorem normalize_of_sorted : ∀ {value : Json}, value.Sorted → value.normalize = value
  | .null, _ => rfl
  | .bool _, _ => rfl
  | .number _, _ => rfl
  | .text _, _ => rfl
  | .array items, sorted => congrArg Json.array (normalizeItems_of_sorted sorted)
  | .object fields, ⟨ordered, sorted⟩ => by
    rw [normalize, normalizeFields_of_sorted sorted, Dict.entries_ofList ordered]

theorem normalizeItems_of_sorted : ∀ {items : List Json}, SortedItems items → normalizeItems items = items
  | [], _ => rfl
  | _ :: _, ⟨first, later⟩ => by
    rw [normalizeItems, normalize_of_sorted first, normalizeItems_of_sorted later]

theorem normalizeFields_of_sorted : ∀ {fields : List (String × Json)}, SortedFields fields → normalizeFields fields = fields
  | [], _ => rfl
  | (_, _) :: _, ⟨first, later⟩ => by
    rw [normalizeFields, normalize_of_sorted first, normalizeFields_of_sorted later]

end

mutual

theorem Legible.parts : ∀ {depth : Nat} {value : Json}, Legible depth value →
    value.nesting ≤ depth ∧ (∀ number ∈ value.numbers, number.ReadsBack) ∧ value.Sorted
  | depth, .null, _ => ⟨Nat.zero_le depth, List.forall_mem_nil _, trivial⟩
  | depth, .bool _, _ => ⟨Nat.zero_le depth, List.forall_mem_nil _, trivial⟩
  | depth, .number _, legible => ⟨Nat.zero_le depth, List.forall_mem_singleton.mpr legible, trivial⟩
  | depth, .text _, _ => ⟨Nat.zero_le depth, List.forall_mem_nil _, trivial⟩
  | _ + 1, .array _, legible =>
    have ⟨shallow, readBack, sorted⟩ := LegibleItems.parts legible
    ⟨Nat.succ_le_succ shallow, readBack, sorted⟩
  | _ + 1, .object _, ⟨ordered, legible⟩ =>
    have ⟨shallow, readBack, sorted⟩ := LegibleFields.parts legible
    ⟨Nat.succ_le_succ shallow, readBack, ordered, sorted⟩

theorem LegibleItems.parts : ∀ {depth : Nat} {items : List Json}, LegibleItems depth items →
    nestingOfItems items ≤ depth ∧ (∀ number ∈ numbersOfItems items, number.ReadsBack) ∧ SortedItems items
  | depth, [], _ => ⟨Nat.zero_le depth, List.forall_mem_nil _, trivial⟩
  | _, _ :: _, ⟨first, later⟩ =>
    have ⟨shallow, readBack, sorted⟩ := first.parts
    have ⟨shallow', readBack', sorted'⟩ := LegibleItems.parts later
    ⟨Nat.max_le.mpr ⟨shallow, shallow'⟩, List.forall_mem_append.mpr ⟨readBack, readBack'⟩, sorted, sorted'⟩

theorem LegibleFields.parts : ∀ {depth : Nat} {fields : List (String × Json)}, LegibleFields depth fields →
    nestingOfFields fields ≤ depth ∧ (∀ number ∈ numbersOfFields fields, number.ReadsBack) ∧ SortedFields fields
  | depth, [], _ => ⟨Nat.zero_le depth, List.forall_mem_nil _, trivial⟩
  | _, (_, _) :: _, ⟨first, later⟩ =>
    have ⟨shallow, readBack, sorted⟩ := first.parts
    have ⟨shallow', readBack', sorted'⟩ := LegibleFields.parts later
    ⟨Nat.max_le.mpr ⟨shallow, shallow'⟩, List.forall_mem_append.mpr ⟨readBack, readBack'⟩, sorted, sorted'⟩

end

theorem readsFields_of_legible {fields : List (String × Json)} (legible : LegibleFields depth fields) : ReadsFields fields :=
  readsFields_of_readsBack legible.parts.2.1

theorem Document.read?_of_reads {value : Json} (reads : Reads value) :
    Document.read? value.toScriptText.toList = some value.toDocument := by
  have written : value.toScriptText.toList = guarded value.write := by simp [toScriptText, writeForScript, guarded]
  have ends : Stops [] := fun c first => by cases first
  have read := reads _ [] (Nat.le_succ _) ends
  rw [List.append_nil] at read
  simp only [Document.read?, Document.readAll?, written, read]
  rfl

/-- The text of a value as it stands inside a script element spells out the value, with its fields in key order. -/
theorem read?_toScriptText_eq_normalize {value : Json} (shallow : value.nesting ≤ greatestDepth)
    (readBack : ∀ number ∈ value.numbers, number.ReadsBack) : read? value.toScriptText = some value.normalize := by
  rw [read?, Document.read?_of_reads (reads_of_readsBack readBack)]
  exact value?_toDocument shallow

theorem read?_toScriptText {value : Json} (legible : Legible greatestDepth value) : read? value.toScriptText = some value := by
  obtain ⟨shallow, readBack, sorted⟩ := legible.parts
  rw [read?_toScriptText_eq_normalize shallow readBack, normalize_of_sorted sorted]

end ComponentViews.Json
