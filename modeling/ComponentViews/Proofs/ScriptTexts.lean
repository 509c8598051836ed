import ComponentViews.Proofs.JsonReading

/-! Values as a script element holds them. Guarding a finished text is the same as writing
the value with other escapes in its string literals: nothing else in it is ever guarded, and
nothing behind an open escape. So the text is safe and still spells out the value. -/

namespace ComponentViews.Json

/-- A string literal whose characters are escaped by a rule. -/
def quoteWith (escape : Char → List Char) (text : String) : List Char := '"' :: text.toList.flatMap escape ++ ['"']

mutual

/-- The text of a value with the characters of its string literals escaped by a rule. -/
def writeWith (escape : Char → List Char) : Json → List Char
  | .null => ['n', 'u', 'l', 'l']
  | .bool true => ['t', 'r', 'u', 'e']
  | .bool false => ['f', 'a', 'l', 's', 'e']
  | .number value => value.write
  | .text value => quoteWith escape value
  | .array [] => ['[', ']']
  | .array (item :: rest) => '[' :: item.writeWith escape ++ writeItemsWith escape rest
  | .object [] => ['{', '}']
  | .object ((key, value) :: rest) =>
    '{' :: quoteWith escape key ++ ':' :: value.writeWith escape ++ writeFieldsWith escape rest

def writeItemsWith (escape : Char → List Char) : List Json → List Char
  | [] => [']']
  | item :: rest => ',' :: item.writeWith escape ++ writeItemsWith escape rest

def writeFieldsWith (escape : Char → List Char) : List (String × Json) → List Char
  | [] => ['}']
  | (key, value) :: rest => ',' :: quoteWith escape key ++ ':' :: value.writeWith escape ++ writeFieldsWith escape rest

end

/-- The escape of a character in a script element: by its unit where it is unsafe there, else as in any text. -/
def escapeForScript (c : Char) : List Char := if unsafeInScript c then escapeUnit c else escapeChar c

theorem guarded_escapeChar (c : Char) : guarded (escapeChar c) = escapeForScript c := by
  unfold escapeForScript
  split
  next dangerous =>
    simp only [unsafeInScript, decide_eq_true_eq] at dangerous
    rcases dangerous with rfl | rfl | rfl | rfl | rfl <;> decide
  next safe =>
    refine guarded_eq_self fun d member => ?_
    rcases escapeChar_cases c with ⟨letter, -, harmless, written⟩ | ⟨-, written⟩ | ⟨-, -, -, written⟩
    · rw [written] at member
      rcases List.mem_cons.mp member with rfl | member
      · decide
      · rwa [List.mem_singleton.mp member]
    · exact unsafeInScript_escapeUnit (written ▸ member)
    · rw [written] at member
      rw [List.mem_singleton.mp member]
      exact Bool.eq_false_iff.mpr safe

mutual

theorem writeWith_escapeChar : ∀ value : Json, value.writeWith escapeChar = value.write
  | .null => rfl
  | .bool true => rfl
  | .bool false => rfl
  | .number _ => rfl
  | .text _ => rfl
  | .array [] => rfl
  | .array (item :: rest) => by
    rw [writeWith, write, writeWith_escapeChar item, writeItemsWith_escapeChar rest]
  | .object [] => rfl
  | .object ((key, value) :: rest) => by
    rw [writeWith, write, writeWith_escapeChar value, writeFieldsWith_escapeChar rest, quoteWith, writeText]

theorem writeItemsWith_escapeChar : ∀ items : List Json, writeItemsWith escapeChar items = writeItems items
  | [] => rfl
  | item :: rest => by
    rw [writeItemsWith, writeItems, writeWith_escapeChar item, writeItemsWith_escapeChar rest]

theorem writeFieldsWith_escapeChar : ∀ fields : List (String × Json), writeFieldsWith escapeChar fields = writeFields fields
  | [] => rfl
  | (key, value) :: rest => by
    rw [writeFieldsWith, writeFields, writeWith_escapeChar value, writeFieldsWith_escapeChar rest, quoteWith, writeText]

end

theorem guarded_quoteWith (escape : Char → List Char) (text : String) :
    guarded (quoteWith escape text) = quoteWith (fun c => guarded (escape c)) text := by
  have quote : guardChar '"' = ['"'] := rfl
  simp only [quoteWith, guarded_append, guarded_cons, guarded_nil, quote]
  rw [guarded, List.flatMap_assoc]
  rfl

-- Numbers, names and marks are their own guarded text, which leaves the string literals.
mutual

theorem guarded_writeWith (escape : Char → List Char) : ∀ value : Json,
    guarded (value.writeWith escape) = value.writeWith fun c => guarded (escape c)
  | .null => rfl
  | .bool true => rfl
  | .bool false => rfl
  | .number value => guarded_write_number value
  | .text value => guarded_quoteWith escape value
  | .array [] => rfl
  | .array (item :: rest) => by
    have opens : guardChar '[' = ['['] := rfl
    simp only [writeWith, guarded_append, guarded_cons, opens, guarded_writeWith escape item, guarded_writeItemsWith escape rest]
    rfl
  | .object [] => rfl
  | .object ((key, value) :: rest) => by
    have opens : guardChar '{' = ['{'] := rfl
    have colon : guardChar ':' = [':'] := rfl
    simp only [writeWith, guarded_append, guarded_cons, opens, colon, guarded_quoteWith, guarded_writeWith escape value,
      guarded_writeFieldsWith escape rest]
    rfl

theorem guarded_writeItemsWith (escape : Char → List Char) : ∀ items : List Json,
    guarded (writeItemsWith escape items) = writeItemsWith (fun c => guarded (escape c)) items
  | [] => rfl
  | item :: rest => by
    have comma : guardChar ',' = [','] := rfl
    simp only [writeItemsWith, guarded_append, guarded_cons, comma, guarded_writeWith escape item,
      guarded_writeItemsWith escape rest]
    rfl

theorem guarded_writeFieldsWith (escape : Char → List Char) : ∀ fields : List (String × Json),
    guarded (writeFieldsWith escape fields) = writeFieldsWith (fun c => guarded (escape c)) fields
  | [] => rfl
  | (key, value) :: rest => by
    have comma : guardChar ',' = [','] := rfl
    have colon : guardChar ':' = [':'] := rfl
    simp only [writeFieldsWith, guarded_append, guarded_cons, comma, colon, guarded_quoteWith,
      guarded_writeWith escape value, guarded_writeFieldsWith escape rest]
    rfl

end

theorem writeForScript_eq (value : Json) : value.writeForScript = value.writeWith escapeForScript := by
  have escapes : (fun c => guarded (escapeChar c)) = escapeForScript := funext guarded_escapeChar
  rw [writeForScript, ← writeWith_escapeChar, ← guarded, guarded_writeWith, escapes]

/-- The text of a value for a script element has none of the characters that could end the element or the line. It is
the value's text with other escapes inside string literals, so that numbers stand as they are, and it reads back as the
value, whose objects have their fields in key order then. -/
theorem script_text_spells_value (value : Json) :
    (∀ c ∈ value.toScriptText.toList, c ∉ ['<', '>', '&', '\u2028', '\u2029']) ∧
    value.toText = String.ofList (value.writeWith escapeChar) ∧
    value.toScriptText = String.ofList (value.writeWith escapeForScript) ∧
    (value.nesting ≤ greatestDepth → (∀ number ∈ value.numbers, number.ReadsBack) →
      read? value.toScriptText = some value.normalize) ∧
    (value.Sorted → value.normalize = value) := by
  refine ⟨fun c member dangerous => ?_, ?_, ?_, read?_toScriptText_eq_normalize, normalize_of_sorted⟩
  · rw [toScriptText, String.toList_ofList] at member
    have safe := unsafeInScript_guarded member
    simp only [List.mem_cons, List.not_mem_nil, or_false] at dangerous
    simp [unsafeInScript, dangerous] at safe
  · rw [toText, writeWith_escapeChar]
  · rw [toScriptText, writeForScript_eq]

theorem script_text_spells_closing_tag :
    let value : Json := .object [("items", .array [.text "</script>\u2028", .number (.integer (-12)), .object []])]
    (∀ number ∈ value.numbers, number.ReadsBack) ∧ value.nesting ≤ greatestDepth ∧ value.Sorted ∧
      read? value.toScriptText = some value := by
  intro value
  have readBack : ∀ number ∈ value.numbers, number.ReadsBack :=
    List.forall_mem_singleton.mpr ⟨_, rfl, by decide +kernel⟩
  have ordered : value.Sorted := by simp [value, Sorted, SortedItems, SortedFields]
  obtain ⟨-, -, -, spells, sorted⟩ := script_text_spells_value value
  have shallow : value.nesting ≤ greatestDepth := by decide
  exact ⟨readBack, shallow, ordered, by rw [spells shallow readBack, sorted ordered]⟩

end ComponentViews.Json
