import ComponentViews.Json.Reader
import ComponentViews.Json.Writer

/-! Literals read back as they were written, also after the guard of script elements has
turned characters of theirs into escapes. Only characters of string literals are
guarded, and there an escape spells the character that it stands for. -/

namespace ComponentViews.Json

/-- Text with escapes in the stead of the characters that a script element should not hold. -/
def guarded (text : List Char) : List Char := text.flatMap guardChar

@[simp] theorem guarded_nil : guarded [] = [] := rfl

@[simp] theorem guarded_append (left right : List Char) : guarded (left ++ right) = guarded left ++ guarded right := by
  simp [guarded]

@[simp] theorem guarded_cons (c : Char) (rest : List Char) : guarded (c :: rest) = guardChar c ++ guarded rest := rfl

theorem guarded_eq_self {text : List Char} (safe : ∀ c ∈ text, unsafeInScript c = false) : guarded text = text := by
  induction text with
  | nil => rfl
  | cons c rest ih =>
    obtain ⟨first, later⟩ := List.forall_mem_cons.mp safe
    simp [guardChar, first, ih later]

theorem digitChar_spec {digit : Nat} (small : digit < 16) :
    hexDigit? (Nat.digitChar digit) = some digit ∧ unsafeInScript (Nat.digitChar digit) = false := by
  have all : ∀ digit : Fin 16, hexDigit? (Nat.digitChar digit) = some digit.val ∧
      unsafeInScript (Nat.digitChar digit) = false := by decide
  exact all ⟨digit, small⟩

theorem unsafeInScript_escapeUnit {c d : Char} (member : d ∈ escapeUnit c) : unsafeInScript d = false := by
  have digits : ∀ number, unsafeInScript (Nat.digitChar (number % 16)) = false :=
    fun number => (digitChar_spec (Nat.mod_lt number (by decide))).2
  simp only [escapeUnit, hexDigits, List.mem_cons, List.not_mem_nil, or_false] at member
  rcases member with rfl | rfl | rfl | rfl | rfl | rfl
  · decide
  · decide
  all_goals exact digits _

theorem unsafeInScript_guarded {text : List Char} {d : Char} (member : d ∈ guarded text) : unsafeInScript d = false := by
  obtain ⟨c, -, found⟩ := List.mem_flatMap.mp member
  unfold guardChar at found
  split at found
  · exact unsafeInScript_escapeUnit found
  next safe =>
    rw [List.mem_singleton.mp found]
    exact Bool.eq_false_iff.mpr safe

theorem hexUnit?_hexDigits {unit : Nat} (small : unit < 65536) :
    hexUnit? (Nat.digitChar (unit / 4096 % 16)) (Nat.digitChar (unit / 256 % 16)) (Nat.digitChar (unit / 16 % 16))
      (Nat.digitChar (unit % 16)) = some unit := by
  have digits : ∀ number, hexDigit? (Nat.digitChar (number % 16)) = some (number % 16) :=
    fun number => (digitChar_spec (Nat.mod_lt number (by decide))).1
  have whole : ((unit / 4096 % 16 * 16 + unit / 256 % 16) * 16 + unit / 16 % 16) * 16 + unit % 16 = unit := by omega
  simp [hexUnit?, digits, whole]

theorem ofUnit_toNat (c : Char) : Piece.ofUnit c.toNat = .escaped c := by
  -- A character is never half of a pair.
  have valid : c.toNat < 0xD800 ∨ 0xDFFF < c.toNat := by
    have bounds := c.valid
    simp only [UInt32.isValidChar, Nat.isValidChar] at bounds
    change c.val.toNat < 0xD800 ∨ 0xDFFF < c.val.toNat
    omega
  rw [Piece.ofUnit, if_neg (by omega), if_neg (by omega), Char.ofNat_toNat]

theorem readPieces_escapeUnit {c : Char} (small : c.toNat < 65536) (rest : List Char) :
    readPieces (escapeUnit c ++ rest) = (readPieces rest).map fun (pieces, after) => (.escaped c :: pieces, after) := by
  simp only [escapeUnit, hexDigits, List.cons_append, List.nil_append]
  rw [readPieces, if_neg (by decide), if_pos rfl]
  simp only [hexUnit?_hexDigits small]
  cases readPieces rest <;> simp [ofUnit_toNat]

theorem readPieces_letter {letter value : Char} (escape : letterEscape? letter = some value) (rest : List Char) :
    readPieces ('\\' :: letter :: rest) = (readPieces rest).map fun (pieces, after) => (.escaped value :: pieces, after) := by
  have other : letter ≠ 'u' := by rintro rfl; simp [letterEscape?] at escape
  rw [readPieces, if_neg (by decide), if_pos rfl]
  · simp only [escape]
    cases readPieces rest <;> rfl
  · exact fun _ _ _ _ _ same => absurd same other

theorem readPieces_plain {c : Char} (quote : c ≠ '"') (backslash : c ≠ '\\') (visible : ¬ c < ' ') (rest : List Char) :
    readPieces (c :: rest) = (readPieces rest).map fun (pieces, after) => (.char c :: pieces, after) := by
  rw [readPieces.eq_def]
  simp only [quote, backslash, visible, if_false]
  cases readPieces rest <;> rfl

/-- A character is written by an escape that names a letter, by its unit if it is no visible one, or as it stands. -/
theorem escapeChar_cases (c : Char) :
    (∃ letter, letterEscape? letter = some c ∧ unsafeInScript letter = false ∧ escapeChar c = ['\\', letter]) ∨
    (c < ' ' ∧ escapeChar c = escapeUnit c) ∨
    (c ≠ '"' ∧ c ≠ '\\' ∧ ¬ c < ' ' ∧ escapeChar c = [c]) := by
  unfold escapeChar
  split
  next same => subst same; exact .inl ⟨'"', rfl, by decide, rfl⟩
  split
  next same => subst same; exact .inl ⟨'\\', rfl, by decide, rfl⟩
  split
  next same => subst same; exact .inl ⟨'b', rfl, by decide, rfl⟩
  split
  next same => subst same; exact .inl ⟨'f', rfl, by decide, rfl⟩
  split
  next same => subst same; exact .inl ⟨'n', rfl, by decide, rfl⟩
  split
  next same => subst same; exact .inl ⟨'r', rfl, by decide, rfl⟩
  split
  next same => subst same; exact .inl ⟨'t', rfl, by decide, rfl⟩
  split
  next control => exact .inr (.inl ⟨control, rfl⟩)
  next quote backslash _ _ _ _ _ visible => exact .inr (.inr ⟨quote, backslash, visible, rfl⟩)

theorem small_of_unsafeInScript {c : Char} (dangerous : unsafeInScript c) : c.toNat < 65536 := by
  simp only [unsafeInScript, decide_eq_true_eq] at dangerous
  rcases dangerous with rfl | rfl | rfl | rfl | rfl <;> decide

theorem readPieces_escapeChar (c : Char) (rest : List Char) : ∃ piece, (piece = .char c ∨ piece = .escaped c) ∧
    readPieces (guarded (escapeChar c) ++ rest) =
      (readPieces rest).map fun (pieces, after) => (piece :: pieces, after) := by
  rcases escapeChar_cases c with ⟨letter, escape, safe, written⟩ | ⟨control, written⟩ | ⟨quote, backslash, visible, written⟩
  · refine ⟨.escaped c, .inr rfl, ?_⟩
    have unguarded : guarded ['\\', letter] = ['\\', letter] := guarded_eq_self (by simp [safe]; decide)
    rw [written, unguarded]
    exact readPieces_letter escape rest
  · refine ⟨.escaped c, .inr rfl, ?_⟩
    rw [written, guarded_eq_self fun d => unsafeInScript_escapeUnit]
    have small : c.toNat < 32 := control
    exact readPieces_escapeUnit (by omega) rest
  · rw [written, guarded_cons, guarded_nil, List.append_nil, guardChar]
    split
    next dangerous => exact ⟨.escaped c, .inr rfl, readPieces_escapeUnit (small_of_unsafeInScript dangerous) rest⟩
    next => exact ⟨.char c, .inl rfl, readPieces_plain quote backslash visible rest⟩

/-- A written text is read up to its closing quote. -/
theorem readText_write (text rest : List Char) :
    readText .ofText (guarded (text.flatMap escapeChar) ++ '"' :: rest) = some (some (String.ofList text), rest) := by
  have reads : ∃ pieces, readPieces (guarded (text.flatMap escapeChar) ++ '"' :: rest) = some (pieces, rest) ∧
      spell (fun c => [c]) (fun c => [c]) pieces = some text := by
    induction text with
    | nil => exact ⟨[], by simp [readPieces.eq_def ('"' :: rest)], rfl⟩
    | cons c text ih =>
      obtain ⟨pieces, found, spelt⟩ := ih
      obtain ⟨piece, shape, first⟩ := readPieces_escapeChar c (guarded (text.flatMap escapeChar) ++ '"' :: rest)
      refine ⟨piece :: pieces, ?_, ?_⟩
      · rw [List.flatMap_cons, guarded_append, List.append_assoc, first, found]
        rfl
      · rcases shape with rfl | rfl <;> simp [spell, spelt]
  obtain ⟨pieces, found, spelt⟩ := reads
  simp [readText, found, Spelling.ofText, spelt]

/-- The characters of written numbers. -/
def isNumeral (c : Char) : Bool := c.isDigit ∨ c = '-' ∨ c = '+' ∨ c = '.' ∨ c = 'e'

theorem isNumeral_toDigits {number : Nat} {c : Char} (member : c ∈ Nat.toDigits 10 number) : isNumeral c := by
  simp [isNumeral, Nat.isDigit_of_mem_toDigits (by decide) (by decide) member]

theorem isNumeral_layout (digits : Decimal.Digits) {c : Char} (member : c ∈ layout.write digits) : isNumeral c := by
  have trimmed : ∀ c ∈ digits.trim.1, isNumeral c := by
    intro c member
    have kept := (List.dropWhile_sublist _).subset (List.mem_reverse.mp member)
    exact isNumeral_toDigits (List.mem_reverse.mp kept)
  have marks : isNumeral '-' ∧ isNumeral '+' ∧ isNumeral '.' ∧ isNumeral 'e' ∧ isNumeral '0' := by decide
  obtain ⟨minus, plus, point, exponent, zero⟩ := marks
  unfold Decimal.Layout.write layout at member
  generalize digits.trim = trim at member trimmed
  obtain ⟨written, power⟩ := trim
  simp only at member trimmed
  split at member
  · split at member
    · simp only [List.mem_append, List.mem_replicate, List.mem_cons, List.not_mem_nil, or_false] at member
      grind
    · split at member
      · simp only [List.mem_append, List.mem_cons] at member
        grind [List.mem_of_mem_take, List.mem_of_mem_drop]
      · simp only [List.mem_append, List.mem_replicate, List.mem_cons, List.not_mem_nil, or_false] at member
        grind
  · simp only [List.mem_append, List.mem_cons, List.not_mem_nil, or_false] at member
    grind [List.mem_of_mem_take, List.mem_of_mem_drop, isNumeral_toDigits]

theorem isNumeral_write (number : Number) {c : Char} (member : c ∈ number.write) : isNumeral c := by
  cases number with
  | integer value =>
    simp only [Number.write] at member
    split at member
    · rcases List.mem_cons.mp member with rfl | member
      · decide
      · exact isNumeral_toDigits member
    · exact isNumeral_toDigits member
  | double negative magnitude =>
    have unsigned : ∀ c ∈ if magnitude.isZero then ['0', '.', '0'] else layout.write magnitude.shortest, isNumeral c := by
      split
      · have zero : isNumeral '0' := by decide
        have point : isNumeral '.' := by decide
        simp [zero, point]
      · exact fun c => isNumeral_layout _
    simp only [Number.write] at member
    split at member
    · rcases List.mem_cons.mp member with rfl | member
      · decide
      · exact unsigned c member
    · exact unsigned c member

theorem guarded_write_number (number : Number) : guarded number.write = number.write := by
  refine guarded_eq_self fun c member => Bool.eq_false_iff.mpr fun dangerous => ?_
  have numeral := isNumeral_write number member
  simp only [unsafeInScript, decide_eq_true_eq] at dangerous
  rcases dangerous with rfl | rfl | rfl | rfl | rfl <;> revert numeral <;> decide

/-- What may follow a value inside an array or an object. -/
def Stops (rest : List Char) : Prop := ∀ c ∈ rest.head?, c = ',' ∨ c = ']' ∨ c = '}'

/-- The rest of a number literal behind the digits in front of its point. -/
def readParts (negative : Bool) (whole : List Nat) (input : List Char) : Option (Literal × List Char) := do
  let (fraction, rest) ← readFraction input
  let (exponent, rest) ← readExponent rest
  pure ({ negative, whole, fraction, exponent }, rest)

def readUnsigned (negative : Bool) (input : List Char) : Option (Literal × List Char) :=
  match readDigits input with
  | ([], _) => none
  | (0 :: _ :: _, _) => none
  | (whole, rest) => readParts negative whole rest

theorem readLiteral_signed (input : List Char) : readLiteral ('-' :: input) = readUnsigned true input := rfl

theorem readLiteral_unsigned {c : Char} (plain : c ≠ '-') (input : List Char) :
    readLiteral (c :: input) = readUnsigned false (c :: input) := by
  simp only [readLiteral, List.cons.injEq, plain, false_and, forall_false, implies_true]
  rfl

theorem Stops.cases {more : List Char} (stops : Stops more) :
    more = [] ∨ ∃ rest, more = ',' :: rest ∨ more = ']' :: rest ∨ more = '}' :: rest := by
  cases more with
  | nil => exact .inl rfl
  | cons c rest => rcases stops c rfl with rfl | rfl | rfl <;> simp

-- Each reader stops at a character that it has no use for, or else at the end of its input. What follows a value there
-- is of no use to any of them.
section
variable {more : List Char} (stops : Stops more)
include stops

theorem readDigits_append (input : List Char) :
    readDigits (input ++ more) = ((readDigits input).1, (readDigits input).2 ++ more) := by
  induction input with
  | nil => rcases stops.cases with rfl | ⟨rest, rfl | rfl | rfl⟩ <;> rfl
  | cons c input ih =>
    simp only [List.cons_append, readDigits]
    cases digit? c <;> simp [ih]

theorem readFraction_append (input : List Char) :
    readFraction (input ++ more) = (readFraction input).map fun (fraction, rest) => (fraction, rest ++ more) := by
  cases input with
  | nil => rcases stops.cases with rfl | ⟨rest, rfl | rfl | rfl⟩ <;> rfl
  | cons c input =>
    by_cases point : c = '.'
    · subst point
      simp only [List.cons_append, readFraction, readDigits_append stops]
      rcases readDigits input with ⟨digits, rest⟩
      cases digits <;> rfl
    · simp [readFraction, point]

theorem readExponent_append (input : List Char) :
    readExponent (input ++ more) = (readExponent input).map fun (exponent, rest) => (exponent, rest ++ more) := by
  cases input with
  | nil => rcases stops.cases with rfl | ⟨rest, rfl | rfl | rfl⟩ <;> rfl
  | cons c input =>
    by_cases mark : c = 'e' ∨ c = 'E'
    · simp only [List.cons_append, readExponent, mark, if_true]
      cases input with
      | nil => rcases stops.cases with rfl | ⟨rest, rfl | rfl | rfl⟩ <;> rfl
      | cons d input =>
        by_cases minus : d = '-'
        · subst minus
          simp only [List.cons_append, readDigits_append stops]
          rcases readDigits input with ⟨digits, rest⟩
          cases digits <;> rfl
        by_cases plus : d = '+'
        · subst plus
          simp only [List.cons_append, readDigits_append stops]
          rcases readDigits input with ⟨digits, rest⟩
          cases digits <;> rfl
        have digits := readDigits_append stops (d :: input)
        rw [List.cons_append] at digits
        simp only [List.cons_append, List.cons.injEq, minus, plus, false_and, forall_false, implies_true, digits]
        rcases readDigits (d :: input) with ⟨digits, rest⟩
        cases digits <;> rfl
    · simp [readExponent, mark]

theorem readUnsigned_append {negative : Bool} {input after : List Char} {literal : Literal}
    (found : readUnsigned negative input = some (literal, after)) :
    readUnsigned negative (input ++ more) = some (literal, after ++ more) := by
  have parts : ∀ whole rest, readParts negative whole rest = some (literal, after) →
      readParts negative whole (rest ++ more) = some (literal, after ++ more) := by
    intro whole rest found
    simp only [readParts, bind, pure, Option.bind_eq_some_iff] at found
    obtain ⟨⟨fraction, rest⟩, first, ⟨exponent, rest⟩, second, same⟩ := found
    cases same
    simp [readParts, readFraction_append stops, first, readExponent_append stops, second]
  unfold readUnsigned at found ⊢
  rw [readDigits_append stops]
  generalize readDigits input = leading at found ⊢
  rcases leading with ⟨_ | ⟨_ | digit, _ | ⟨next, digits⟩⟩, rest⟩
  · cases found
  · exact parts _ _ found
  · cases found
  · exact parts _ _ found
  · exact parts _ _ found

theorem readLiteral_append {input after : List Char} {literal : Literal} (found : readLiteral input = some (literal, after)) :
    readLiteral (input ++ more) = some (literal, after ++ more) := by
  cases input with
  | nil => simp [readLiteral, readDigits] at found
  | cons c input =>
    by_cases minus : c = '-'
    · subst minus
      rw [readLiteral_signed] at found
      rw [List.cons_append, readLiteral_signed]
      exact readUnsigned_append stops found
    · rw [readLiteral_unsigned minus] at found
      rw [List.cons_append, readLiteral_unsigned minus]
      exact readUnsigned_append stops found

end

/-- The number's own literal stands for it. -/
def Number.ReadsBack (number : Number) : Prop :=
  ∃ literal, readLiteral number.write = some (literal, []) ∧ literal.value? = some number

end ComponentViews.Json
