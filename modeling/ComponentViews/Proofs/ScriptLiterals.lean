import ComponentViews.Json.Reader
import ComponentViews.Text.Script
import Mathlib.Algebra.Ring.Parity
import Mathlib.Data.List.TakeWhile

/-! String literals as the lexer of a script's language reads them, with every escape that
it knows. The value of a literal is a sequence of code units of UTF-16. An escaped text
between quotes is read up to the second quote, whatever follows, as the text it was. -/

namespace ComponentViews.Text.Script
open Json (hexDigit? hexUnit?)

/-- The code units for a code point: itself, or the two halves of a pair. -/
def pointUnits (point : Nat) : List Nat :=
  if point < 0x10000 then [point] else [0xD800 + (point - 0x10000) / 0x400, 0xDC00 + (point - 0x10000) % 0x400]

def codeUnits (text : List Char) : List Nat := text.flatMap fun c => pointUnits c.toNat

def isLineEnd (c : Char) : Bool := c = '\n' ∨ c = '\r' ∨ c = '\u2028' ∨ c = '\u2029'

/-- The letters that stand for a control character behind a backslash. -/
def letterUnit? : Char → Option Nat
  | 'b' => some 0x08
  | 't' => some 0x09
  | 'n' => some 0x0A
  | 'v' => some 0x0B
  | 'f' => some 0x0C
  | 'r' => some 0x0D
  | _ => none

/-- The hexadecimal digits that a text starts with, and the text behind them. -/
def readHex : List Char → List Nat × List Char
  | [] => ([], [])
  | c :: rest =>
    match hexDigit? c with
    | some digit => (digit :: (readHex rest).1, (readHex rest).2)
    | none => ([], c :: rest)

def pointOf (digits : List Nat) : Nat := digits.foldl (fun point digit => 16 * point + digit) 0

/-- A code point in braces, its opening brace read. -/
def readPoint (text : List Char) : Option (List Nat × List Char) :=
  match readHex text with
  | (digit :: digits, '}' :: rest) =>
    if pointOf (digit :: digits) ≤ 0x10FFFF then some (pointUnits (pointOf (digit :: digits)), rest) else none
  | _ => none

/-- An escape behind its backslash. Modules are strict code, which has no octal escapes; a line may be continued. -/
def readEscape : List Char → Option (List Nat × List Char)
  | [] => none
  | 'x' :: high :: low :: rest => (hexUnit? '0' '0' high low).map fun unit => ([unit], rest)
  | 'u' :: '{' :: rest => readPoint rest
  | 'u' :: first :: second :: third :: fourth :: rest =>
    (hexUnit? first second third fourth).map fun unit => ([unit], rest)
  | '\r' :: '\n' :: rest => some ([], rest)
  | c :: rest =>
    if isLineEnd c then some ([], rest)
    else if c = '0' ∧ ¬ rest.head?.any Char.isDigit then some ([0], rest)
    else if c = 'x' ∨ c = 'u' ∨ c.isDigit then none
    else some ((letterUnit? c).elim (pointUnits c.toNat) ([·]), rest)

theorem length_readHex (text : List Char) : (readHex text).2.length ≤ text.length := by
  induction text with
  | nil => exact Nat.le_refl 0
  | cons c rest ih =>
    unfold readHex
    split
    · exact Nat.le_succ_of_le ih
    · exact Nat.le_refl _

theorem length_readPoint {text rest : List Char} {value : List Nat} (found : readPoint text = some (value, rest)) :
    rest.length ≤ text.length := by
  have short := length_readHex text
  unfold readPoint at found
  split at found
  next digit digits after read =>
    rw [read] at short
    split at found
    · cases found
      exact Nat.le_of_succ_le short
    · cases found
  · cases found

theorem length_readEscape {text rest : List Char} {value : List Nat} (found : readEscape text = some (value, rest)) :
    rest.length ≤ text.length := by
  unfold readEscape at found
  split at found
  · cases found
  · obtain ⟨unit, -, same⟩ := Option.map_eq_some_iff.mp found
    cases same
    simp only [List.length_cons]
    omega
  · have short := length_readPoint found
    simp only [List.length_cons]
    omega
  · obtain ⟨unit, -, same⟩ := Option.map_eq_some_iff.mp found
    cases same
    simp only [List.length_cons]
    omega
  · cases found
    simp only [List.length_cons]
    omega
  · split at found
    · cases found
      exact Nat.le_succ _
    split at found
    · cases found
      exact Nat.le_succ _
    split at found
    · cases found
    · cases found
      exact Nat.le_succ _

/-- The rest of a literal behind its first quote, up to the quote that ends it. Only the separators of lines and of
paragraphs may stand in it unescaped, not the other two characters that end a line. -/
def readBody (quote : Char) : List Char → Option (List Nat × List Char)
  | [] => none
  | c :: rest =>
    if c = quote then some ([], rest)
    else if c = '\\' then
      match _read : readEscape rest with
      | some (value, after) => (readBody quote after).map fun (values, last) => (value ++ values, last)
      | none => none
    else if c = '\n' ∨ c = '\r' then none
    else (readBody quote rest).map fun (values, last) => (pointUnits c.toNat ++ values, last)
termination_by text => text.length
decreasing_by
  · exact Nat.lt_succ_of_le (length_readEscape _read)
  · exact Nat.lt_succ_self _

/-- The value of the string literal that a text starts with, and the text behind it. -/
def readLiteral : List Char → Option (List Nat × List Char)
  | quote :: rest => if quote = '"' ∨ quote = '\'' then readBody quote rest else none
  | [] => none

theorem readBody_plain {quote c : Char} (other : c ≠ quote) (backslash : c ≠ '\\') (feed : c ≠ '\n') (carriage : c ≠ '\r')
    (rest : List Char) :
    readBody quote (c :: rest) = (readBody quote rest).map fun (values, last) => (pointUnits c.toNat ++ values, last) := by
  rw [readBody, if_neg other, if_neg backslash, if_neg (not_or.mpr ⟨feed, carriage⟩)]

theorem readBody_escaped {quote : Char} (other : '\\' ≠ quote) {text after : List Char} {value : List Nat}
    (found : readEscape text = some (value, after)) :
    readBody quote ('\\' :: text) = (readBody quote after).map fun (values, last) => (value ++ values, last) := by
  rw [readBody, if_neg other, if_pos rfl]
  split
  next value' after' read =>
    rw [found] at read
    cases read
    rfl
  next read =>
    rw [found] at read
    cases read

/-- An escape, or else a character that may stand in a literal as it is. -/
theorem escapeChar_cases (c : Char) :
    (∃ tail, escapeChar c = '\\' :: tail ∧ (∀ d ∈ tail, isLineEnd d = false) ∧
      ∀ rest, readEscape (tail ++ rest) = some (pointUnits c.toNat, rest)) ∨
    (c ≠ '"' ∧ c ≠ '\\' ∧ isLineEnd c = false ∧ escapeChar c = [c]) := by
  unfold escapeChar
  split
  next same => subst same; exact .inl ⟨['"'], rfl, List.forall_mem_singleton.mpr rfl, fun rest => rfl⟩
  split
  next same => subst same; exact .inl ⟨['\\'], rfl, List.forall_mem_singleton.mpr rfl, fun rest => rfl⟩
  split
  next same => subst same; exact .inl ⟨['n'], rfl, List.forall_mem_singleton.mpr rfl, fun rest => rfl⟩
  split
  next same => subst same; exact .inl ⟨['r'], rfl, List.forall_mem_singleton.mpr rfl, fun rest => rfl⟩
  split
  next same => subst same; exact .inl ⟨['t'], rfl, List.forall_mem_singleton.mpr rfl, fun rest => rfl⟩
  split
  next same => subst same; exact .inl ⟨['u', '2', '0', '2', '8'], rfl, by simp [isLineEnd], fun rest => rfl⟩
  split
  next same => subst same; exact .inl ⟨['u', '2', '0', '2', '9'], rfl, by simp [isLineEnd], fun rest => rfl⟩
  next quote backslash feed carriage _ lines paragraphs =>
    refine .inr ⟨quote, backslash, ?_, rfl⟩
    simp [isLineEnd, feed, carriage, lines, paragraphs]

/-- One escaped character more in front of a literal's rest adds its own units to the value, and nothing else. -/
theorem readBody_escapeChar (c : Char) (rest : List Char) : readBody '"' (escapeChar c ++ rest) =
    (readBody '"' rest).map fun (values, last) => (pointUnits c.toNat ++ values, last) := by
  rcases escapeChar_cases c with ⟨tail, written, -, read⟩ | ⟨quote, backslash, line, written⟩
  · rw [written]
    exact readBody_escaped (by decide) (read rest)
  · rw [written]
    have stays : ∀ ending, isLineEnd ending = true → c ≠ ending := by
      rintro ending ends rfl
      cases line.symm.trans ends
    exact readBody_plain quote backslash (stays '\n' rfl) (stays '\r' rfl) rest

theorem readBody_escape (text following : List Char) :
    readBody '"' (escape text ++ '"' :: following) = some (codeUnits text, following) := by
  induction text with
  | nil => rw [escape_nil, List.nil_append, readBody, if_pos rfl]; rfl
  | cons c text ih =>
    have first : escape (c :: text) = escapeChar c ++ escape text := rfl
    rw [first, List.append_assoc, readBody_escapeChar, ih]
    rfl

theorem readLiteral_escaped (text : String) (following : List Char) :
    readLiteral ('"' :: ((escapeText text).toList ++ '"' :: following)) = some (codeUnits text.toList, following) := by
  rw [escapeText, String.toList_ofList, readLiteral, if_pos (.inl rfl)]
  exact readBody_escape text.toList following

theorem isLineEnd_escape {text : List Char} {d : Char} (member : d ∈ escape text) : isLineEnd d = false := by
  obtain ⟨c, -, inside⟩ := List.mem_flatMap.mp member
  rcases escapeChar_cases c with ⟨tail, written, lines, -⟩ | ⟨-, -, line, written⟩
  · rw [written] at inside
    rcases List.mem_cons.mp inside with rfl | later
    · decide
    · exact lines d later
  · rw [written] at inside
    cases List.mem_singleton.mp inside
    exact line

/-- How many backslashes a text ends with. -/
def backslashes (text : List Char) : Nat := (text.reverse.takeWhile (· = '\\')).length

theorem backslashes_append (left right : List Char) : backslashes (left ++ right) =
    if right.all (· = '\\') then right.length + backslashes left else backslashes right := by
  unfold backslashes
  rw [List.reverse_append, List.takeWhile_append]
  have whole : (right.reverse.takeWhile (· = '\\')).length = right.reverse.length ↔ right.all (· = '\\') = true := by
    rw [← List.all_reverse]
    constructor
    · intro same
      rw [← (List.takeWhile_prefix _).eq_of_length same]
      exact List.all_eq_true.mpr fun c member => List.mem_takeWhile_imp (p := (· = '\\')) member
    · intro all
      rw [List.takeWhile_eq_self_iff.mpr (List.all_eq_true.mp all)]
  by_cases all : right.all (· = '\\') = true
  · rw [if_pos (whole.mpr all), if_pos all, List.length_append, List.length_reverse]
  · rw [if_neg (mt whole.mp all), if_neg all]

theorem even_backslashes_escapeChar (c : Char) : Even (backslashes (escapeChar c)) := by
  unfold escapeChar
  split_ifs with _ backslash
  case neg =>
    have none : backslashes [c] = 0 := by simp [backslashes, backslash]
    rw [none]
    exact Even.zero
  all_goals decide

theorem eq_backslash_of_quote {c : Char} {before after : List Char} (cut : escapeChar c = before ++ '"' :: after) :
    before = ['\\'] := by
  have quote : c = '"' := by
    by_contra other
    have member : '"' ∈ escapeChar c := by simp [cut]
    unfold escapeChar at member
    rw [if_neg other] at member
    split_ifs at member
    all_goals simp [Ne.symm other] at member
  subst quote
  rcases before with _ | ⟨first, _ | ⟨second, before⟩⟩
  · cases cut
  · cases cut
    rfl
  · cases before <;> cases cut

/-- A quote in an escaped text is escaped: an odd number of backslashes stands in front of it. -/
theorem odd_backslashes {text before after : List Char} (cut : escape text = before ++ '"' :: after) :
    Odd (backslashes before) := by
  induction text generalizing before with
  | nil => simp at cut
  | cons c text ih =>
    have first : escape (c :: text) = escapeChar c ++ escape text := rfl
    rw [first] at cut
    rcases List.append_eq_append_iff.mp cut with ⟨between, rfl, rest⟩ | ⟨between, inside, rest⟩
    · have odd := ih rest
      rw [backslashes_append]
      split
      next all =>
        have whole : backslashes between = between.length := by
          have shape := backslashes_append [] between
          rw [if_pos all] at shape
          exact shape
        rw [whole] at odd
        exact odd.add_even (even_backslashes_escapeChar c)
      next => exact odd
    · cases between with
      | nil =>
        have empty : Odd (backslashes []) := ih rest.symm
        simp [backslashes] at empty
      | cons d between =>
        cases rest
        rw [eq_backslash_of_quote inside]
        decide

theorem pointUnits_append_inj {c d : Char} {left right : List Nat}
    (same : pointUnits c.toNat ++ left = pointUnits d.toNat ++ right) : c = d ∧ left = right := by
  have valid : ∀ c : Char, (c.toNat < 0xD800 ∨ 0xDFFF < c.toNat) ∧ c.toNat < 0x110000 := by
    intro c
    have bounds := c.valid
    simp only [UInt32.isValidChar, Nat.isValidChar] at bounds
    change (c.val.toNat < 0xD800 ∨ 0xDFFF < c.val.toNat) ∧ c.val.toNat < 0x110000
    omega
  have one := valid c
  have other := valid d
  have points : c.toNat = d.toNat ∧ left = right := by
    unfold pointUnits at same
    split at same <;> split at same <;>
      simp only [List.cons_append, List.nil_append, List.cons.injEq] at same
    · exact same
    · omega
    · omega
    · exact ⟨by omega, same.2.2⟩
  exact ⟨Char.toNat_inj.mp points.1, points.2⟩

theorem codeUnits_injective : Function.Injective codeUnits := by
  intro left right same
  have starts : ∀ c, pointUnits c ≠ [] := by
    intro c
    unfold pointUnits
    split <;> simp
  induction left generalizing right with
  | nil =>
    cases right with
    | nil => rfl
    | cons d right => exact absurd (List.append_eq_nil_iff.mp same.symm).1 (starts _)
  | cons c left ih =>
    cases right with
    | nil => exact absurd (List.append_eq_nil_iff.mp same).1 (starts _)
    | cons d right =>
      obtain ⟨rfl, later⟩ := pointUnits_append_inj same
      rw [ih later]

/-- An escaped text between quotes is one literal of a script. It ends where the text does, whatever follows, and its
value is the text. No line ends in it, no quote of it is bare, and escaping keeps texts apart and goes piece by piece. -/
theorem escaped_literal (text following : String) :
    readLiteral ("\"" ++ escapeText text ++ "\"" ++ following).toList = some (codeUnits text.toList, following.toList) ∧
    (∀ c ∈ (escapeText text).toList, isLineEnd c = false) ∧
    (∀ before after, (escapeText text).toList = before ++ '"' :: after → Odd (backslashes before)) ∧
    Function.Injective escapeText ∧ ∀ more, escapeText (text ++ more) = escapeText text ++ escapeText more := by
  have reads : ∀ text following : List Char,
      readLiteral ('"' :: escape text ++ '"' :: following) = some (codeUnits text, following) := by
    intro text following
    rw [List.cons_append, readLiteral, if_pos (.inl rfl)]
    exact readBody_escape text following
  refine ⟨?_, ?_, ?_, ?_, ?_⟩
  · simpa [escapeText] using reads text.toList following.toList
  · intro c member
    rw [escapeText, String.toList_ofList] at member
    exact isLineEnd_escape member
  · intro before after cut
    rw [escapeText, String.toList_ofList] at cut
    exact odd_backslashes cut
  · intro left right same
    have escaped : escape left.toList = escape right.toList := String.ofList_injective same
    have first := reads left.toList []
    rw [escaped, reads right.toList []] at first
    have units : codeUnits right.toList = codeUnits left.toList := congrArg Prod.fst (Option.some.inj first)
    exact String.toList_injective (codeUnits_injective units.symm)
  · intro more
    simp only [escapeText, String.toList_append, escape_append, String.ofList_append]

end ComponentViews.Text.Script
