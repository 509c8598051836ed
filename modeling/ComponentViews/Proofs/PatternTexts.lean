import ComponentViews.Proofs.BundleNames

/-! Which texts are patterns, and which file names fit one. Both are said of the characters
of the text, with its placeholders found wherever they stand. -/

namespace ComponentViews.Bundle

/-- How often a word stands in a text. -/
def occurrences (word : String) : List Char → Nat
  | [] => 0
  | c :: text => if word.toList.isPrefixOf (c :: text) then occurrences word text + 1 else occurrences word text

/-- The texts that stand for something else in a pattern. -/
def placeholders : List String := ["[name]", "[hash]", "[extname]"]

/-- A text with its placeholders filled in and all other characters as they are. -/
inductive Spells (name hash : List Char) (extension : Extension) : List Char → List Char → Prop where
  | done : Spells name hash extension [] []
  | name {text filled : List Char} (rest : Spells name hash extension text filled) :
    Spells name hash extension ("[name]".toList ++ text) (name ++ filled)
  | hash {text filled : List Char} (rest : Spells name hash extension text filled) :
    Spells name hash extension ("[hash]".toList ++ text) (hash ++ filled)
  | extension {text filled : List Char} (rest : Spells name hash extension text filled) :
    Spells name hash extension ("[extname]".toList ++ text) (extension.text.toList ++ filled)
  | literal {value : Char} {text filled : List Char}
    (plain : ∀ word ∈ placeholders, ¬ word.toList <+: value :: text) (rest : Spells name hash extension text filled) :
    Spells name hash extension (value :: text) (value :: filled)

/-- One name, at most one hash, and one extension at the end. -/
structure IsPattern (text : List Char) : Prop where
  name : occurrences "[name]" text = 1
  hash : occurrences "[hash]" text ≤ 1
  extension : occurrences "[extname]" text = 1
  ending : "[extname]".toList <:+ text

/-- A file name is the text of a pattern with what was captured in place of its placeholders. -/
structure Fits (text fileName : String) (capture : Capture) : Prop where
  named : capture.name ≠ ""
  oneLine : '\n' ∉ capture.name.toList
  hashed : capture.hash.isSome ↔ 0 < occurrences "[hash]" text.toList
  hash : ∀ hash ∈ capture.hash, hash.length = 8 ∧ ∀ c ∈ hash.toList, ('a' ≤ c ∧ c ≤ 'z') ∨ ('0' ≤ c ∧ c ≤ '9')
  spells : Spells capture.name.toList (capture.hash.getD "").toList capture.extension text.toList fileName.toList

namespace Piece

/-- The text of a placeholder. -/
def word? : Piece → Option String
  | .char _ => none
  | .name => some "[name]"
  | .hash => some "[hash]"
  | .extension => some "[extname]"

theorem mem_placeholders_of_word? {piece : Piece} {word : String} (stands : piece.word? = some word) :
    word ∈ placeholders := by
  cases piece <;> cases stands <;> decide

theorem plain_iff {value : Char} {text : List Char} : (∀ word ∈ placeholders, ¬ word.toList <+: value :: text) ↔
    (∀ rest, value = '[' → text = 'n' :: 'a' :: 'm' :: 'e' :: ']' :: rest → False) ∧
      (∀ rest, value = '[' → text = 'h' :: 'a' :: 's' :: 'h' :: ']' :: rest → False) ∧
        ∀ rest, value = '[' → text = 'e' :: 'x' :: 't' :: 'n' :: 'a' :: 'm' :: 'e' :: ']' :: rest → False := by
  simp [placeholders, List.IsPrefix, eq_comm]

theorem parse_literal {value : Char} {text : List Char} (plain : ∀ word ∈ placeholders, ¬ word.toList <+: value :: text) :
    parse (value :: text) = .char value :: parse text := by
  obtain ⟨name, hash, extension⟩ := plain_iff.mp plain
  exact parse.eq_5 value text name hash extension

theorem count_parse (piece : Piece) {word : String} (stands : piece.word? = some word) (text : List Char) :
    (parse text).count piece = occurrences word text := by
  fun_induction parse text with
  | case1 => simp [occurrences]
  | case2 rest ih => cases piece <;> cases stands <;> simp [occurrences, ih]
  | case3 rest ih => cases piece <;> cases stands <;> simp [occurrences, ih]
  | case4 rest ih => cases piece <;> cases stands <;> simp [occurrences, ih]
  | case5 value rest name hash extension ih =>
    have absent := plain_iff.mpr ⟨name, hash, extension⟩ word (mem_placeholders_of_word? stands)
    have other : piece ≠ .char value := by rintro rfl; cases stands
    simp [occurrences, List.isPrefixOf_iff_prefix, absent, ih, other.symm]

theorem mem_parse (piece : Piece) {word : String} (stands : piece.word? = some word) (text : List Char) :
    piece ∈ parse text ↔ 0 < occurrences word text := by
  rw [← count_parse piece stands, List.count_pos_iff]

theorem parse_eq_nil {text : List Char} : parse text = [] ↔ text = [] := by
  fun_cases parse text <;> simp

theorem getLast?_cons_iff {piece : Piece} (other : piece ≠ .extension) (pieces : List Piece) :
    (piece :: pieces).getLast? = some .extension ↔ pieces.getLast? = some .extension := by
  rw [List.getLast?_cons]
  cases pieces.getLast? <;> simp [other]

theorem getLast?_parse (text : List Char) :
    (parse text).getLast? = some .extension ↔ "[extname]".toList <:+ text := by
  fun_induction parse text with
  | case1 => simp
  | case2 rest ih => simp [getLast?_cons_iff, ih, List.suffix_cons_iff]
  | case3 rest ih => simp [getLast?_cons_iff, ih, List.suffix_cons_iff]
  | case4 rest ih =>
    simp only [List.getLast?_cons, Option.some.injEq]
    cases last : (parse rest).getLast? with
    | none =>
      obtain rfl := parse_eq_nil.mp (List.getLast?_eq_none_iff.mp last)
      exact iff_of_true rfl (List.suffix_refl _)
    | some piece =>
      have more : rest ≠ [] := by rintro rfl; cases last
      rw [last, Option.some.injEq] at ih
      simp [ih, List.suffix_cons_iff, more]
  | case5 value rest name hash extension ih =>
    have whole : "[extname]".toList ≠ value :: rest := fun same =>
      plain_iff.mpr ⟨name, hash, extension⟩ "[extname]" (by decide) (same ▸ List.prefix_rfl)
    rw [getLast?_cons_iff (by simp), ih, List.suffix_cons_iff, or_iff_right whole]

theorem spells_iff {name hash : List Char} {extension : Extension} {text filled : List Char} :
    Spells name hash extension text filled ↔ filled = (parse text).flatMap (write name hash extension) := by
  constructor
  · intro spells
    induction spells with
    | done => rfl
    | name rest ih => simp [parse, write, ih]
    | hash rest ih => simp [parse, write, ih]
    | extension rest ih => simp [parse, write, ih]
    | literal plain rest ih => simp [parse_literal plain, write, ih]
  · rintro rfl
    fun_induction parse text with
    | case1 => exact .done
    | case2 rest ih => exact .name ih
    | case3 rest ih => exact .hash ih
    | case4 rest ih => exact .extension ih
    | case5 value rest name hash extension ih => exact .literal (plain_iff.mpr ⟨name, hash, extension⟩) ih

end Piece

theorem fixed?_piece (part : Fixed) : part.piece.fixed? = some part := by
  cases part <;> rfl

theorem mapM_fixed?_map (parts : List Fixed) : (parts.map Fixed.piece).mapM Piece.fixed? = some parts := by
  induction parts with
  | nil => rfl
  | cons part parts ih => simp [fixed?_piece, ih]

theorem not_mem_map_piece (parts : List Fixed) :
    .name ∉ parts.map Fixed.piece ∧ .extension ∉ parts.map Fixed.piece := by
  constructor <;> simp only [List.mem_map, not_exists, not_and] <;> rintro (_ | _) - <;> simp [Fixed.piece]

theorem count_hash_map_piece (parts : List Fixed) : (parts.map Fixed.piece).count .hash = parts.count .hash := by
  induction parts with
  | nil => rfl
  | cons part parts ih => cases part <;> simp [Fixed.piece, ih]

/-- Everything but names and extensions has a fixed length. -/
theorem exists_map_piece {pieces : List Piece} (unnamed : .name ∉ pieces) (unended : .extension ∉ pieces) :
    ∃ parts : List Fixed, parts.map Fixed.piece = pieces := by
  induction pieces with
  | nil => exact ⟨[], rfl⟩
  | cons piece pieces ih =>
    simp only [List.mem_cons, not_or] at unnamed unended
    obtain ⟨parts, rest⟩ := ih unnamed.2 unended.2
    cases piece with
    | char value => exact ⟨.char value :: parts, by simp [Fixed.piece, rest]⟩
    | hash => exact ⟨.hash :: parts, by simp [Fixed.piece, rest]⟩
    | name => exact absurd rfl unnamed.1
    | extension => exact absurd rfl unended.1

namespace Pattern
variable {pattern : Pattern}

/-- The pieces that a pattern is read from. -/
def pieces (pattern : Pattern) : List Piece :=
  pattern.front.map Fixed.piece ++ .name :: (pattern.back.map Fixed.piece ++ [.extension])

theorem count_name_pieces (pattern : Pattern) : pattern.pieces.count .name = 1 := by
  simp [pieces, List.count_eq_zero_of_not_mem (not_mem_map_piece _).1]

theorem count_extension_pieces (pattern : Pattern) : pattern.pieces.count .extension = 1 := by
  simp [pieces, List.count_eq_zero_of_not_mem (not_mem_map_piece _).2]

theorem count_hash_pieces (pattern : Pattern) : pattern.pieces.count .hash = (pattern.front ++ pattern.back).count .hash := by
  simp [pieces, count_hash_map_piece]

theorem ofPieces?_eq_some_iff {pieces : List Piece} (named : .name ∈ pieces) : ofPieces? pieces = some pattern ↔
    pieces = pattern.front.map Fixed.piece ++ .name :: pattern.back.map Fixed.piece ∧
      (pattern.front ++ pattern.back).count .hash ≤ 1 := by
  constructor
  · intro found
    refine ⟨pieces_of_ofPieces? named found, ?_⟩
    simp only [ofPieces?, bind, Option.bind_eq_some_iff] at found
    obtain ⟨front, -, back, -, found⟩ := found
    split at found
    next bounded =>
      cases found
      exact bounded
    next => cases found
  · rintro ⟨rfl, bounded⟩
    have before : ∀ piece ∈ pattern.front.map Fixed.piece, decide (piece ≠ Piece.name) = true := by
      intro piece member
      simpa using fun same : piece = .name => (not_mem_map_piece _).1 (same ▸ member)
    have late : (Piece.name :: pattern.back.map Fixed.piece).takeWhile (· ≠ .name) = [] := rfl
    have behind : ((Piece.name :: pattern.back.map Fixed.piece).dropWhile (· ≠ .name)).drop 1 =
        pattern.back.map Fixed.piece := rfl
    simp only [ofPieces?, List.takeWhile_append_of_pos before, List.dropWhile_append_of_pos before, late, behind,
      List.append_nil, mapM_fixed?_map, bind, Option.bind_some, if_pos bounded]

theorem name_mem_pieces (pattern : Pattern) : .name ∈ pattern.pieces := by
  simp [pieces]

theorem pieces_eq_concat (pattern : Pattern) :
    pattern.pieces = pattern.front.map Fixed.piece ++ .name :: pattern.back.map Fixed.piece ++ [.extension] := by
  simp [pieces]

theorem dropLast_pieces (pattern : Pattern) :
    pattern.pieces.dropLast = pattern.front.map Fixed.piece ++ .name :: pattern.back.map Fixed.piece := by
  rw [pieces_eq_concat, List.dropLast_concat]

theorem getLast?_pieces (pattern : Pattern) : pattern.pieces.getLast? = some .extension := by
  rw [pieces_eq_concat, List.getLast?_concat]

theorem ofText_of_named {text : String} (named : .name ∈ Piece.parse text.toList)
    (ended : (Piece.parse text.toList).getLast? = some .extension) : ofText text =
      (ofPieces? (Piece.parse text.toList).dropLast).elim (.error (.patternInvalid text)) .ok := by
  simp only [ofText, named, ended, not_true, ne_eq, if_false]
  cases ofPieces? (Piece.parse text.toList).dropLast <;> rfl

theorem ofText_eq_ok_iff {text : String} : ofText text = .ok pattern ↔
    Piece.parse text.toList = pattern.pieces ∧ (pattern.front ++ pattern.back).count .hash ≤ 1 := by
  have inner : .name ∈ pattern.pieces.dropLast := by simp [dropLast_pieces]
  have read (shape : Piece.parse text.toList = pattern.pieces) : ofText text =
      (ofPieces? pattern.pieces.dropLast).elim (.error (.patternInvalid text)) .ok := by
    rw [ofText_of_named (shape ▸ name_mem_pieces pattern) (shape ▸ getLast?_pieces pattern), shape]
  constructor
  · intro accepted
    have shape : Piece.parse text.toList = pattern.pieces := pieces_of_ofText accepted
    rw [read shape] at accepted
    cases found : ofPieces? pattern.pieces.dropLast with
    | none => simp [found] at accepted
    | some other =>
      rw [found] at accepted
      cases accepted
      exact ⟨shape, ((ofPieces?_eq_some_iff inner).mp found).2⟩
  · rintro ⟨shape, bounded⟩
    rw [read shape, (ofPieces?_eq_some_iff inner).mpr ⟨dropLast_pieces pattern, bounded⟩, Option.elim_some]

/-- What stands in front of the extension, if the extension and the name stand once. -/
theorem exists_pieces {pieces : List Piece} (named : pieces.count .name = 1) (extended : pieces.count .extension = 1)
    (ended : pieces.getLast? = some .extension) : ∃ pattern : Pattern, pieces = pattern.pieces := by
  obtain ⟨inner, rfl⟩ := List.getLast?_eq_some_iff.mp ended
  have once : inner.count .name = 1 := by simpa using named
  have unended : .extension ∉ inner := by simpa [List.count_eq_zero] using extended
  obtain ⟨early, late, rfl, absent⟩ := List.eq_append_cons_of_mem (List.count_pos_iff.mp (once ▸ Nat.one_pos))
  simp only [List.mem_append, List.mem_cons, not_or] at unended
  have unnamed : .name ∉ late := by
    simpa [List.count_append, List.count_eq_zero_of_not_mem absent, List.count_eq_zero] using once
  obtain ⟨front, rfl⟩ := exists_map_piece absent unended.1
  obtain ⟨back, rfl⟩ := exists_map_piece unnamed unended.2.2
  exact ⟨⟨front, back⟩, (pieces_eq_concat ⟨front, back⟩).symm⟩

theorem exists_ofText_iff {text : String} : (∃ pattern, ofText text = .ok pattern) ↔ IsPattern text.toList := by
  have name := Piece.count_parse .name rfl text.toList
  have hash := Piece.count_parse .hash rfl text.toList
  have extension := Piece.count_parse .extension rfl text.toList
  constructor
  · rintro ⟨pattern, accepted⟩
    obtain ⟨shape, bounded⟩ := ofText_eq_ok_iff.mp accepted
    rw [shape] at name hash extension
    refine ⟨by rw [← name, count_name_pieces], by rwa [← hash, count_hash_pieces],
      by rw [← extension, count_extension_pieces], ?_⟩
    rw [← Piece.getLast?_parse, shape, getLast?_pieces]
  · intro valid
    obtain ⟨pattern, shape⟩ := exists_pieces (name.trans valid.name) (extension.trans valid.extension)
      ((Piece.getLast?_parse _).mpr valid.ending)
    refine ⟨pattern, ofText_eq_ok_iff.mpr ⟨shape, ?_⟩⟩
    rw [← count_hash_pieces, ← shape, hash]
    exact valid.hash

/-- What is wrong with a text that is no pattern. -/
theorem ofText_eq_error (text : String) :
    (occurrences "[name]" text.toList = 0 → ofText text = .error (.patternWithoutName text)) ∧
      (0 < occurrences "[name]" text.toList → ¬ "[extname]".toList <:+ text.toList →
        ofText text = .error (.patternWithoutExtension text)) ∧
      (0 < occurrences "[name]" text.toList → "[extname]".toList <:+ text.toList → ¬ IsPattern text.toList →
        ofText text = .error (.patternInvalid text)) := by
  have name := Piece.mem_parse .name rfl text.toList
  have ending := Piece.getLast?_parse text.toList
  refine ⟨fun absent => ?_, fun named unended => ?_, fun named ended invalid => ?_⟩
  · simp [ofText, name, absent]
  · simp only [ofText, name, named, ending, unended, not_true, not_false_iff, ne_eq, if_false, if_true]
  · rw [ofText_of_named (name.mpr named) (ending.mpr ended)]
    cases found : ofPieces? (Piece.parse text.toList).dropLast with
    | none => rfl
    | some pattern =>
      have accepted : ofText text = .ok pattern := by
        rw [ofText_of_named (name.mpr named) (ending.mpr ended), found, Option.elim_some]
      exact absurd (exists_ofText_iff.mp ⟨pattern, accepted⟩) invalid

/-- Fixed parts are read off a text only if it starts with what they write. -/
theorem readFixed_sound {parts : List Fixed} {text rest : List Char} {read : Option (List Char)}
    (found : readFixed parts text = some (read, rest)) (once : parts.count .hash ≤ 1) :
    (read.isSome ↔ .hash ∈ parts) ∧ (∀ hash ∈ read, isHash hash) ∧
      ∀ hash, (∀ seen ∈ read, seen = hash) → text = parts.flatMap (Fixed.write hash) ++ rest := by
  fun_induction readFixed parts text generalizing read with
  | case1 text =>
    cases found
    simp
  | case2 => cases found
  | case3 value parts text ih =>
    obtain ⟨present, valid, shape⟩ := ih found (by simpa using once)
    exact ⟨by simpa using present, valid, fun hash seen => by simp [Fixed.write, ← shape hash seen]⟩
  | case4 => cases found
  | case5 parts text valid ih =>
    obtain ⟨⟨later, rest⟩, behind, found⟩ := Option.map_eq_some_iff.mp found
    cases found
    have single : .hash ∉ parts := by
      rw [← List.count_eq_zero]
      rw [List.count_cons_self] at once
      omega
    obtain ⟨present, -, shape⟩ := ih behind (by simp [List.count_eq_zero.mpr single])
    obtain rfl : later = none := Option.not_isSome_iff_eq_none.mp (mt present.mp single)
    refine ⟨by simp, by simpa using valid, fun hash seen => ?_⟩
    obtain rfl : text.take hashLength = hash := seen _ rfl
    rw [List.flatMap_cons, Fixed.write, List.append_assoc, ← shape _ (by simp), List.take_append_drop]
  | case6 => cases found

/-- The stem of a file name is read only as the pattern writes it. -/
theorem readStem_sound {stem name : List Char} {read : Option (List Char)}
    (found : pattern.readStem stem = some (name, read)) (once : (pattern.front ++ pattern.back).count .hash ≤ 1) :
    isName name ∧ (read.isSome ↔ .hash ∈ pattern.front ++ pattern.back) ∧ (∀ hash ∈ read, isHash hash) ∧
      ∀ hash, (∀ seen ∈ read, seen = hash) → stem = pattern.stem name hash := by
  simp only [readStem, bind, Option.bind_eq_some_iff] at found
  obtain ⟨⟨early, rest⟩, first, ⟨late, unread⟩, last, found⟩ := found
  rw [List.count_append] at once
  obtain ⟨present, valid, shape⟩ := readFixed_sound first (by omega)
  obtain ⟨present', valid', shape'⟩ := readFixed_sound last (by omega)
  split at found
  next named =>
    cases found
    obtain ⟨named, rfl⟩ := named
    rw [List.length_take, Nat.min_eq_left (Nat.sub_le ..)] at shape'
    have apart : early.isSome → late = none := by
      intro seen
      have counted := List.count_pos_iff.mpr (present.mp seen)
      exact Option.not_isSome_iff_eq_none.mp fun seen' => by have := List.count_pos_iff.mpr (present'.mp seen'); omega
    refine ⟨named, ?_, ?_, fun hash seen => ?_⟩
    · rw [Option.isSome_or, Bool.or_eq_true, present, present', List.mem_append]
    · intro hash seen
      rcases Option.or_eq_some_iff.mp seen with early | ⟨-, late⟩
      · exact valid hash early
      · exact valid' hash late
    · have written := shape hash fun part member => seen part (Option.or_eq_some_iff.mpr (.inl member))
      have written' := shape' hash fun part member => seen part <| by
        cases early with
        | none => exact member
        | some _ => cases apart rfl ▸ member
      rw [Pattern.stem, ← List.append_nil (pattern.back.flatMap _), ← written', List.take_append_drop, ← written]
  next => cases found

theorem stemOf?_sound {extension : Extension} {fileName stem : List Char} (cut : stemOf? extension fileName = some stem) :
    fileName = stem ++ extension.text.toList := by
  unfold stemOf? at cut
  split at cut
  next ending =>
    cases cut
    obtain ⟨front, rfl⟩ := List.isSuffixOf_iff_suffix.mp ending
    simp
  next => cases cut

theorem captureWith?_sound {fileName : List Char} {extension : Extension} {capture : Capture}
    (found : pattern.captureWith? fileName extension = some capture) : ∃ stem,
      pattern.readStem stem = some (capture.name.toList, capture.hash.map String.toList) ∧
        fileName = stem ++ capture.extension.text.toList := by
  simp only [captureWith?, bind, Option.bind_eq_some_iff, pure, Option.some.injEq] at found
  obtain ⟨stem, cut, ⟨name, hash⟩, read, rfl⟩ := found
  refine ⟨stem, ?_, stemOf?_sound cut⟩
  simp [read, Function.comp_def]

theorem capture?_sound {fileName : String} {capture : Capture} (found : pattern.capture? fileName = some capture) :
    ∃ stem, pattern.readStem stem = some (capture.name.toList, capture.hash.map String.toList) ∧
      fileName.toList = stem ++ capture.extension.text.toList := by
  rcases Option.or_eq_some_iff.mp found with script | ⟨-, style⟩
  · exact captureWith?_sound script
  · exact captureWith?_sound style

/-- Without a place for a hash, it does not matter which one there is. -/
theorem stem_congr {name hash other : List Char} (unhashed : .hash ∉ pattern.front ++ pattern.back) :
    pattern.stem name hash = pattern.stem name other := by
  have same (parts : List Fixed) (unhashed : .hash ∉ parts) :
      parts.flatMap (Fixed.write hash) = parts.flatMap (Fixed.write other) := by
    rw [List.flatMap_def, List.flatMap_def]
    refine congrArg List.flatten (List.map_congr_left fun part member => ?_)
    cases part with
    | char value => rfl
    | hash => exact absurd member unhashed
  rw [List.mem_append, not_or] at unhashed
  rw [stem, stem, same _ unhashed.1, same _ unhashed.2]

theorem spells_iff_fileName {text name hash filled : String} {extension : Extension} :
    Spells name.toList hash.toList extension text.toList filled.toList ↔ filled = fileName text name hash extension := by
  rw [Piece.spells_iff, fileName, ← String.toList_inj, String.toList_ofList]

theorem isName_iff {name : String} : isName name.toList ↔ name ≠ "" ∧ '\n' ∉ name.toList := by
  simp [isName]

theorem isHash_iff {hash : String} : isHash hash.toList ↔
    hash.length = 8 ∧ ∀ c ∈ hash.toList, ('a' ≤ c ∧ c ≤ 'z') ∨ ('0' ≤ c ∧ c ≤ '9') := by
  simp [isHash, isHashChar, hashLength, String.length_toList]

/-- What is captured in a file name is what it was made of. -/
theorem capture?_eq_some_iff {text fileName : String} {capture : Capture} (accepted : ofText text = .ok pattern) :
    pattern.capture? fileName = some capture ↔ Fits text fileName capture := by
  obtain ⟨shape, once⟩ := ofText_eq_ok_iff.mp accepted
  have present : 0 < occurrences "[hash]" text.toList ↔ .hash ∈ pattern.front ++ pattern.back := by
    rw [← Piece.mem_parse .hash rfl, shape, ← List.count_pos_iff, count_hash_pieces, List.count_pos_iff]
  obtain ⟨name, hash, extension⟩ := capture
  constructor
  · intro found
    obtain ⟨stem, read, whole⟩ := capture?_sound found
    obtain ⟨named, seen, valid, written⟩ := readStem_sound read once
    obtain ⟨named, oneLine⟩ := isName_iff.mp named
    refine ⟨named, oneLine, ?_, fun hash member => isHash_iff.mp (valid _ (Option.mem_map_of_mem _ member)), ?_⟩
    · rw [present, ← seen, Option.isSome_map]
    · rw [spells_iff_fileName, ← String.toList_inj, whole, toList_fileName accepted, written]
      cases hash <;> simp
  · rintro ⟨named, oneLine, hashed, valid, spells⟩
    have isNamed : isName name.toList := isName_iff.mpr ⟨named, oneLine⟩
    rw [present] at hashed
    obtain rfl := spells_iff_fileName.mp spells
    cases hash with
    | some hash =>
      have present : .hash ∈ pattern.front ++ pattern.back := hashed.mp rfl
      simp [capture?_fileName accepted (isHash_iff.mpr (valid hash rfl)), reading, isNamed, present]
    | none =>
      have absent : .hash ∉ pattern.front ++ pattern.back := mt hashed.mpr (by simp)
      have same : Bundle.fileName text name "" extension = Bundle.fileName text name "00000000" extension := by
        rw [← String.toList_inj, toList_fileName accepted, toList_fileName accepted, stem_congr absent]
      have filler : isHash "00000000".toList := by decide
      simp [same, capture?_fileName accepted filler, reading, isNamed, absent]

end Pattern
end ComponentViews.Bundle
