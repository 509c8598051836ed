import ComponentViews.Bundle.Pattern

/-! File names as a pattern writes them, and what the pattern reads in them. The parts
around the name have a fixed length, so what is read is what was written. -/

namespace ComponentViews.Bundle

def Fixed.piece : Fixed → Piece
  | .char value => .char value
  | .hash => .hash

/-- What stands for a piece in a file name. -/
def Piece.write (name hash : List Char) (extension : Extension) : Piece → List Char
  | .char value => [value]
  | .name => name
  | .hash => hash
  | .extension => extension.text.toList

/-- What stands for a fixed part in a file name. -/
def Fixed.write (hash : List Char) : Fixed → List Char
  | .char value => [value]
  | .hash => hash

/-- The file name that the text of a pattern makes of a name, a hash and an extension. -/
def fileName (text name hash : String) (extension : Extension) : String :=
  String.ofList ((Piece.parse text.toList).flatMap (Piece.write name.toList hash.toList extension))

theorem piece_of_fixed? {piece : Piece} {part : Fixed} (fixed : piece.fixed? = some part) : part.piece = piece := by
  cases piece with
  | char value => obtain rfl := Option.some.inj fixed; rfl
  | hash => obtain rfl := Option.some.inj fixed; rfl
  | name => cases fixed
  | extension => cases fixed

theorem map_piece_of_mapM {pieces : List Piece} {parts : List Fixed} (fixed : pieces.mapM Piece.fixed? = some parts) :
    parts.map Fixed.piece = pieces := by
  induction pieces generalizing parts with
  | nil => simp_all
  | cons piece pieces ih =>
    simp only [List.mapM_cons, bind, Option.bind_eq_some_iff, pure, Option.some.injEq] at fixed
    obtain ⟨part, first, others, later, rfl⟩ := fixed
    simp [piece_of_fixed? first, ih later]

theorem write_piece (name hash : List Char) (extension : Extension) (part : Fixed) :
    part.piece.write name hash extension = part.write hash := by
  cases part <;> rfl

namespace Pattern
variable {pattern : Pattern} {name hash : List Char} {extension : Extension}

/-- A file name without its extension. -/
def stem (pattern : Pattern) (name hash : List Char) : List Char :=
  pattern.front.flatMap (Fixed.write hash) ++ (name ++ pattern.back.flatMap (Fixed.write hash))

/-- What a file name made of a name and a hash is read as. -/
def reading (pattern : Pattern) (name hash : List Char) : Option (List Char × Option (List Char)) :=
  if isName name then some (name, if .hash ∈ pattern.front ++ pattern.back then some hash else none) else none

theorem pieces_of_ofPieces? {pieces : List Piece} (named : .name ∈ pieces) (found : ofPieces? pieces = some pattern) :
    pieces = pattern.front.map Fixed.piece ++ .name :: pattern.back.map Fixed.piece := by
  obtain ⟨early, late, rfl, absent⟩ := List.eq_append_cons_of_mem named
  have before : ∀ piece ∈ early, decide (piece ≠ Piece.name) = true := by
    intro piece member
    simpa using fun same : piece = .name => absent (same ▸ member)
  simp only [ofPieces?, List.takeWhile_append_of_pos before, List.dropWhile_append_of_pos before, bind,
    Option.bind_eq_some_iff] at found
  obtain ⟨front, first, back, last, found⟩ := found
  split at found
  next =>
    cases found
    rw [map_piece_of_mapM first, map_piece_of_mapM last]
    simp
  next => cases found

/-- The pieces of an accepted text: a name among fixed parts, and the extension at the end. -/
theorem pieces_of_ofText {text : String} (accepted : ofText text = .ok pattern) : Piece.parse text.toList =
    pattern.front.map Fixed.piece ++ .name :: (pattern.back.map Fixed.piece ++ [.extension]) := by
  simp only [ofText] at accepted
  split at accepted
  · cases accepted
  next named =>
    split at accepted
    · cases accepted
    next ended =>
      split at accepted
      next found =>
        cases accepted
        simp only [ne_eq, Decidable.not_not] at named ended
        obtain ⟨inner, shape⟩ := List.getLast?_eq_some_iff.mp ended
        rw [shape] at named found ⊢
        rw [List.dropLast_concat] at found
        have named : .name ∈ inner := by simpa using named
        rw [pieces_of_ofPieces? named found]
        simp
      · cases accepted

/-- Fixed parts are read as they were written, whatever comes behind them. -/
theorem readFixed_write (valid : isHash hash) (parts : List Fixed) (rest : List Char) :
    readFixed parts (parts.flatMap (Fixed.write hash) ++ rest) =
      some (if .hash ∈ parts then some hash else none, rest) := by
  induction parts with
  | nil => simp [readFixed]
  | cons part parts ih =>
    cases part with
    | char value => simp [readFixed, Fixed.write, ih]
    | hash =>
      have length : hash.length = hashLength := by simp_all [isHash]
      have start : (hash ++ (parts.flatMap (Fixed.write hash) ++ rest)).take hashLength = hash := by simp [← length]
      have behind : (hash ++ (parts.flatMap (Fixed.write hash) ++ rest)).drop hashLength =
          parts.flatMap (Fixed.write hash) ++ rest := by simp [← length]
      simp only [List.flatMap_cons, Fixed.write, List.append_assoc, readFixed, start, behind, valid, if_true, ih]
      simp

theorem length_write (valid : isHash hash) (parts : List Fixed) :
    (parts.flatMap (Fixed.write hash)).length = width parts := by
  have length : hash.length = hashLength := by simp_all [isHash]
  induction parts with
  | nil => rfl
  | cons part parts ih =>
    cases part <;> simp only [List.flatMap_cons, Fixed.write, List.length_append, width, ih, List.length_singleton, length] <;>
      omega

theorem readStem_stem (valid : isHash hash) : pattern.readStem (pattern.stem name hash) = pattern.reading name hash := by
  have short : (name ++ pattern.back.flatMap (Fixed.write hash)).length - width pattern.back = name.length := by
    simp [length_write valid]
  have late := readFixed_write valid pattern.back []
  rw [List.append_nil] at late
  simp only [readStem, stem, reading, readFixed_write valid, bind, Option.bind_some, short, List.take_left, List.drop_left,
    late]
  by_cases named : isName name
  · by_cases early : Fixed.hash ∈ pattern.front <;> simp [named, early]
  · simp [named]

theorem toList_fileName {text name hash : String} (accepted : ofText text = .ok pattern) :
    (fileName text name hash extension).toList = pattern.stem name.toList hash.toList ++ extension.text.toList := by
  have fixed : ∀ parts : List Fixed, (parts.map Fixed.piece).flatMap (Piece.write name.toList hash.toList extension) =
      parts.flatMap (Fixed.write hash.toList) := by
    intro parts
    simp [List.flatMap_map, write_piece]
  simp [fileName, stem, pieces_of_ofText accepted, fixed, Piece.write]

theorem stemOf?_append (stem : List Char) (extension : Extension) :
    stemOf? extension (stem ++ extension.text.toList) = some stem := by
  simp [stemOf?]

theorem stemOf?_other (stem : List Char) {extension other : Extension} (different : extension ≠ other) :
    stemOf? extension (stem ++ other.text.toList) = none := by
  have apart : ¬ extension.text.toList <:+ stem ++ other.text.toList := by
    intro ending
    have last : other.text.toList <:+ stem ++ other.text.toList := List.suffix_append ..
    have tails := List.suffix_or_suffix_of_suffix ending last
    have neither : ¬(Extension.script.text.toList <:+ Extension.style.text.toList) ∧
        ¬(Extension.style.text.toList <:+ Extension.script.text.toList) := by decide
    cases extension with
    | script =>
      cases other with
      | script => exact different rfl
      | style => exact tails.elim neither.1 neither.2
    | style =>
      cases other with
      | script => exact tails.elim neither.2 neither.1
      | style => exact different rfl
  simp [stemOf?, apart]

/-- A file name is read as the pattern wrote it, if the name that it was made of is one. -/
theorem capture?_fileName {text name hash : String} (accepted : ofText text = .ok pattern)
    (valid : isHash hash.toList) : pattern.capture? (fileName text name hash extension) =
      (pattern.reading name.toList hash.toList).map fun (name, hash) =>
        { name := String.ofList name, hash := hash.map String.ofList, extension } := by
  have same : pattern.captureWith? (fileName text name hash extension).toList extension =
      (pattern.reading name.toList hash.toList).map fun (name, hash) =>
        { name := String.ofList name, hash := hash.map String.ofList, extension } := by
    rw [captureWith?, toList_fileName accepted, stemOf?_append]
    simp only [bind, Option.bind_some, readStem_stem valid]
    cases pattern.reading name.toList hash.toList <;> rfl
  have other : ∀ wrong, wrong ≠ extension →
      pattern.captureWith? (fileName text name hash extension).toList wrong = none := by
    intro wrong different
    rw [captureWith?, toList_fileName accepted, stemOf?_other _ different]
    rfl
  unfold capture?
  cases extension with
  | script => rw [same, other .style (by simp), Option.or_none]
  | style => rw [same, other .script (by simp), Option.none_or]

/-- Different names make different file names, whatever the hashes. -/
theorem name_eq_of_fileName {text name other hash hash' : String} (accepted : ofText text = .ok pattern)
    (valid : isHash hash.toList) (valid' : isHash hash'.toList) (named : isName name.toList) (named' : isName other.toList)
    (same : fileName text name hash extension = fileName text other hash' extension) : name = other := by
  have read := congrArg pattern.capture? same
  simpa [capture?_fileName accepted valid, capture?_fileName accepted valid', reading, named, named'] using
    congrArg (Option.map Capture.name) read

theorem suffix_of_captureWith? {fileName : List Char} {capture : Capture}
    (found : pattern.captureWith? fileName extension = some capture) :
    capture.extension = extension ∧ extension.text.toList.isSuffixOf fileName := by
  simp only [captureWith?, bind, Option.bind_eq_some_iff, pure, Option.some.injEq] at found
  obtain ⟨stem, cut, -, -, rfl⟩ := found
  refine ⟨rfl, ?_⟩
  unfold stemOf? at cut
  split at cut
  next ending => exact ending
  next => cases cut

theorem endsWith_of_capture? {fileName : String} {capture : Capture} (found : pattern.capture? fileName = some capture) :
    capture.extension.text.toList.isSuffixOf fileName.toList := by
  rcases Option.or_eq_some_iff.mp found with script | ⟨-, style⟩
  · obtain ⟨same, ending⟩ := suffix_of_captureWith? script
    rwa [same]
  · obtain ⟨same, ending⟩ := suffix_of_captureWith? style
    rwa [same]

end Pattern
end ComponentViews.Bundle
