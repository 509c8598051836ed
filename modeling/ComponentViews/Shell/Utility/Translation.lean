import ComponentViews.Shell.CharSet
import ComponentViews.Shell.Utility.Options

/-! Characters for characters: sets that are spelled out, and input whose characters are
replaced, left out or squeezed by them. -/

namespace ComponentViews.Shell.Utility

namespace Translation

/-- A part of a set. -/
inductive Piece where
  | single (value : Char)
  | range (first last : Char)
  | kind (name : String)
  | same (value : Char)
  /-- A character some times, or as often as it takes. -/
  | repeated (value : Char) (count : Option Nat)
  deriving DecidableEq, Repr

/-- What is wrong with a set, or with two of them. -/
inductive SetFault where
  | reversed (first last : Char)
  | noKind
  | unknownKind (name : Octets)
  | noSame
  | longSame (name : Octets)
  | count (text : Octets)
  | repeatedFirst
  | repeatedTwice
  | repeatedOutside
  | sameSecond
  | kindSecond
  | misaligned
  | emptySecond
  | kindAtEnd
  | manyFromOthers
  deriving DecidableEq, Repr

/-- A character as complaints show it. -/
def image (c : Char) : Octets :=
  if c = '\\' then ['\\', '\\'] else ((hiddenLetters? c).map ('\\' :: ·)).getD [c]

def SetFault.message : SetFault → Octets
  | .reversed first last =>
    .ofText "range-endpoints of '" ++ image first ++ '-' :: image last ++ .ofText "' are in reverse collating sequence order"
  | .noKind => .ofText "missing character class name '[::]'"
  | .unknownKind name => .ofText "invalid character class " ++ quoted name
  | .noSame => .ofText "missing equivalence class character '[==]'"
  | .longSame name => name.flatMap image ++ .ofText ": equivalence class operand must be a single character"
  | .count text => .ofText "invalid repeat count " ++ quoted text ++ .ofText " in [c*n] construct"
  | .repeatedFirst => .ofText "the [c*] repeat construct may not appear in string1"
  | .repeatedTwice => .ofText "only one [c*] repeat construct may appear in string2"
  | .repeatedOutside => .ofText "the [c*] construct may appear in string2 only when translating"
  | .sameSecond => .ofText "[=c=] expressions may not appear in string2 when translating"
  | .kindSecond =>
    .ofText "when translating, the only character classes that may appear in\nstring2 are 'upper' and 'lower'"
  | .misaligned => .ofText "misaligned [:upper:] and/or [:lower:] construct"
  | .emptySecond => .ofText "when not truncating set1, string2 must be non-empty"
  | .kindAtEnd =>
    .ofText ("when translating with string1 longer than string2,\nthe latter string must not end with a character class")
  | .manyFromOthers =>
    .ofText "when translating with complemented character classes,\nstring2 must map all characters in the domain to one"

/-- Characters with whether a backslash stood in front, and warnings about them. -/
def unescaped : Nat → Octets → List (Char × Bool) × List Octets
  | 0, _ => ([], [])
  | _ + 1, [] => ([], [])
  | fuel + 1, '\\' :: rest =>
    match rest with
    | [] => ([('\\', false)], [.ofText "warning: an unescaped backslash at end of string is not portable"])
    | c :: later =>
      match Format.octalDigit? c, letter? c with
      | some _, _ =>
        let digits := (rest.take 3).takeWhile fun c => (Format.octalDigit? c).isSome
        let (value, _) := Format.readOctal 3 0 digits
        if value > 255 then
          let (short, _) := Format.readOctal 2 0 digits
          let (found, warnings) := unescaped fuel (rest.drop 2)
          let last := digits.drop 2
          let warning : Octets := .ofText "warning: the ambiguous octal escape \\" ++ digits ++
            .ofText " is being\n\tinterpreted as the 2-byte sequence \\0" ++ digits.take 2 ++ .ofText ", " ++ last
          ((Char.ofNat short, true) :: found, warning :: warnings)
        else
          let (found, warnings) := unescaped fuel (rest.drop digits.length)
          ((Char.ofNat value, true) :: found, warnings)
      | none, some value =>
        let (found, warnings) := unescaped fuel later
        ((value, true) :: found, warnings)
      | none, none =>
        let (found, warnings) := unescaped fuel later
        ((c, true) :: found, warnings)
  | fuel + 1, c :: rest =>
    let (found, warnings) := unescaped fuel rest
    ((c, false) :: found, warnings)
where
  letter? (c : Char) : Option Char := if c = 'e' then none else Format.letterEscape? c

def is (c : Char) (entry : Char × Bool) : Bool := entry.1 = c && !entry.2

/-- The name between marks such as `[:` and `:]`, behind the first of them, and the rest. -/
def nameUpTo (mark : Char) (input : List (Char × Bool)) : Option (Octets × List (Char × Bool)) :=
  (List.range input.length).findSome? fun index =>
    if (input[index]?.any (is mark)) && (input[index + 1]?.any (is ']')) then
      some ((input.take index).map Prod.fst, input.drop (index + 2))
    else none

/-- A character that is repeated, behind the bracket that opens it, and the rest. -/
def readRepeated? (input : List (Char × Bool)) : Except SetFault (Option (Piece × List (Char × Bool))) :=
  match input with
  | (c, _) :: star :: rest =>
    let digits := rest.takeWhile fun entry => !entry.2 && entry.1 ≠ ']'
    if !is '*' star ∨ !(rest[digits.length]?.any (is ']')) then .ok none
    else
      let text := digits.map Prod.fst
      let behind := rest.drop (digits.length + 1)
      let isOctal := text.head? = some '0'
      let value? : Option Nat := if isOctal then
          if text.all fun c => (Format.octalDigit? c).isSome then some (Expression.readDigits 8 0 text).1 else none
        else Format.natural? text
      if text = [] then .ok (some (.repeated c none, behind))
      else match value? with
        | some 0 => .ok (some (.repeated c none, behind))
        | some value => .ok (some (.repeated c (some value), behind))
        | none => .error (.count text)
  | _ => .ok none

/-- Whether a repeat count and a bracket come next. -/
def isCounted (input : List (Char × Bool)) : Bool :=
  match input with
  | star :: rest => is '*' star && (rest.dropWhile fun entry => !entry.2 && Name.isDigit entry.1).head?.any (is ']')
  | [] => false

/-- The pieces of a set. -/
def readPieces : Nat → List (Char × Bool) → Except SetFault (List Piece)
  | 0, _ => .ok []
  | _ + 1, [] => .ok []
  | fuel + 1, first :: rest => do
    let asRepeated (failure : Option SetFault) : Except SetFault (List Piece) := do
      match ← readRepeated? rest, failure with
      | some (piece, rest), _ => return piece :: (← readPieces fuel rest)
      | none, some failure => .error failure
      | none, none => return .single first.1 :: (← readPieces fuel rest)
    match is '[' first && rest.length > 1, rest with
    | true, (':', false) :: inner =>
      match nameUpTo ':' inner with
      | none => asRepeated none
      | some ([], _) => .error .noKind
      | some (name, behind) =>
        if (CharSet.named? (String.ofList name)).isSome then
          return .kind (String.ofList name) :: (← readPieces fuel behind)
        else if isCounted inner then asRepeated none else .error (.unknownKind name)
    | true, ('=', false) :: inner =>
      match nameUpTo '=' inner with
      | none => asRepeated none
      | some ([], _) => .error .noSame
      | some ([c], behind) => return .same c :: (← readPieces fuel behind)
      | some (name, _) => if isCounted inner then asRepeated none else .error (.longSame name)
    | true, _ =>
      match ← readRepeated? rest with
      | some (piece, behind) => return piece :: (← readPieces fuel behind)
      | none => ranged fuel first rest
    | false, _ => ranged fuel first rest
where
  /-- A range of characters, or a single one. -/
  ranged (fuel : Nat) (first : Char × Bool) (rest : List (Char × Bool)) : Except SetFault (List Piece) := do
    match rest with
    | dash :: last :: behind =>
      if !is '-' dash ∨ is '[' first then return .single first.1 :: (← readPieces fuel rest)
      else if last.1 < first.1 then .error (.reversed first.1 last.1)
      else return .range first.1 last.1 :: (← readPieces fuel behind)
    | rest => return .single first.1 :: (← readPieces fuel rest)

/-- The characters from one to another. -/
def between (first last : Char) : List Char :=
  (List.range (last.toNat + 1 - first.toNat)).map fun index => Char.ofNat (first.toNat + index)

def allOctets : List Char := (List.range 256).map Char.ofNat

/-- The characters of a piece; what is repeated as often as it takes has a length given. -/
def Piece.members (open? : Nat) : Piece → List Char
  | .single c => [c]
  | .range first last => between first last
  | .kind name =>
    let ranges := ((CharSet.named? name).getD []).mergeSort fun a b => decide (a.1 ≤ b.1)
    ranges.flatMap fun range => between range.1 range.2
  | .same c => [c]
  | .repeated c count => List.replicate (min (count.getD open?) 100000) c

def Piece.isCase : Piece → Bool
  | .kind name => name = "upper" || name = "lower"
  | _ => false

def Piece.isKind : Piece → Bool
  | .kind _ => true
  | _ => false

def Piece.isSame : Piece → Bool
  | .same _ => true
  | _ => false

def Piece.isOpen : Piece → Bool
  | .repeated _ none => true
  | _ => false

def members (length : Nat) (pieces : List Piece) : List Char := pieces.flatMap (·.members length)

/-- Where pieces begin, counted in characters, the letters of a case as one. -/
def starts : Nat → List Piece → List (Nat × Piece)
  | _, [] => []
  | position, piece :: rest =>
    (position, piece) :: starts (position + (if piece.isCase then 1 else (piece.members 0).length)) rest

/-- Whether each class of letters in the second set stands where one of the first set does. -/
def areAligned (first second : List Piece) : Bool :=
  let cases := (starts 0 first).filter fun entry => entry.2.isCase
  ((starts 0 second).filter fun entry => entry.2.isCase).all fun entry => cases.any (·.1 = entry.1)

/-- What to do with the input. -/
structure Plan where
  complement : Bool
  deletes : Bool
  squeezes : Bool
  truncates : Bool

/-- The characters of the first set, and of the second one where it is as long as it has to be. -/
def sets (plan : Plan) (first : List Piece) (second : Option (List Piece)) : Except SetFault (List Char × List Char) := do
  let own := members 0 first
  let domain := if plan.complement then allOctets.filter fun c => !own.contains c else own
  if first.any Piece.isOpen then .error .repeatedFirst
  match second with
  | none => pure (domain, [])
  | some second =>
    let fixed := (members 0 second).length
    let target := members (domain.length - fixed) second
    if (second.filter Piece.isOpen).length > 1 then .error .repeatedTwice
    else if plan.deletes then
      if second.any Piece.isOpen then .error .repeatedOutside else pure (domain, target)
    else if second.any Piece.isSame then .error .sameSecond
    else if second.any fun piece => piece.isKind && !piece.isCase then .error .kindSecond
    else if !plan.complement ∧ !areAligned first second then .error .misaligned
    else if domain.length > target.length ∧ !plan.truncates then
      match target.getLast?, second.getLast? with
      | none, _ => .error .emptySecond
      | some last, kind =>
        if kind.any Piece.isKind then .error .kindAtEnd
        else homogeneous (domain, target ++ List.replicate (domain.length - target.length) last)
    else homogeneous (domain, target)
where
  homogeneous (found : List Char × List Char) : Except SetFault (List Char × List Char) :=
    if plan.complement ∧ first.any Piece.isKind ∧ found.2.eraseDups.length ≠ 1 then .error .manyFromOthers else .ok found

/-- Leaves one of each run of a character that is squeezed. -/
def squeeze (set : List Char) : Octets → Octets
  | a :: b :: rest => if a = b ∧ set.contains a then squeeze set (b :: rest) else a :: squeeze set (b :: rest)
  | short => short

def usage : Usage where
  alone := ['c', 'C', 'd', 's', 't']
  valued := []
  words := [("delete", 'd'), ("complement", 'c'), ("squeeze-repeats", 's'), ("truncate-set1", 't')]
  anywhere := false

/-- What is wrong with the operands. -/
def misuse? (plan : Plan) (operands : List Octets) : Option Octets :=
  let both := plan.deletes && plan.squeezes
  match operands with
  | [] => some (.ofText "missing operand")
  | [only] =>
    if plan.deletes = plan.squeezes then
      some (.ofText "missing operand after " ++ quoted only ++ .ofText (if both then
        "\nTwo strings must be given when both deleting and squeezing repeats."
        else "\nTwo strings must be given when translating."))
    else none
  | [_, second] =>
    if plan.deletes ∧ !plan.squeezes then
      some (.ofText "extra operand " ++ quoted second ++
        .ofText "\nOnly one string may be given when deleting without squeezing repeats.")
    else none
  | _ :: second :: third :: _ => some (.ofText "extra operand " ++ quoted (if plan.deletes ∧ !plan.squeezes then second else third))

/-- The characters that are kept for others or replaced. -/
def change (plan : Plan) (two : Bool) (domain target content : Octets) : Octets :=
  if plan.deletes then
    let kept := content.filter fun c => !domain.contains c
    if plan.squeezes then squeeze target kept else kept
  else if !two then squeeze domain content
  else
    let table : Array Char := (domain.zip target).foldl (fun table (c, other) => table.setIfInBounds c.toNat other)
      ((List.range 256).map Char.ofNat).toArray
    let replaced := content.map fun c => (table[c.toNat]?).getD c
    if plan.squeezes then squeeze target replaced else replaced

end Translation

open Translation in
/-- Replaces, deletes or squeezes characters of the input. -/
def translate (arguments : List Octets) (state : State) : State :=
  withOptions "tr" usage 1 arguments state fun options state =>
    let plan : Plan := {
      complement := options.has 'c' || options.has 'C', deletes := options.has 'd', squeezes := options.has 's'
      truncates := options.has 't' }
    match misuse? plan options.operands with
    | some message => hinted "tr" message state
    | none =>
      let texts := options.operands.map fun operand => unescaped (operand.length + 1) operand
      let state := (texts.flatMap Prod.snd).foldl (fun state warning => complain "tr" warning state) state
      let pieces := texts.mapM fun text => readPieces (text.1.length + 1) text.1
      match pieces.bind fun pieces => sets plan (pieces.headD []) pieces[1]? with
      | .error problem => fault "tr" problem.message state
      | .ok (domain, target) =>
        if (state.pending? 0).toOption.isNone then unreadable "tr" ['-'] .closed state
        else (state.leave 0 []).print (change plan (options.operands.length > 1) domain target state.inputPending)

end ComponentViews.Shell.Utility
