import ComponentViews.Shell.Name
import ComponentViews.Shell.Script

/-! Words with braces, each of which stands for several: one for every piece between commas, or one
for every step from one number or letter to another. -/

namespace ComponentViews.Shell.Word

/-- Whether a part is a sign outside quotes. -/
def isSign (sign : Char) : Part → Bool
  | .text [c] false => c = sign
  | _ => false

/-- The pieces up to the brace that closes them, within some braces of their own, and what stands
behind it. -/
def pieces? : Nat → Word → Option (List Word × Word)
  | _, [] => none
  | depth, part :: rest =>
    let push (found : List Word × Word) : List Word × Word := ((part :: found.1.headD []) :: found.1.drop 1, found.2)
    if isSign '\x7d' part then if depth = 0 then some ([[]], rest) else (pieces? (depth - 1) rest).map push
    else if isSign '\x7b' part then (pieces? (depth + 1) rest).map push
    else if isSign ',' part && depth = 0 then (pieces? 0 rest).map fun (pieces, after) => ([] :: pieces, after)
    else (pieces? depth rest).map push

def integer? (text : Octets) : Option Int :=
  let digits := if text.head? = some '-' || text.head? = some '+' then text.drop 1 else text
  if digits = [] || !digits.all Name.isDigit then none
  else
    let value : Int := (digits.foldl (fun value c => value * 10 + (c.toNat - '0'.toNat)) 0 : Nat)
    some (if text.head? = some '-' then -value else value)

/-- The numbers from one to another by steps of a size. -/
def steps (first last : Int) (size : Nat) : List Int :=
  let count := (last - first).natAbs / size + 1
  (List.range count).map fun index => if first ≤ last then first + (index * size : Nat) else first - (index * size : Nat)

/-- Digits behind a sign, filled up with zeros. -/
def padded (width : Nat) (value : Int) : Octets :=
  let digits := Nat.toDigits 10 value.natAbs
  let sign : Octets := if value < 0 then ['-'] else []
  sign ++ List.replicate (width - digits.length - sign.length) '0' ++ digits

def isPadded (text : Octets) : Bool :=
  let digits := if text.head? = some '-' then text.drop 1 else text
  digits.length > 1 && digits.head? = some '0'

/-- The texts that two ends and perhaps the size of a step stand for. -/
def sequence? (text : Octets) : Option (List Octets) :=
  let ends := (String.ofList text).splitOn ".."
  let size? (word : Option String) : Option Nat := match word with
    | none => some 1
    | some word => (integer? word.toList).map fun size => max 1 size.natAbs
  match ends.map String.toList with
  | first :: last :: rest =>
    if rest.length > 1 then none
    else match size? ends[2]?, integer? first, integer? last with
      | some size, some low, some high =>
        let width := if isPadded first || isPadded last then max first.length last.length else 0
        some ((steps low high size).map (padded width))
      | some size, none, none =>
        match first, last with
        | [low], [high] =>
          let isLetter (c : Char) : Bool := Name.isStart c && c ≠ '_'
          if isLetter low && isLetter high then
            some ((steps low.toNat high.toNat size).map fun code => [Char.ofNat code.toNat])
          else none
        | _, _ => none
      | _, _, _ => none
  | _ => none

/-- What stands for the braces around pieces, if they mean anything. -/
def alternatives? : List Word → Option (List Word)
  | [piece] => ((Word.plain? piece).bind sequence?).map fun texts => texts.map fun text => [.text text true]
  | pieces => some pieces

def expandFrom : Nat → Word → List Word
  | 0, word => [word]
  | fuel + 1, word =>
    let start := word.takeWhile fun part => !isSign '\x7b' part
    match word.drop start.length with
    | [] => [word]
    | brace :: inner =>
      match (pieces? 0 inner).bind fun (pieces, after) => (alternatives? pieces).map (·, after) with
      | some (alternatives, after) =>
        let later := expandFrom fuel after
        (alternatives.flatMap (expandFrom fuel)).flatMap fun first => later.map fun last => start ++ first ++ last
      | none => (expandFrom fuel inner).map (start ++ brace :: ·)

/-- The words that a word with braces stands for. -/
def expandBraces (word : Word) : List Word :=
  if word.any (isSign '\x7b') then expandFrom (word.length + 1) word else [word]

end ComponentViews.Shell.Word
