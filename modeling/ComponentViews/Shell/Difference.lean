import ComponentViews.Shell.Octets

/-! What has to be changed to make one list of lines another one: as few lines as can be. A
shortest way is found from both ends at once, and is cut in two where the ends meet. -/

namespace ComponentViews.Shell.Difference

/-- The lines of both sides, as they are compared. -/
structure Sides where
  left : Array Octets
  right : Array Octets

/-- Which lines of both sides are changed. -/
structure Marks where
  left : Array Bool
  right : Array Bool

/-- Lines of both sides between bounds. -/
structure Box where
  left : Int
  leftEnd : Int
  right : Int
  rightEnd : Int

def lineAt (lines : Array Octets) (index : Int) : Option Octets := if index < 0 then none else lines[index.toNat]?

def Sides.agree (sides : Sides) (x y : Int) : Bool := lineAt sides.left x = lineAt sides.right y

/-- How far a search has come on each diagonal between two of them. -/
structure Front where
  reached : Array Int
  low : Int
  high : Int

namespace Front

/-- Where diagonals begin in the array. -/
def base (sides : Sides) : Int := sides.right.size + 2

def start (sides : Sides) (diagonal value : Int) : Front where
  reached := (Array.replicate (sides.left.size + sides.right.size + 5) 0).setIfInBounds
    (diagonal + base sides).toNat value
  low := diagonal
  high := diagonal

def get (sides : Sides) (front : Front) (diagonal : Int) : Int :=
  front.reached.getD (diagonal + base sides).toNat 0

def set (sides : Sides) (front : Front) (diagonal value : Int) : Front :=
  { front with reached := front.reached.setIfInBounds (diagonal + base sides).toNat value }

/-- Takes in one more diagonal on each side, where there still is one. -/
def widened (sides : Sides) (box : Box) (outside : Int) (front : Front) : Front :=
  let lowered := if front.low > box.left - box.rightEnd then
      ({ front with low := front.low - 1 }).set sides (front.low - 2) outside
    else { front with low := front.low + 1 }
  if front.high < box.leftEnd - box.right then
    ({ lowered with high := front.high + 1 }).set sides (front.high + 2) outside
  else { lowered with high := front.high - 1 }

end Front

/-- Goes on along a diagonal as long as lines agree. -/
def slideDown (sides : Sides) (box : Box) (diagonal : Int) : Nat → Int → Int
  | 0, x => x
  | fuel + 1, x =>
    if x < box.leftEnd ∧ x - diagonal < box.rightEnd ∧ sides.agree x (x - diagonal) then
      slideDown sides box diagonal fuel (x + 1)
    else x

def slideUp (sides : Sides) (box : Box) (diagonal : Int) : Nat → Int → Int
  | 0, x => x
  | fuel + 1, x =>
    if box.left < x ∧ box.right < x - diagonal ∧ sides.agree (x - 1) (x - diagonal - 1) then
      slideUp sides box diagonal fuel (x - 1)
    else x

/-- One more step of the search from the top, from a diagonal downwards; it may meet the other search. -/
def stepDown (sides : Sides) (box : Box) (meets : Bool) (other : Front) : Nat → Int → Front → Except (Int × Int) Front
  | 0, _, front => .ok front
  | fuel + 1, diagonal, front =>
    if diagonal < front.low then .ok front
    else
      let below := front.get sides (diagonal - 1)
      let above := front.get sides (diagonal + 1)
      let reached := slideDown sides box diagonal (sides.left.size + 1) (if below < above then above else below + 1)
      if meets ∧ other.low ≤ diagonal ∧ diagonal ≤ other.high ∧ other.get sides diagonal ≤ reached then
        .error (reached, reached - diagonal)
      else stepDown sides box meets other fuel (diagonal - 2) (front.set sides diagonal reached)

def stepUp (sides : Sides) (box : Box) (meets : Bool) (other : Front) : Nat → Int → Front → Except (Int × Int) Front
  | 0, _, front => .ok front
  | fuel + 1, diagonal, front =>
    if diagonal < front.low then .ok front
    else
      let below := front.get sides (diagonal - 1)
      let above := front.get sides (diagonal + 1)
      let reached := slideUp sides box diagonal (sides.left.size + 1) (if below < above then below else above - 1)
      if meets ∧ other.low ≤ diagonal ∧ diagonal ≤ other.high ∧ reached ≤ other.get sides diagonal then
        .error (reached, reached - diagonal)
      else stepUp sides box meets other fuel (diagonal - 2) (front.set sides diagonal reached)

/-- Where both searches meet. -/
def meeting (sides : Sides) (box : Box) : Nat → Front → Front → Int × Int
  | 0, _, _ => (box.left, box.right)
  | fuel + 1, top, bottom =>
    let odd := (box.left - box.right - (box.leftEnd - box.rightEnd)) % 2 ≠ 0
    let steps := sides.left.size + sides.right.size + 3
    let top := top.widened sides box (-1)
    match stepDown sides box odd bottom steps top.high top with
    | .error found => found
    | .ok top =>
      let bottom := bottom.widened sides box (sides.left.size + sides.right.size + 2)
      match stepUp sides box (!odd) top steps bottom.high bottom with
      | .error found => found
      | .ok bottom => meeting sides box fuel top bottom

def mark (marks : Array Bool) (first last : Int) : Array Bool :=
  (List.range (last - first).toNat).foldl (fun marks index =>
    marks.setIfInBounds (first.toNat + index) true) marks

/-- Marks the lines of a box that have to be changed. -/
def search (sides : Sides) : Nat → Box → Marks → Marks
  | 0, _, marks => marks
  | fuel + 1, box, marks =>
    let down := slideDown sides box (box.left - box.right) (sides.left.size + 1) box.left
    let box := { box with left := down, right := box.right + (down - box.left) }
    let up := slideUp sides box (box.leftEnd - box.rightEnd) (sides.left.size + 1) box.leftEnd
    let box := { box with leftEnd := up, rightEnd := box.rightEnd - (box.leftEnd - up) }
    if box.left = box.leftEnd then { marks with right := mark marks.right box.right box.rightEnd }
    else if box.right = box.rightEnd then { marks with left := mark marks.left box.left box.leftEnd }
    else
      let top := Front.start sides (box.left - box.right) box.left
      let bottom := Front.start sides (box.leftEnd - box.rightEnd) box.leftEnd
      let (x, y) := meeting sides box (sides.left.size + sides.right.size + 2) top bottom
      let first := search sides fuel { box with leftEnd := x, rightEnd := y } marks
      search sides fuel { box with left := x, right := y } first

/-! ### Changes at their best place -/

/-- Whether a line is changed; there is none outside. -/
def isMarked (marks : Array Bool) (index : Int) : Bool := 0 ≤ index && marks.getD index.toNat false

/-- The first line from one on that is not changed. -/
def freeFrom (marks : Array Bool) : Nat → Int → Int
  | 0, index => index
  | fuel + 1, index => if isMarked marks index then freeFrom marks fuel (index + 1) else index

/-- The last line up to one that is not changed. -/
def freeBefore (marks : Array Bool) : Nat → Int → Int
  | 0, index => index
  | fuel + 1, index => if isMarked marks index then freeBefore marks fuel (index - 1) else index

/-- A run of changed lines, with the place on the other side that it stands at. -/
structure Run where
  marks : Array Bool
  start : Int
  stop : Int
  place : Int
  /-- Where the run would end at a run of the other side. -/
  corresponding : Int

/-- Moves a run back by a line; runs that it comes up to become a part of it. -/
def Run.back (other : Array Bool) (run : Run) : Run :=
  let fuel := run.marks.size + other.size + 2
  let marks := (run.marks.setIfInBounds (run.start - 1).toNat true).setIfInBounds (run.stop - 1).toNat false
  { run with
    marks, start := freeBefore marks fuel (run.start - 2) + 1, stop := run.stop - 1
    place := freeBefore other fuel (run.place - 1) }

def Run.moveBack (lines : Array Octets) (other : Array Bool) : Nat → Run → Run
  | 0, run => run
  | fuel + 1, run =>
    if run.start > 0 ∧ lineAt lines (run.start - 1) = lineAt lines (run.stop - 1) then
      moveBack lines other fuel (run.back other)
    else run

def Run.moveOn (lines : Array Octets) (other : Array Bool) : Nat → Run → Run
  | 0, run => run
  | fuel + 1, run =>
    if run.stop < lines.size ∧ lineAt lines run.start = lineAt lines run.stop then
      let limit := run.marks.size + other.size + 2
      let marks := (run.marks.setIfInBounds run.start.toNat false).setIfInBounds run.stop.toNat true
      let stop := freeFrom marks limit (run.stop + 1)
      let place := freeFrom other limit (run.place + 1)
      moveOn lines other fuel {
        marks, start := run.start + 1, stop, place
        corresponding := if place > run.place + 1 then stop else run.corresponding }
    else run

/-- Moves a run back and forth until it takes in no more lines. -/
def Run.settle (lines : Array Octets) (other : Array Bool) : Nat → Run → Run
  | 0, run => run
  | fuel + 1, run =>
    let limit := lines.size + 1
    let moved := run.moveBack lines other limit
    let placed := { moved with corresponding := if isMarked other (moved.place - 1) then moved.stop else lines.size }
    let gone := placed.moveOn lines other limit
    if gone.stop - gone.start = run.stop - run.start then gone else settle lines other fuel gone

def Run.moveTo (other : Array Bool) : Nat → Run → Run
  | 0, run => run
  | fuel + 1, run =>
    if run.corresponding < run.stop then
      let limit := run.marks.size + other.size + 2
      let marks := (run.marks.setIfInBounds (run.start - 1).toNat true).setIfInBounds (run.stop - 1).toNat false
      moveTo other fuel
        { run with
          marks, start := run.start - 1, stop := run.stop - 1, place := freeBefore other limit (run.place - 1) }
    else run

/-- The line behind as many unchanged ones as there are on the other side up to a place. -/
def unchangedFrom (marks other : Array Bool) : Nat → Int → Int → Int × Int
  | 0, index, place => (index, place)
  | fuel + 1, index, place =>
    if index < marks.size ∧ !isMarked marks index then
      unchangedFrom marks other fuel (index + 1) (freeFrom other (other.size + 1) place + 1)
    else (index, place)

/-- Moves each run of changed lines of a side as far down as it can be, but to a run of the
other side if there is one. -/
def shifted (lines : Array Octets) (other : Array Bool) : Nat → Int → Int → Array Bool → Array Bool
  | 0, _, _, marks => marks
  | fuel + 1, index, place, marks =>
    let (start, place) := unchangedFrom marks other (marks.size + 1) index place
    if start = marks.size then marks
    else
      let limit := marks.size + other.size + 2
      let run : Run := {
        marks, start, stop := freeFrom marks limit (start + 1), place := freeFrom other limit place
        corresponding := lines.size }
      let settled := (run.settle lines other limit).moveTo other limit
      shifted lines other fuel settled.stop settled.place settled.marks

/-- Which lines of both sides have to be changed. Lines that the other side does not have at
all are changed anyway, and searched for no more. -/
def marks (sides : Sides) : Marks :=
  let known (lines : Array Octets) (line : Octets) : Bool := lines.contains line
  let numbered (lines others : Array Octets) : Array (Octets × Nat) :=
    lines.zipIdx.filter fun entry => known others entry.1
  let (left, right) := (numbered sides.left sides.right, numbered sides.right sides.left)
  let kept : Sides := { left := left.map Prod.fst, right := right.map Prod.fst }
  let free : Marks :=
    { left := Array.replicate left.size false, right := Array.replicate right.size false }
  let box : Box := { left := 0, leftEnd := left.size, right := 0, rightEnd := right.size }
  let found := search kept (left.size + right.size + 2) box free
  let spread (lines : Array Octets) (numbered : Array (Octets × Nat)) (marks : Array Bool) : Array Bool :=
    (numbered.zip marks).foldl (fun all entry => all.setIfInBounds entry.1.2 entry.2) (Array.replicate lines.size true)
  let leftMarks := spread sides.left left found.left
  let rightMarks := spread sides.right right found.right
  let leftMarks := shifted sides.left rightMarks (sides.left.size + 1) 0 0 leftMarks
  { left := leftMarks, right := shifted sides.right leftMarks (sides.right.size + 1) 0 0 rightMarks }

/-- Lines that give way to others: where they begin on both sides, and how many they are. -/
structure Change where
  left : Nat
  leftCount : Nat
  right : Nat
  rightCount : Nat
  deriving DecidableEq, Repr

def changesFrom (marks : Marks) : Nat → Nat → Nat → List Change
  | 0, _, _ => []
  | fuel + 1, x, y =>
    if x ≥ marks.left.size ∧ y ≥ marks.right.size then []
    else
      let limit := marks.left.size + marks.right.size + 1
      let leftEnd := (freeFrom marks.left limit x).toNat
      let rightEnd := (freeFrom marks.right limit y).toNat
      if leftEnd = x ∧ rightEnd = y then changesFrom marks fuel (x + 1) (y + 1)
      else { left := x, leftCount := leftEnd - x, right := y, rightCount := rightEnd - y } ::
        changesFrom marks fuel leftEnd rightEnd

/-- The changes that lead from one side to the other, in order. -/
def changes (sides : Sides) : List Change :=
  changesFrom (marks sides) (sides.left.size + sides.right.size + 1) 0 0

end ComponentViews.Shell.Difference
