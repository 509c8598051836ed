import ComponentViews.Shell.Field
import ComponentViews.Shell.Variables
import ComponentViews.Shell.Wildcard

/-! What parameters of the extended dialect hold, one value or several, and how it changes on the
way into a word. -/

namespace ComponentViews.Shell

/-- What a parameter holds: one value if it is set, or several, which quotes join if they are asked
for as one. -/
inductive Worth where
  | one (value : Option Octets)
  | several (values : List Octets) (joined : Bool)

/-- Which part of a parameter is meant: the first or only one, all of them, or a member by its key. -/
inductive Extent where
  | itself
  | all (joined : Bool)
  | member (key : Octets)

namespace Worth

def of (state : State) (name : Octets) : Extent → Worth
  | .itself =>
    if name = ['@'] || name = ['*'] then .several state.process.arguments (name = ['*'])
    else .one (state.parameter? name)
  | .all joined =>
    match state.members? name with
    | some members => .several members.values joined
    | none => .several (state.parameter? name).toList joined
  | .member key =>
    match state.members? name with
    | some members => .one (members.find? key)
    | none => .one (if key = ['0'] then state.parameter? name else none)

def items (state : State) (quoted : Bool) : Worth → List Item
  | .one value => Item.ofValue quoted (value.getD [])
  | .several values joined =>
    if joined && quoted then Item.ofValue quoted (state.joint.intercalate values) else Item.ofArguments quoted values

def map (change : Octets → Octets) : Worth → Worth
  | .one value => .one (value.map change)
  | .several values joined => .several (values.map change) joined

/-- Whether there is nothing, or only emptiness. -/
def isMissing (evenEmpty : Bool) : Worth → Bool
  | .one none => true
  | .one (some value) => evenEmpty && value.isEmpty
  | .several values _ => values.isEmpty || evenEmpty && values.all List.isEmpty

def size : Worth → Nat
  | .one value => (value.getD []).length
  | .several values _ => values.length

/-- What nothing is known about. -/
def isUnset : Worth → Bool
  | .one value => value.isNone
  | .several _ _ => false

/-! ### Changes -/

def casedChar (casing : Casing) (c : Char) : Char :=
  match casing with
  | .upper => c.toUpper
  | .lower => c.toLower
  | .toggled => if c.isUpper then c.toLower else c.toUpper

/-- A value with letters that fit a pattern in another case, the first of them or every one. -/
def cased (casing : Casing) (every : Bool) (pattern : List Wildcard) (value : Octets) : Octets :=
  let change (c : Char) : Char :=
    if pattern.isEmpty || Wildcard.fits false pattern [c] then casedChar casing c else c
  if every then value.map change else (value.take 1).map change ++ value.drop 1

/-- What takes the place of a text that fits: in it a sign outside quotes stands for that text. -/
def replacement (field : Field) (found : Octets) : Octets :=
  match field with
  | [] => []
  | ('\\', false) :: ('&', false) :: rest => '&' :: replacement rest found
  | ('&', false) :: rest => found ++ replacement rest found
  | (c, _) :: rest => c :: replacement rest found

def substituted (folds : Bool) (scope : Scope) (pattern : List Wildcard) (image : Octets → Octets) (value : Octets) :
    Octets :=
  match scope with
  | .first => if pattern.isEmpty then value else Wildcard.replace folds false pattern image (value.length + 1) value
  | .every => if pattern.isEmpty then value else Wildcard.replace folds true pattern image (value.length + 1) value
  | .start => Wildcard.replaceAt folds true pattern image value
  | .finish => Wildcard.replaceAt folds false pattern image value

/-- Where a slice starts among some places, and where it ends, if it makes sense. -/
def bounds (size : Nat) (start : Int) (extent : Option Int) : Option (Nat × Nat) :=
  let first := if start < 0 then start + size else start
  if first < 0 || first > size then some (0, 0)
  else match extent with
    | none => some (first.toNat, size)
    | some extent =>
      let last := if extent < 0 then size + extent else first + extent
      if last < first then none else some (first.toNat, min size last.toNat)

/-- A part of a value. -/
def slice? (start : Int) (extent : Option Int) (value : Octets) : Option Octets :=
  (bounds value.length start extent).map fun (first, last) => (value.take last).drop first

/-- Some of several values that come with their numbers, from one on. -/
def sliceOf? (numbered : List (Nat × Octets)) (size : Nat) (start : Int) (extent : Option Int) : Option (List Octets) :=
  let first := if start < 0 then start + size else start
  if first < 0 then some []
  else
    let following := (numbered.filter fun entry => decide (first ≤ entry.1)).map Prod.snd
    match extent with
    | none => some following
    | some extent => if extent < 0 then none else some (following.take extent.toNat)

/-- Values with numbers: arguments behind the name of the script, or members of an array. -/
def numberedOf (state : State) (name : Octets) (isArguments : Bool) : List (Nat × Octets) :=
  if isArguments then (state.process.name :: state.process.arguments).zipIdx.map fun (value, number) => (number, value)
  else match state.members? name with
    | some members =>
      if members.keyed then members.values.zipIdx.map fun (value, number) => (number + 1, value)
      else members.entries.map fun (key, value) => (Members.numberOf key, value)
    | none => (state.parameter? name).toList.map fun value => (0, value)

/-- The part of what a parameter holds that starts at one place and is so long. -/
def sliced (state : State) (name : Octets) (start : Int) (extent : Option Int) : Worth → Option Worth
  | .one none => some (.one none)
  | .one (some value) => (slice? start extent value).map fun value => .one (some value)
  | .several _ joined =>
    let isArguments := name = ['@'] || name = ['*']
    let numbered := numberedOf state name isArguments
    let numbered := if isArguments && start < 0 then numbered.drop 1 else numbered
    let size := if isArguments then state.process.arguments.length + 1
      else (numbered.map fun entry => entry.1 + 1).foldl max 0
    (sliceOf? numbered size start extent).map fun values => .several values joined

/-- An octet that an escape stands for, and so on. -/
def unescaped : Nat → Octets → Octets
  | 0, text => text
  | _ + 1, [] => []
  | fuel + 1, '\\' :: rest =>
    let (text, length) := Quoting.escape rest
    text ++ unescaped fuel (rest.drop length)
  | fuel + 1, c :: rest => c :: unescaped fuel rest

/-- A value in the form that a letter asks for. -/
def shown? (letter : Char) (value : Octets) : Option Octets :=
  match letter with
  | 'Q' => some (Quoting.always value)
  | 'U' => some (value.map Char.toUpper)
  | 'L' => some (value.map Char.toLower)
  | 'u' => some (cased .upper false [] value)
  | 'E' => some (unescaped (value.length + 1) value)
  | 'P' => some value
  | 'K' => some (Quoting.always value)
  | 'k' => some (Quoting.always value)
  | _ => none

end Worth
end ComponentViews.Shell
