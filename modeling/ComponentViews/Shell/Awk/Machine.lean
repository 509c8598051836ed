import ComponentViews.Shell.Awk.Reader
import ComponentViews.Shell.Awk.Text
import ComponentViews.Shell.State

/-! What a script for records works on: its variables and arrays, the record and its fields,
and what is open. The record and its fields always agree. -/

namespace ComponentViews.Shell.Awk

/-- What a name stands for. -/
inductive Cell where
  | value (value : Value)
  | array (number : Nat)

abbrev Elements := Table Octets Value

/-- Where open output goes. -/
inductive Opened where
  | channel (channel : Channel)
  /-- To a command that runs once no more is written to it. -/
  | command (stream : Nat)

/-- What is left to be read of a file or of a command's output. -/
structure Source where
  content : Octets
  /-- A stream that more may come from. -/
  stream : Option Nat
  /-- The process of the command. -/
  process : Option Nat

structure Machine where
  /-- What the program is called by. -/
  name : Octets
  script : Script
  globals : Table Octets Cell
  /-- Variables of the function that runs. -/
  locals : Table Octets Cell
  arrays : Table Nat Elements
  record : Octets
  fields : List Value
  /-- What is left of the open file among the operands. -/
  input : Option Source
  /-- Which operand comes next. -/
  operand : Nat
  /-- Whether an operand named a file. -/
  served : Bool
  sources : List ((Origin × Octets) × Source)
  /-- What is being written to, files and commands by their names, the latest first. -/
  outlets : List ((Bool × Octets) × Opened)
  /-- What has been printed and not sent yet, the latest first, and how much that is. -/
  printed : List Octets
  printedSize : Nat
  /-- Rules of which the first record was there and the last one was not. -/
  between : List Nat
  /-- What scattered numbers follow from. -/
  seed : Real
  /-- What the last one followed from. -/
  chance : Nat
  status : Nat

namespace Machine

def usual (name : Octets) (script : Script) : Machine where
  name := name
  script := script
  seed := .zero
  chance := 0
  globals := .empty
  locals := .empty
  arrays := .empty
  record := []
  fields := []
  input := none
  operand := 1
  served := false
  sources := []
  outlets := []
  printed := []
  printedSize := 0
  between := []
  status := 0

/-! ### Variables -/

def cell? (machine : Machine) (name : Octets) : Option Cell :=
  (machine.locals.find? name).or (machine.globals.find? name)

def setCell (machine : Machine) (name : Octets) (cell : Cell) : Machine :=
  if (machine.locals.find? name).isSome then { machine with locals := machine.locals.insert name cell }
  else { machine with globals := machine.globals.insert name cell }

def value (machine : Machine) (name : Octets) : Value :=
  match machine.cell? name with
  | some (.value value) => value
  | _ => .nothing

def newArray (machine : Machine) (elements : Elements) : Nat × Machine :=
  let number := machine.arrays.size
  (number, { machine with arrays := machine.arrays.insert number elements })

/-- The array of a name, which comes to be if there is none. -/
def arrayOf (machine : Machine) (name : Octets) : Nat × Machine :=
  match machine.cell? name with
  | some (.array number) => (number, machine)
  | _ =>
    let (number, machine) := machine.newArray .empty
    (number, machine.setCell name (.array number))

def elements (machine : Machine) (number : Nat) : Elements := (machine.arrays.find? number).getD .empty

def setElements (machine : Machine) (number : Nat) (elements : Elements) : Machine :=
  { machine with arrays := machine.arrays.insert number elements }

/-- A variable that means something to the machine itself. -/
def own (machine : Machine) (name : String) : Value :=
  match machine.globals.find? (.ofText name) with
  | some (.value value) => value
  | _ => .nothing

def setOwn (machine : Machine) (name : String) (value : Value) : Machine :=
  { machine with globals := machine.globals.insert (.ofText name) (.value value) }

def conversion (machine : Machine) : Octets := (machine.own "CONVFMT").toText (.ofText "%.6g")

def text (machine : Machine) (value : Value) : Octets := value.toText machine.conversion

def ownText (machine : Machine) (name : String) : Octets := machine.text (machine.own name)

/-- Adds one to a variable that counts. -/
def count (machine : Machine) (name : String) : Machine :=
  machine.setOwn name (.number ((machine.own name).toReal.add Real.one))

/-! ### The record -/

def separator (machine : Machine) : Separator := ((Separator.ofText (machine.ownText "FS")).toOption).getD .empty

def withFields (machine : Machine) (fields : List Value) : Machine :=
  { machine with fields }.setOwn "NF" (.ofInt fields.length)

def withRecord (machine : Machine) (record : Octets) : Machine :=
  let parts := machine.separator.split (machine.ownText "RS" = []) record
  { machine with record }.withFields (parts.map Value.given)

/-- Puts other fields in place, of which the record is made up again. -/
def remade (machine : Machine) (fields : List Value) : Machine :=
  let record := (machine.ownText "OFS").intercalate (fields.map machine.text)
  { machine with record }.withFields fields

/-- Fields up to some number, with empty ones where there are too few. -/
def resized (fields : List Value) (size : Nat) : List Value :=
  fields.take size ++ List.replicate (size - fields.length) (.text [])

def field (machine : Machine) : Nat → Value
  | 0 => .given machine.record
  | index + 1 => machine.fields[index]?.getD .nothing

def setField (machine : Machine) (value : Value) : Nat → Machine
  | 0 => machine.withRecord (machine.text value)
  | index + 1 =>
    let fields := resized machine.fields (max machine.fields.length (index + 1))
    machine.remade (fields.set index value)

end Machine

/-- A place whose indices have been computed. -/
inductive Spot where
  | named (name : Octets)
  | element (array : Nat) (key : Octets)
  | field (index : Nat)

namespace Machine

/-! ### Places -/

/-- The value at a place; an element comes to be there. -/
def read (machine : Machine) : Spot → Value × Machine
  | .named name => (machine.value name, machine)
  | .field index => (machine.field index, machine)
  | .element array key =>
    let elements := machine.elements array
    match elements.find? key with
    | some value => (value, machine)
    | none => (.nothing, machine.setElements array (elements.insert key .nothing))

def write (machine : Machine) (spot : Spot) (value : Value) : Machine :=
  match spot with
  | .field index => machine.setField value index
  | .element array key => machine.setElements array ((machine.elements array).insert key value)
  | .named name =>
    let isCount := name = .ofText "NF" ∧ (machine.locals.find? name).isNone
    if isCount then machine.remade (resized machine.fields value.toReal.toInt.toNat)
    else machine.setCell name (.value value)

/-- The place of a key in the order of arrays, by a hash of its octets. -/
def bucketOf (key : Octets) : Nat :=
  key.foldl (fun hash c => Nat.xor hash c.toNat * 16777619 % 4294967296) 2166136261 % 64

/-- The keys of an array in the order of their places, the latest first in each. -/
def keys (machine : Machine) (array : Nat) : List Octets :=
  (((machine.elements array).entries.map Prod.fst).reverse).mergeSort fun a b => bucketOf a ≤ bucketOf b

/-- Variables from operands and options: their values count as numbers if they look like those. -/
def assignGiven (machine : Machine) (name value : Octets) : Machine :=
  machine.write (.named name) (.given (Sign.resolved value))

/-- The machine when scattered numbers follow from a seed. -/
def seeded (machine : Machine) (seed : Real) : Machine :=
  { machine with seed, chance := seed.numerator.natAbs + seed.denominator }

/-- The next scattered number, of a congruential sequence. -/
def scatter (machine : Machine) : Real × Machine :=
  let modulus := Nat.pow 2 64
  let chance := (machine.chance * 6364136223846793005 + 1442695040888963407) % modulus
  (.ofQuotient (chance / Nat.pow 2 32 : Nat) (Nat.pow 2 32), { machine with chance })

/-- The machine of a script with its operands and the variables that programs see. -/
def start (name : Octets) (script : Script) (operands : List Octets) (environment : List (Octets × Octets)) : Machine :=
  let text (value : String) : Value := .text (.ofText value)
  let known := [("FS", text " "), ("OFS", text " "), ("ORS", text "\n"), ("RS", text "\n"), ("NR", .ofInt 0),
    ("FNR", .ofInt 0), ("NF", .ofInt 0), ("FILENAME", text ""), ("SUBSEP", text "\x1c"), ("RSTART", .ofInt 0),
    ("RLENGTH", .ofInt (-1)), ("CONVFMT", text "%.6g"), ("OFMT", text "%.6g"), ("ARGC", .ofInt (operands.length + 1))]
  let plain := known.foldl (fun machine (name, value) => machine.setOwn name value) (usual name script)
  let arguments := ((name :: operands).zipIdx).map fun (argument, index) =>
    (Octets.ofNat index, Value.given argument)
  let (number, machine) := plain.newArray { entries := arguments }
  let machine := machine.setCell (.ofText "ARGV") (.array number)
  let (number, machine) := machine.newArray { entries := environment.map fun (name, value) => (name, .given value) }
  machine.setCell (.ofText "ENVIRON") (.array number)

end Machine
end ComponentViews.Shell.Awk
