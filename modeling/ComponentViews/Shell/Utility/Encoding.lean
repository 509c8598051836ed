import ComponentViews.Shell.Utility.Copying

/-! Octets written with the letters of an alphabet, and read back. A code takes a group of
octets at a time for a number, whose digits are letters; a group at the end that is not full
is filled up with equal signs. -/

namespace ComponentViews.Shell.Utility

/-- Digits of a base, with zeros in front up to a width. -/
def padded (base width value : Nat) : Octets :=
  let digits := Nat.toDigits base value
  List.replicate (width - digits.length) '0' ++ digits

/-- Pieces of a length, the last of which may be shorter. -/
def chunks (size : Nat) : Nat → Octets → List Octets
  | 0, _ => []
  | _ + 1, [] => []
  | fuel + 1, content => content.take size :: chunks size fuel (content.drop size)

/-- How groups of octets are written. -/
structure Code where
  alphabet : Octets
  /-- How many octets make a group. -/
  octets : Nat
  /-- How many letters a group has. -/
  letters : Nat
  /-- Whether letters stand for the first bits of an octet last. -/
  reversed : Bool := false
  /-- Whether groups that are not full are filled up; otherwise there are none. -/
  filled : Bool := true

namespace Code

/-- How many letters show a number of octets at the start of a group. -/
def needed (code : Code) (count : Nat) : Nat := (count * code.letters + code.octets - 1) / code.octets

/-- The letters of a group, the rest of which are equal signs. -/
def encodeGroup (code : Code) (group : Octets) : Octets :=
  let base := code.alphabet.length
  let value := (group ++ List.replicate (code.octets - group.length) '\x00').foldl (fun value c => value * 256 + c.toNat) 0
  let digits := (List.range code.letters).map fun index =>
    code.alphabet.getD (value / Nat.pow base (code.letters - 1 - index) % base) '0'
  let shown := code.needed group.length
  let digits := if code.reversed then digits.reverse else digits
  digits.take shown ++ List.replicate (code.letters - shown) '='

def encode (code : Code) (content : Octets) : Octets :=
  (chunks code.octets (content.length + 1) content).flatMap code.encodeGroup

/-- The octets of a group, and whether all of it makes sense. -/
def decodeGroup (code : Code) (group : Octets) : Octets × Bool :=
  let base := code.alphabet.length
  let digits := group.takeWhile code.alphabet.contains
  let rest := group.drop digits.length
  let values := digits.map code.alphabet.idxOf
  let values := if code.reversed then values.reverse else values
  let full := values ++ List.replicate (code.letters - values.length) 0
  let value := full.foldl (fun value digit => value * base + digit) 0
  let count := digits.length * code.octets / code.letters
  let octets := (List.range count).map fun index =>
    Char.ofNat (value / Nat.pow 256 (code.octets - 1 - index) % 256)
  let isEnding := rest.all (· = '=') && count > 0 && code.needed count = digits.length && code.filled
  (if code.letters > 4 ∧ group.length < code.letters then [] else octets,
    group.length = code.letters && (rest = [] || isEnding))

/-- What groups of letters stand for, and whether all of them make sense: none behind one
that does not is read. -/
def decodeGroups (code : Code) : List Octets → Octets × Bool
  | [] => ([], true)
  | group :: rest =>
    match code.decodeGroup group with
    | (octets, true) =>
      let (later, makesSense) := code.decodeGroups rest
      (octets ++ later, makesSense)
    | (octets, false) => (octets, false)

def decode (code : Code) (content : Octets) : Octets × Bool :=
  code.decodeGroups (chunks code.letters (content.length + 1) content)

end Code

def capitals : Octets := (List.range 26).map fun index => Char.ofNat ('A'.toNat + index)

def smallLetters : Octets := (List.range 26).map fun index => Char.ofNat ('a'.toNat + index)

def digitLetters : Octets := (List.range 10).map fun index => Char.ofNat ('0'.toNat + index)

/-- Codes by their names. -/
def codes : List (String × Code) :=
  let letters := capitals ++ smallLetters ++ digitLetters
  [("base64", { alphabet := letters ++ ['+', '/'], octets := 3, letters := 4 }),
    ("base64url", { alphabet := letters ++ ['-', '_'], octets := 3, letters := 4 }),
    ("base32", { alphabet := capitals ++ ['2', '3', '4', '5', '6', '7'], octets := 5, letters := 8 }),
    ("base32hex", { alphabet := digitLetters ++ capitals.take 22, octets := 5, letters := 8 }),
    ("base16", { alphabet := digitLetters ++ capitals.take 6, octets := 1, letters := 2, filled := false }),
    ("base2msbf", { alphabet := ['0', '1'], octets := 1, letters := 8, filled := false }),
    ("base2lsbf", { alphabet := ['0', '1'], octets := 1, letters := 8, reversed := true, filled := false }),
    ("z85", {
      alphabet := digitLetters ++ smallLetters ++ capitals ++ .ofText ".-:+=^!/*?&<>()[]\x7b\x7d@%$#"
      octets := 4, letters := 5, filled := false })]

def codeUsage (words : List (String × Char)) : Usage where
  alone := ['d', 'i'] ++ words.map Prod.snd
  valued := ['w']
  words := [("decode", 'd'), ("ignore-garbage", 'i'), ("wrap", 'w')] ++ words
  anywhere := true

/-- Writes or reads the letters of a code. -/
def encodeBy (command : String) (name : String) (code : Code) (options : Options) (state : State) : State :=
  let width := options.value? 'w'
  match options.operands with
  | _ :: second :: _ => hinted command (.ofText "extra operand " ++ quoted second) state
  | operands =>
    if width.any fun text => (Format.natural? text).isNone then
      fault command (.ofText "invalid wrap size: " ++ quoted (width.getD [])) state
    else
      let operand := operands.headD ['-']
      match contentOf operand state with
      | .error trouble => unreadable command operand trouble state
      | .ok (content, state) =>
        if options.has 'd' then
          let known (c : Char) : Bool := code.alphabet.contains c || (code.filled && c = '=')
          let kept := content.filter fun c => c ≠ '\n' && (!options.has 'i' || known c)
          let (octets, makesSense) := code.decode kept
          let state := state.print octets
          if makesSense then state else fault command (.ofText "invalid input") state
        else if name = "z85" ∧ content.length % 4 ≠ 0 then
          fault command (.ofText "invalid input (length must be multiple of 4 characters)") state
        else
          let encoded := code.encode content
          match (width.bind Format.natural?).getD 76 with
          | 0 => state.print encoded
          | width => state.print (Octets.ofLines (chunks width encoded.length encoded))

/-- Writes or reads the one code that a command is named for. -/
def encodeAs (name : String) (arguments : List Octets) (state : State) : State :=
  withOptions name (codeUsage []) 1 arguments state fun options state =>
    match codes.lookup name with
    | some code => encodeBy name name code options state
    | none => state

/-- Letters that stand for the words that name codes. -/
def codeLetters : List (String × Char) := (codes.zipIdx).map fun ((name, _), index) => (name, Char.ofNat (500 + index))

/-- Writes or reads the last code that is asked for. -/
def encodeAny (arguments : List Octets) (state : State) : State :=
  withOptions "basenc" (codeUsage codeLetters) 1 arguments state fun options state =>
    let asked := options.found.reverse.findSome? fun (letter, _) => codes[letter.toNat - 500]?.filter fun _ => letter.toNat ≥ 500
    match asked with
    | some (name, code) => encodeBy "basenc" name code options state
    | none => hinted "basenc" (.ofText "missing encoding type") state

end ComponentViews.Shell.Utility
