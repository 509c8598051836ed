import ComponentViews.Digest
import ComponentViews.Shell.Utility.Options
import ComponentViews.Text.Base64

/-! Utilities that print digests of what they read, or check those that were printed. -/

namespace ComponentViews.Shell.Utility

/-- A way to make a digest: the name that labels it, how many octets it has, and how it is made. -/
structure Hash where
  label : String
  size : Nat
  digest : List UInt8 → List UInt8

namespace Hash
open Digest

def md5 : Hash := ⟨"MD5", 16, Md5.digest⟩
def sha1 : Hash := ⟨"SHA1", 20, Sha1.digest⟩
def sha224 : Hash := ⟨"SHA224", 28, Sha2.sha224⟩
def sha256 : Hash := ⟨"SHA256", 32, Sha2.sha256⟩
def sha384 : Hash := ⟨"SHA384", 48, Sha2.sha384⟩
def sha512 : Hash := ⟨"SHA512", 64, Sha2.sha512⟩

/-- The digest of some length in octets, which the label tells unless it is the greatest one. -/
def blake2 (length : Nat) : Hash :=
  ⟨if length = 64 then "BLAKE2b" else "BLAKE2b-" ++ toString (8 * length), length, Blake2.digest length⟩

/-- Ways to make a digest by their names. -/
def named : List (String × Hash) :=
  [("md5", md5), ("sha1", sha1), ("sha224", sha224), ("sha256", sha256), ("sha384", sha384), ("sha512", sha512),
    ("blake2b", blake2 64)]

/-- The digits of octets. -/
def digits (octets : List UInt8) : Octets := octets.flatMap fun octet =>
  let digits := Nat.toDigits 16 octet.toNat
  if digits.length < 2 then '0' :: digits else digits

end Hash

/-- How digests are printed. -/
structure DigestForm where
  tagged : Bool
  binary : Bool
  base64 : Bool
  ending : Char

/-- A name on a line of its own: escapes in it, and whether there are any. -/
def escapedName (name : Octets) : Octets × Bool :=
  let escaped := name.flatMap fun c => match c with
    | '\n' => ['\\', 'n']
    | '\\' => ['\\', '\\']
    | '\x0d' => ['\\', 'r']
    | c => [c]
  (escaped, escaped ≠ name)

def digestLine (form : DigestForm) (hash : Hash) (name content : Octets) : Octets :=
  let octets := hash.digest content.toBytes
  let digest := if form.base64 then Text.Base64.encode octets else Hash.digits octets
  let (shown, isEscaped) := if form.ending = '\n' then escapedName name else (name, false)
  let mark : Octets := if isEscaped then ['\\'] else []
  let line := if form.tagged then .ofText (hash.label ++ " (") ++ shown ++ .ofText ") = " ++ digest
    else digest ++ [' ', if form.binary then '*' else ' '] ++ shown
  mark ++ line ++ [form.ending]

/-- A name with its escapes resolved. -/
def unescapedName : Octets → Octets
  | '\\' :: 'n' :: rest => '\n' :: unescapedName rest
  | '\\' :: 'r' :: rest => '\x0d' :: unescapedName rest
  | '\\' :: '\\' :: rest => '\\' :: unescapedName rest
  | c :: rest => c :: unescapedName rest
  | [] => []

/-- The digest on a line and the name behind it, in either form. -/
def digestLine? (hash : Hash) (line : Octets) : Option (Octets × Octets) :=
  let isEscaped := line.head? = some '\\'
  let line := if isEscaped then line.drop 1 else line
  let readName (name : Octets) : Octets := if isEscaped then unescapedName name else name
  let isDigest (text : Octets) : Bool :=
    text.length = 2 * hash.size && text.all fun c => (Expression.digit? 16 c).isSome
  let start := Octets.ofText (hash.label ++ " (")
  if start.isPrefixOf line then
    let digest := line.drop (line.length - 2 * hash.size)
    let name := (line.drop start.length).take (line.length - start.length - 2 * hash.size - 4)
    if isDigest digest ∧ (start ++ name ++ .ofText ") = " ++ digest) = line then some (digest, readName name) else none
  else
    let digest := line.take (2 * hash.size)
    let behind := line.drop (2 * hash.size)
    if isDigest digest ∧ behind.length > 2 ∧ behind.head? = some ' ' then
      some (digest, readName (behind.drop 2))
    else none

/-- What checking lines of digests has found. -/
structure Checked where
  good : Nat
  bad : Nat
  unread : Nat
  senseless : Nat

/-- Checks the digests that a file lists. -/
def checkDigests (command : String) (hash : Hash) (options : Options) (operand : Octets) (state : State) : State :=
  match contentOf operand state with
  | .error trouble => unreadable command operand trouble state
  | .ok (content, state) =>
    let quiet := options.has 'Q' || options.has 'S'
    let start : Checked := { good := 0, bad := 0, unread := 0, senseless := 0 }
    let (found, state) := content.lines.foldl (fun (found, state) line =>
      match digestLine? hash line with
      | none => ({ found with senseless := found.senseless + 1 }, state)
      | some (digest, name) =>
        let (shown, isEscaped) := escapedName name
        let shown := if isEscaped then '\\' :: shown else name
        match contentOf name state with
        | .ok (content, state) =>
          if Hash.digits (hash.digest content.toBytes) = digest.map Char.toLower then
            ({ found with good := found.good + 1 },
              if quiet then state else state.print (shown ++ .ofText ": OK\n"))
          else ({ found with bad := found.bad + 1 },
            if options.has 'S' then state else state.print (shown ++ .ofText ": FAILED\n"))
        | .error trouble =>
          if trouble = .missing ∧ options.has 'I' then (found, state)
          else
            let told := faultOf command name trouble.message state
            ({ found with unread := found.unread + 1 },
              if options.has 'S' then told else told.print (shown ++ .ofText ": FAILED open or read\n")))
      (start, state)
    let name := if operand = ['-'] then quoted (.ofText "standard input") else operand
    if found.good + found.bad + found.unread = 0 then
      if options.has 'I' ∧ found.senseless < content.lines.length then
        fault command (name ++ .ofText ": no file was verified") state
      else fault command (name ++ .ofText ": no properly formatted checksum lines found") state
    else
      let warn (count : Nat) (one several : String) (state : State) : State :=
        if count = 0 ∨ options.has 'S' then state
        else complain command (.ofText ("WARNING: " ++ toString count ++ (if count = 1 then one else several))) state
      let state := warn found.senseless " line is improperly formatted" " lines are improperly formatted" state
      let state := warn found.unread " listed file could not be read" " listed files could not be read" state
      let state := warn found.bad " computed checksum did NOT match" " computed checksums did NOT match" state
      if found.bad + found.unread > 0 ∨ (options.has 'R' ∧ found.senseless > 0) then state.withStatus 1 else state

def digestUsage : Usage where
  alone := ['b', 'c', 't', 'w', 'z', 'Q', 'S', 'I', 'R', 'T']
  valued := []
  words := [
    ("binary", 'b'), ("check", 'c'), ("text", 't'), ("tag", 'T'), ("warn", 'w'), ("zero", 'z'), ("quiet", 'Q'),
    ("status", 'S'), ("ignore-missing", 'I'), ("strict", 'R')]
  anywhere := true

/-- Options of utilities that let the length of the digest be chosen. -/
def blake2Usage : Usage :=
  { digestUsage with valued := ['l'], words := digestUsage.words ++ [("length", 'l')] }

/-- Options of a utility that knows several digests. -/
def checksumUsage : Usage :=
  { digestUsage with
    alone := digestUsage.alone ++ ['U', 'B'], valued := ['l', 'a']
    words := digestUsage.words ++ [("length", 'l'), ("algorithm", 'a'), ("untagged", 'U'), ("base64", 'B')] }

/-- Prints the digest of each operand, or checks the digests that operands list. -/
def digestWith (command : String) (hash : Hash) (isTagged : Bool) (options : Options) (state : State) : State :=
  let operands := if options.operands = [] then [['-']] else options.operands
  if options.has 'c' then
    operands.foldl (fun state operand => checkDigests command hash options operand state) state
  else
    let form : DigestForm := {
      tagged := isTagged, binary := options.has 'b', base64 := options.has 'B'
      ending := if options.has 'z' then '\x00' else '\n' }
    forEachContent command operands state fun operand content state =>
      state.print (digestLine form hash operand content)

def digestOf (command : String) (hash : Hash) (arguments : List Octets) (state : State) : State :=
  withOptions command digestUsage 1 arguments state fun options state =>
    digestWith command hash (options.has 'T') options state

/-- Prints digests whose length may be chosen. -/
def blake2Sum (arguments : List Octets) (state : State) : State :=
  withOptions "b2sum" blake2Usage 1 arguments state fun options state =>
    let asked := (options.value? 'l').getD ['0']
    let refuse (reason : String) : State :=
      fault "b2sum" (.ofText reason) (fault "b2sum" (.ofText "invalid length: " ++ quoted asked) state)
    match Format.natural? asked with
    | none => fault "b2sum" (.ofText "invalid length: " ++ quoted asked) state
    | some bits =>
      if bits % 8 ≠ 0 then refuse "length is not a multiple of 8"
      else if bits > 512 then refuse "maximum digest length for ‘BLAKE2b’ is 512 bits"
      else digestWith "b2sum" (.blake2 (if bits = 0 then 64 else bits / 8)) (options.has 'T') options state

/-- Prints a sum of the octets of each operand, with their number in blocks of a size. -/
def sumWith (command : String) (sum : List UInt8 → Nat) (block width countWidth : Nat) (alwaysNamed : Bool)
    (operands : List Octets) (state : State) : State :=
  forEachContent command operands state fun operand content state =>
    let count := (content.length + block - 1) / block
    let name := if operands = [] ∨ (operand = ['-'] ∧ !alwaysNamed) then [] else ' ' :: operand
    let digits := Octets.ofNat (sum content.toBytes)
    let zeros := List.replicate (width - digits.length) '0'
    let counted := Octets.ofNat count
    let padding := List.replicate (countWidth - counted.length) ' '
    state.print (zeros ++ digits ++ [' '] ++ padding ++ counted ++ name ++ ['\n'])

/-- Sums by the names of the ways to make them. -/
def plainSums : List (String × (List UInt8 → Nat) × Nat × Nat × Nat) :=
  [("bsd", Digest.Checksum.turning, 1024, 5, 5), ("sysv", Digest.Checksum.plain, 512, 0, 0),
    ("crc", Digest.Checksum.cyclic, 1, 0, 0)]

/-- Prints a sum in one of many ways. -/
def checksum (arguments : List Octets) (state : State) : State :=
  withOptions "cksum" checksumUsage 1 arguments state fun options state =>
    let name := String.ofList ((options.value? 'a').getD (.ofText "crc"))
    match plainSums.lookup name, Hash.named.lookup name with
    | some (sum, block, width, countWidth), _ =>
      sumWith "cksum" sum block width countWidth false options.operands state
    | none, some hash =>
      let length := ((options.value? 'l').bind Format.natural?).getD 0
      let hash := if name = "blake2b" ∧ length > 0 then .blake2 (length / 8) else hash
      digestWith "cksum" hash (!options.has 'U') options state
    | none, none =>
      let known := (["bsd", "sysv", "crc"] ++ Hash.named.map Prod.fst ++ ["sm3"]).map fun name => "\n  - '" ++ name ++ "'"
      let message := "invalid argument '" ++ name ++ "' for '--algorithm'\nValid arguments are:" ++ String.join known
      hinted "cksum" (.ofText message) state

def blockSum (arguments : List Octets) (state : State) : State :=
  let usage : Usage := { alone := ['r', 's'], valued := [], words := [("sysv", 's')], anywhere := true }
  withOptions "sum" usage 1 arguments state fun options state =>
    let last := (options.found.getLast?.map Prod.fst).getD 'r'
    if last = 's' then sumWith "sum" Digest.Checksum.plain 512 0 0 false options.operands state
    else sumWith "sum" Digest.Checksum.turning 1024 5 5 false options.operands state

/-- Utilities for digests by their names. -/
def digests : List (String × (List Octets → State → State)) :=
  [("md5sum", digestOf "md5sum" .md5), ("sha1sum", digestOf "sha1sum" .sha1), ("sha224sum", digestOf "sha224sum" .sha224),
    ("sha256sum", digestOf "sha256sum" .sha256), ("sha384sum", digestOf "sha384sum" .sha384),
    ("sha512sum", digestOf "sha512sum" .sha512), ("b2sum", blake2Sum), ("cksum", checksum), ("sum", blockSum)]

end ComponentViews.Shell.Utility
