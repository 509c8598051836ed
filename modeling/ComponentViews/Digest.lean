/-! Digests and sums of octets: words and blocks of them, roots from which constants come, the
hashes that are made of both, and the sums that guard against mistakes only. -/

/-! Machine words, and how octets are filled up to blocks of them. -/

namespace ComponentViews.Digest

/-- Words of a fixed width, whose sums drop what does not fit in. -/
class Word (α : Type) where
  /-- How many octets make up a word. -/
  size : Nat
  ofNat : Nat → α
  toNat : α → Nat
  add : α → α → α
  and : α → α → α
  xor : α → α → α
  not : α → α
  shiftRight : α → Nat → α
  rotateRight : α → Nat → α

instance : Word UInt32 where
  size := 4
  ofNat := UInt32.ofNat
  toNat := UInt32.toNat
  add := (· + ·)
  and := (· &&& ·)
  xor := (· ^^^ ·)
  not := (~~~ ·)
  shiftRight word count := word >>> UInt32.ofNat count
  rotateRight word count := (word >>> UInt32.ofNat count) ||| (word <<< UInt32.ofNat (32 - count))

instance : Word UInt64 where
  size := 8
  ofNat := UInt64.ofNat
  toNat := UInt64.toNat
  add := (· + ·)
  and := (· &&& ·)
  xor := (· ^^^ ·)
  not := (~~~ ·)
  shiftRight word count := word >>> UInt64.ofNat count
  rotateRight word count := (word >>> UInt64.ofNat count) ||| (word <<< UInt64.ofNat (64 - count))

/-- Which octet of a number comes first. -/
inductive Endian where
  | big
  | little
  deriving DecidableEq, Repr

namespace Endian

/-- The octets of a number, as many as asked for. -/
def octets (endian : Endian) (count value : Nat) : List UInt8 :=
  let little := (List.range count).map fun index => UInt8.ofNat (value / Nat.pow 256 index % 256)
  if endian = .little then little else little.reverse

/-- The number that octets make up. -/
def number (endian : Endian) (octets : List UInt8) : Nat :=
  (if endian = .little then octets.reverse else octets).foldl (fun value octet => value * 256 + octet.toNat) 0

end Endian

/-- Lists cut into pieces of a size, the last of which may be shorter. -/
def pieces {α : Type} (size : Nat) (list : List α) : List (List α) := go (list.length / size + 1) list
where
  go : Nat → List α → List (List α)
    | 0, _ => []
    | count + 1, rest => if rest.isEmpty then [] else rest.take size :: go count (rest.drop size)

/-- The words that octets make up. -/
def words {α : Type} [Word α] (endian : Endian) (octets : List UInt8) : Array α :=
  ((pieces (Word.size α) octets).map fun piece => Word.ofNat (endian.number piece)).toArray

/-- Blocks of sixteen words: the octets, a mark, zeros, and the number of bits in two words. -/
def blocks {α : Type} [Word α] (endian : Endian) (octets : List UInt8) : List (Array α) :=
  let size := 16 * Word.size α
  let behind := 2 * Word.size α
  let zeros := (size - (octets.length + 1 + behind) % size) % size
  let filled := octets ++ 128 :: List.replicate zeros 0 ++ endian.octets behind (8 * octets.length)
  (pieces size filled).map (words endian)

/-- The octets of words. -/
def octetsOf {α : Type} [Word α] (endian : Endian) (words : List α) : List UInt8 :=
  words.flatMap fun word => endian.octets (Word.size α) (Word.toNat word)

def rotateLeft (word : UInt32) (count : Nat) : UInt32 := Word.rotateRight word (32 - count)

end ComponentViews.Digest

/-! Fractions of roots of primes, from which constants come that hide nothing. -/

namespace ComponentViews.Digest

/-- Whether a number has no divisors but one and itself. -/
def isPrime (number : Nat) : Bool := number ≥ 2 && (List.range number).all fun divisor =>
  divisor < 2 || number % divisor ≠ 0

/-- The first primes. -/
def primes (count : Nat) : List Nat := ((List.range 410).filter isPrime).take count

/-- The greatest number whose power is at most a given one, found bit by bit from the top. -/
def rootBelow (degree value : Nat) : Nat → Nat → Nat
  | 0, found => found
  | bit + 1, found =>
    let tried := found + Nat.pow 2 bit
    rootBelow degree value bit (if Nat.pow tried degree ≤ value then tried else found)

/-- The first 64 bits behind the point of a root. -/
def rootFraction (degree number : Nat) : Nat :=
  rootBelow degree (number * Nat.pow 2 (64 * degree)) 70 0 % Nat.pow 2 64

end ComponentViews.Digest

/-! The second family of secure hashes, on words of 32 and of 64 bits. -/

namespace ComponentViews.Digest.Sha2

/-- What tells the members of the family apart: by how much words are turned, the constants
of the rounds, and with what they start. -/
structure Member (α : Type) where
  large : (Nat × Nat × Nat) × (Nat × Nat × Nat)
  /-- Two turns each, and a shift. -/
  small : (Nat × Nat × Nat) × (Nat × Nat × Nat)
  constants : Array α
  start : Array α
  /-- How many octets of the state count. -/
  length : Nat

section
variable {α : Type} [Word α] [Inhabited α]

def mixLarge (turns : Nat × Nat × Nat) (word : α) : α :=
  Word.xor (Word.xor (Word.rotateRight word turns.1) (Word.rotateRight word turns.2.1))
    (Word.rotateRight word turns.2.2)

def mixSmall (turns : Nat × Nat × Nat) (word : α) : α :=
  Word.xor (Word.xor (Word.rotateRight word turns.1) (Word.rotateRight word turns.2.1))
    (Word.shiftRight word turns.2.2)

/-- The words of all rounds. -/
def schedule (member : Member α) (block : Array α) : Array α :=
  (List.range (member.constants.size - 16)).foldl (fun words index =>
    let fresh := Word.add (Word.add (words.getD index default) (mixSmall member.small.1 (words.getD (index + 1) default)))
      (Word.add (words.getD (index + 9) default) (mixSmall member.small.2 (words.getD (index + 14) default)))
    words.push fresh) block

/-- The eight words that the rounds work on. -/
structure Registers (α : Type) where
  (a b c d e f g h : α)

def round (member : Member α) (r : Registers α) (constant word : α) : Registers α :=
  let choice := Word.xor (Word.and r.e r.f) (Word.and (Word.not r.e) r.g)
  let first := Word.add (Word.add (Word.add r.h (mixLarge member.large.2 r.e)) choice) (Word.add constant word)
  let most := Word.xor (Word.xor (Word.and r.a r.b) (Word.and r.a r.c)) (Word.and r.b r.c)
  let second := Word.add (mixLarge member.large.1 r.a) most
  { a := Word.add first second, b := r.a, c := r.b, d := r.c, e := Word.add r.d first, f := r.e, g := r.f, h := r.g }

def compress (member : Member α) (state block : Array α) : Array α :=
  let nth (index : Nat) : α := state.getD index default
  let start : Registers α := ⟨nth 0, nth 1, nth 2, nth 3, nth 4, nth 5, nth 6, nth 7⟩
  let words := schedule member block
  let r := (member.constants.zip words).foldl (fun r (constant, word) => round member r constant word) start
  (state.zip #[r.a, r.b, r.c, r.d, r.e, r.f, r.g, r.h]).map fun (old, new) => Word.add old new

def digest (member : Member α) (octets : List UInt8) : List UInt8 :=
  let state := (blocks Endian.big octets).foldl (compress member) member.start
  (octetsOf .big state.toList).take member.length

end

/-- A member on short words, with the roots whose fractions it starts with. -/
def short (start : List Nat) (length : Nat) : Member UInt32 where
  large := ((2, 13, 22), (6, 11, 25))
  small := ((7, 18, 3), (17, 19, 10))
  constants := ((primes 64).map fun prime => UInt32.ofNat (rootFraction 3 prime / 4294967296)).toArray
  start := (start.map UInt32.ofNat).toArray
  length := length

def long (start : List Nat) (length : Nat) : Member UInt64 where
  large := ((28, 34, 39), (14, 18, 41))
  small := ((1, 8, 7), (19, 61, 6))
  constants := ((primes 80).map fun prime => UInt64.ofNat (rootFraction 3 prime)).toArray
  start := (start.map UInt64.ofNat).toArray
  length := length

/-- Fractions of the square roots of the first eight primes, and of the next eight ones. -/
def firstRoots : List Nat := (primes 8).map (rootFraction 2)

def nextRoots : List Nat := ((primes 16).drop 8).map (rootFraction 2)

def sha256 (octets : List UInt8) : List UInt8 := digest (short (firstRoots.map (· / 4294967296)) 32) octets

def sha224 (octets : List UInt8) : List UInt8 := digest (short (nextRoots.map (· % 4294967296)) 28) octets

def sha512 (octets : List UInt8) : List UInt8 := digest (long firstRoots 64) octets

def sha384 (octets : List UInt8) : List UInt8 := digest (long nextRoots 48) octets

end ComponentViews.Digest.Sha2

/-! A digest of up to 512 bits, which tells its length from the start. -/

namespace ComponentViews.Digest.Blake2

/-- The order in which the words of a block take part in each round. -/
def orders : List (List Nat) :=
  [[0, 1, 2, 3, 4, 5, 6, 7, 8, 9, 10, 11, 12, 13, 14, 15], [14, 10, 4, 8, 9, 15, 13, 6, 1, 12, 0, 2, 11, 7, 5, 3],
    [11, 8, 12, 0, 5, 2, 15, 13, 10, 14, 3, 6, 7, 1, 9, 4], [7, 9, 3, 1, 13, 12, 11, 14, 2, 6, 5, 10, 4, 0, 15, 8],
    [9, 0, 5, 7, 2, 4, 10, 15, 14, 1, 11, 12, 6, 8, 3, 13], [2, 12, 6, 10, 0, 11, 8, 3, 4, 13, 7, 5, 15, 14, 1, 9],
    [12, 5, 1, 15, 14, 13, 4, 10, 0, 7, 6, 3, 9, 2, 8, 11], [13, 11, 7, 14, 12, 1, 3, 9, 5, 0, 15, 4, 8, 6, 2, 10],
    [6, 15, 14, 9, 11, 3, 0, 8, 12, 2, 13, 7, 1, 4, 10, 5], [10, 2, 8, 4, 7, 6, 1, 5, 15, 11, 9, 14, 3, 12, 13, 0]]

/-- Which words are mixed with each other: the columns, then the diagonals. -/
def quarters : List (Nat × Nat × Nat × Nat) :=
  [(0, 4, 8, 12), (1, 5, 9, 13), (2, 6, 10, 14), (3, 7, 11, 15), (0, 5, 10, 15), (1, 6, 11, 12), (2, 7, 8, 13),
    (3, 4, 9, 14)]

def mix (words : Array UInt64) (quarter : Nat × Nat × Nat × Nat) (x y : UInt64) : Array UInt64 :=
  let (ia, ib, ic, id) := quarter
  let (a, b, c, d) := (words.getD ia 0, words.getD ib 0, words.getD ic 0, words.getD id 0)
  let a := a + b + x
  let d := Word.rotateRight (d ^^^ a) 32
  let c := c + d
  let b := Word.rotateRight (b ^^^ c) 24
  let a := a + b + y
  let d := Word.rotateRight (d ^^^ a) 16
  let c := c + d
  let b := Word.rotateRight (b ^^^ c) 63
  (((words.setIfInBounds ia a).setIfInBounds ib b).setIfInBounds ic c).setIfInBounds id d

def round (block words : Array UInt64) (order : List Nat) : Array UInt64 :=
  quarters.zipIdx.foldl (fun words (quarter, index) =>
    mix words quarter (block.getD (order.getD (2 * index) 0) 0) (block.getD (order.getD (2 * index + 1) 0) 0)) words

def start : List UInt64 := Sha2.firstRoots.map UInt64.ofNat

/-- Takes a block into the state; how many octets there have been up to its end counts too. -/
def compress (state block : Array UInt64) (count : Nat) (isLast : Bool) : Array UInt64 :=
  let tweak : List UInt64 := [UInt64.ofNat count, 0, if isLast then 0xffffffffffffffff else 0, 0]
  let behind := (start.take 4) ++ ((start.drop 4).zip tweak).map fun (word, value) => word ^^^ value
  let words := (orders ++ orders.take 2).foldl (round block) (state ++ behind.toArray)
  state.mapIdx fun index word => word ^^^ words.getD index 0 ^^^ words.getD (index + 8) 0

/-- The digest of some length in octets. -/
def digest (length : Nat) (octets : List UInt8) : List UInt8 :=
  let blocks := if octets.isEmpty then [[]] else pieces 128 octets
  let first := (start.headD 0 ^^^ (0x01010000 + UInt64.ofNat length)) :: start.drop 1
  let state := blocks.zipIdx.foldl (fun state (block, index) =>
    let isLast := index + 1 = blocks.length
    let count := if isLast then octets.length else 128 * (index + 1)
    compress state (words .little (block ++ List.replicate (128 - block.length) 0)) count isLast) first.toArray
  (octetsOf .little state.toList).take length

end ComponentViews.Digest.Blake2

/-! A digest of 128 bits in four passes over each block. -/

namespace ComponentViews.Digest.Md5

/-- The sines of the numbers from 1 to 64, without their signs, in parts of 2 to the power of 32. -/
def sines : List UInt32 :=
  [0xd76aa478, 0xe8c7b756, 0x242070db, 0xc1bdceee, 0xf57c0faf, 0x4787c62a, 0xa8304613, 0xfd469501,
    0x698098d8, 0x8b44f7af, 0xffff5bb1, 0x895cd7be, 0x6b901122, 0xfd987193, 0xa679438e, 0x49b40821,
    0xf61e2562, 0xc040b340, 0x265e5a51, 0xe9b6c7aa, 0xd62f105d, 0x02441453, 0xd8a1e681, 0xe7d3fbc8,
    0x21e1cde6, 0xc33707d6, 0xf4d50d87, 0x455a14ed, 0xa9e3e905, 0xfcefa3f8, 0x676f02d9, 0x8d2a4c8a,
    0xfffa3942, 0x8771f681, 0x6d9d6122, 0xfde5380c, 0xa4beea44, 0x4bdecfa9, 0xf6bb4b60, 0xbebfbc70,
    0x289b7ec6, 0xeaa127fa, 0xd4ef3085, 0x04881d05, 0xd9d4d039, 0xe6db99e5, 0x1fa27cf8, 0xc4ac5665,
    0xf4292244, 0x432aff97, 0xab9423a7, 0xfc93a039, 0x655b59c3, 0x8f0ccc92, 0xffeff47d, 0x85845dd1,
    0x6fa87e4f, 0xfe2ce6e0, 0xa3014314, 0x4e0811a1, 0xf7537e82, 0xbd3af235, 0x2ad7d2bb, 0xeb86d391]

/-- By how much words are turned in each pass. -/
def turns : List (List Nat) := [[7, 12, 17, 22], [5, 9, 14, 20], [4, 11, 16, 23], [6, 10, 15, 21]]

structure Registers where
  (a b c d : UInt32)

/-- What three words come to in a pass, and which word of the block takes part. -/
def choice (pass index : Nat) (r : Registers) : UInt32 × Nat :=
  match pass with
  | 0 => ((r.b &&& r.c) ||| (~~~r.b &&& r.d), index)
  | 1 => ((r.d &&& r.b) ||| (~~~r.d &&& r.c), (5 * index + 1) % 16)
  | 2 => (r.b ^^^ r.c ^^^ r.d, (3 * index + 5) % 16)
  | _ => (r.c ^^^ (r.b ||| ~~~r.d), 7 * index % 16)

def round (block : Array UInt32) (r : Registers) (sine : UInt32) (index : Nat) : Registers :=
  let pass := index / 16
  let (mixed, place) := choice pass index r
  let turn := (turns.getD pass []).getD (index % 4) 0
  { a := r.d, b := r.b + rotateLeft (r.a + mixed + sine + block.getD place 0) turn, c := r.b, d := r.c }

def compress (start : Registers) (block : Array UInt32) : Registers :=
  let r := sines.zipIdx.foldl (fun r (sine, index) => round block r sine index) start
  { a := start.a + r.a, b := start.b + r.b, c := start.c + r.c, d := start.d + r.d }

def digest (octets : List UInt8) : List UInt8 :=
  let start : Registers := { a := 0x67452301, b := 0xefcdab89, c := 0x98badcfe, d := 0x10325476 }
  let r := (blocks Endian.little octets).foldl compress start
  octetsOf .little [r.a, r.b, r.c, r.d]

end ComponentViews.Digest.Md5

/-! A digest of 160 bits in eighty rounds over each block. -/

namespace ComponentViews.Digest.Sha1

structure Registers where
  (a b c d e : UInt32)

/-- The words of all rounds. -/
def schedule (block : Array UInt32) : Array UInt32 :=
  (List.range 64).foldl (fun words index =>
    let mixed := words.getD (index + 13) 0 ^^^ words.getD (index + 8) 0 ^^^ words.getD (index + 2) 0 ^^^
      words.getD index 0
    words.push (rotateLeft mixed 1)) block

/-- What three words come to in a round, and the constant of it. -/
def choice (index : Nat) (b c d : UInt32) : UInt32 × UInt32 :=
  if index < 20 then ((b &&& c) ||| (~~~b &&& d), 0x5a827999)
  else if index < 40 then (b ^^^ c ^^^ d, 0x6ed9eba1)
  else if index < 60 then ((b &&& c) ||| (b &&& d) ||| (c &&& d), 0x8f1bbcdc)
  else (b ^^^ c ^^^ d, 0xca62c1d6)

def round (r : Registers) (word : UInt32) (index : Nat) : Registers :=
  let (mixed, constant) := choice index r.b r.c r.d
  { a := rotateLeft r.a 5 + mixed + r.e + constant + word, b := r.a, c := rotateLeft r.b 30, d := r.c, e := r.d }

def compress (start : Registers) (block : Array UInt32) : Registers :=
  let r := (schedule block).toList.zipIdx.foldl (fun r (word, index) => round r word index) start
  { a := start.a + r.a, b := start.b + r.b, c := start.c + r.c, d := start.d + r.d, e := start.e + r.e }

def digest (octets : List UInt8) : List UInt8 :=
  let start : Registers :=
    { a := 0x67452301, b := 0xefcdab89, c := 0x98badcfe, d := 0x10325476, e := 0xc3d2e1f0 }
  let r := (blocks Endian.big octets).foldl compress start
  octetsOf .big [r.a, r.b, r.c, r.d, r.e]

end ComponentViews.Digest.Sha1

/-! Sums that guard against mistakes, and not against anybody. -/

namespace ComponentViews.Digest.Checksum

/-- Takes eight bits into a remainder of polynomials. -/
def shiftIn : Nat → UInt32 → UInt32
  | 0, rest => rest
  | bits + 1, rest =>
    shiftIn bits (if rest &&& 0x80000000 ≠ 0 then (rest <<< 1) ^^^ 0x04c11db7 else rest <<< 1)

def remainders : Array UInt32 := ((List.range 256).map fun octet => shiftIn 8 (UInt32.ofNat octet <<< 24)).toArray

def step (rest : UInt32) (octet : UInt8) : UInt32 :=
  (rest <<< 8) ^^^ remainders.getD ((rest >>> 24).toUInt8 ^^^ octet).toNat 0

/-- The octets of a number without leading zeros, the least first. -/
def lengthOctets : Nat → Nat → List UInt8
  | 0, _ => []
  | fuel + 1, value => if value = 0 then [] else UInt8.ofNat (value % 256) :: lengthOctets fuel (value / 256)

/-- The remainder of the octets and their number behind them. -/
def cyclic (octets : List UInt8) : Nat :=
  (~~~((octets ++ lengthOctets 16 octets.length).foldl step 0)).toNat

/-- A sum of 16 bits that is turned by one bit in front of each octet. -/
def turning (octets : List UInt8) : Nat :=
  octets.foldl (fun sum octet => (sum / 2 + sum % 2 * 32768 + octet.toNat) % 65536) 0

/-- The sum of the octets, folded to 16 bits. -/
def plain (octets : List UInt8) : Nat :=
  let sum := octets.foldl (fun sum octet => sum + octet.toNat) 0
  let folded := sum % 65536 + sum % 4294967296 / 65536
  folded % 65536 + folded / 65536

end ComponentViews.Digest.Checksum
