/-! Octets: bytes, each held as the character of its number, so that scripts and their
data are read as characters while bytes that encode no text get through. -/

namespace ComponentViews.Shell

abbrev Octets := List Char

namespace Octets

def ofBytes (bytes : List UInt8) : Octets := bytes.map fun byte => Char.ofNat byte.toNat

def toBytes (octets : Octets) : List UInt8 := octets.map fun c => UInt8.ofNat c.toNat

/-- The UTF-8 bytes of a text. -/
def ofText (text : String) : Octets := ofBytes text.toUTF8.toList

/-- The text that octets encode, empty if they encode none. -/
def toText (octets : Octets) : String := (String.fromUTF8? (ByteArray.mk octets.toBytes.toArray)).getD ""

def ofNat (value : Nat) : Octets := Nat.toDigits 10 value

/-- The order of texts by their octets. -/
def atMost : Octets → Octets → Bool
  | [], _ => true
  | _ :: _, [] => false
  | a :: left, b :: right => if a = b then atMost left right else decide (a < b)

/-- The lines of a text, without the newlines that end them. -/
def lines : Octets → List Octets
  | [] => []
  | c :: rest =>
    if c = '\n' then [] :: lines rest
    else match lines rest with
      | [] => [[c]]
      | line :: others => (c :: line) :: others

/-- Lines, each ended by a newline. -/
def ofLines (lines : List Octets) : Octets := lines.flatMap (· ++ ['\n'])

def dropEndWhile (text : Octets) (among : Char → Bool) : Octets := (text.reverse.dropWhile among).reverse

end Octets
end ComponentViews.Shell
