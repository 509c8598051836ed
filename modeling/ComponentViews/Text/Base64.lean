/-! Base64 with padding: three bytes are written as four characters of six bits,
and a last group of one or two bytes is filled up with equal signs. -/

namespace ComponentViews.Text.Base64

/-- The character of six bits. -/
def sextetChar (sextet : Nat) : Char :=
  if sextet < 26 then Char.ofNat ('A'.toNat + sextet)
  else if sextet < 52 then Char.ofNat ('a'.toNat + (sextet - 26))
  else if sextet < 62 then Char.ofNat ('0'.toNat + (sextet - 52))
  else if sextet = 62 then '+'
  else '/'

def padding : Char := '='

def encode : List UInt8 → List Char
  | [] => []
  | [a] =>
    let word := a.toNat * 16
    [sextetChar (word / 64), sextetChar (word % 64), padding, padding]
  | [a, b] =>
    let word := (a.toNat * 256 + b.toNat) * 4
    [sextetChar (word / 4096), sextetChar (word / 64 % 64), sextetChar (word % 64), padding]
  | a :: b :: c :: rest =>
    let word := (a.toNat * 256 + b.toNat) * 256 + c.toNat
    sextetChar (word / 262144) :: sextetChar (word / 4096 % 64) :: sextetChar (word / 64 % 64) ::
      sextetChar (word % 64) :: encode rest

/-- The encoding of a text's UTF-8 bytes. -/
def encodeText (text : String) : String := String.ofList (encode text.toUTF8.toList)

end ComponentViews.Text.Base64
