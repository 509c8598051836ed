/-! Reading bytes as UTF-8 whatever they are: each longest start of a character that
does not go on, and each byte that starts none, becomes a replacement character. -/

namespace ComponentViews.Text.Utf8

/-- A character under way: its bits so far, how many bytes are missing, and the range
of the next one, which excludes overlong forms and surrogates. -/
structure Partial where
  bits : Nat
  missing : Nat
  low : Nat
  high : Nat

/-- What a byte is at the start of a character. -/
inductive Lead where
  | single (value : Char)
  | opening (state : Partial)
  | invalid

def continuationLow : Nat := 0x80
def continuationHigh : Nat := 0xBF

/-- The role of a byte where a character starts. -/
def lead (byte : Nat) : Lead :=
  if byte < 0x80 then .single (Char.ofNat byte)
  else if byte < 0xC2 then .invalid
  else if byte < 0xE0 then .opening ⟨byte - 0xC0, 1, continuationLow, continuationHigh⟩
  else if byte = 0xE0 then .opening ⟨0, 2, 0xA0, continuationHigh⟩
  else if byte = 0xED then .opening ⟨0xD, 2, continuationLow, 0x9F⟩
  else if byte < 0xF0 then .opening ⟨byte - 0xE0, 2, continuationLow, continuationHigh⟩
  else if byte = 0xF0 then .opening ⟨0, 3, 0x90, continuationHigh⟩
  else if byte < 0xF4 then .opening ⟨byte - 0xF0, 3, continuationLow, continuationHigh⟩
  else if byte = 0xF4 then .opening ⟨4, 3, continuationLow, 0x8F⟩
  else .invalid

def replacement : Char := '\uFFFD'

/-- Reads bytes, the first ones going on with a character that is under way. -/
def decodeFrom : Option Partial → List UInt8 → List Char
  | none, [] => []
  | some _, [] => [replacement]
  | state, byte :: rest =>
    let start : List Char := match lead byte.toNat with
      | .single value => value :: decodeFrom none rest
      | .opening state => decodeFrom (some state) rest
      | .invalid => replacement :: decodeFrom none rest
    match state with
    | none => start
    | some state =>
      if state.low ≤ byte.toNat ∧ byte.toNat ≤ state.high then
        let bits := state.bits * 64 + (byte.toNat - 0x80)
        if state.missing = 1 then Char.ofNat bits :: decodeFrom none rest
        else decodeFrom (some ⟨bits, state.missing - 1, continuationLow, continuationHigh⟩) rest
      else replacement :: start

def decode (bytes : List UInt8) : List Char := decodeFrom none bytes

end ComponentViews.Text.Utf8
