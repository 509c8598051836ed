import ComponentViews.Build.Output
import ComponentViews.Proofs.ScriptLiterals
import Mathlib.Data.List.Basic

/-! Source maps read back from the code that they are appended to. The last line of the code is a comment
whatever the map holds, since the map is written by letters, digits and signs that end no line, and from
these a strict reader has its bytes back. -/

namespace ComponentViews.Text.Utf8

theorem toList_loop (bytes : ByteArray) (index : Nat) (before : List UInt8) :
    ByteArray.toList.loop bytes index before = before.reverse ++ bytes.data.toList.drop index := by
  rw [ByteArray.toList.loop.eq_1]
  split
  next inside =>
    have inside' : index < bytes.data.toList.length := inside
    have got : bytes.get! index = bytes.data.toList[index] := getElem!_pos bytes.data index inside
    rw [toList_loop, got, List.drop_eq_getElem_cons inside']
    simp
  next past =>
    have past' : bytes.data.toList.length ≤ index := Nat.le_of_not_lt past
    rw [List.drop_eq_nil_of_le past', List.append_nil]
termination_by bytes.size - index

theorem toList_eq (bytes : ByteArray) : bytes.toList = bytes.data.toList := toList_loop bytes 0 []

theorem fromUTF8?_eq_some_iff {bytes : List UInt8} {text : String} :
    String.fromUTF8? (ByteArray.mk bytes.toArray) = some text ↔ text.toUTF8.toList = bytes := by
  rw [toList_eq, String.fromUTF8?]
  constructor
  · intro read
    obtain ⟨valid, same⟩ := Option.dite_none_right_eq_some.mp read
    cases same
    rfl
  · rintro rfl
    have same : ByteArray.mk text.toUTF8.data.toList.toArray = text.toByteArray := rfl
    rw [dif_pos (same ▸ text.isValidUTF8)]
    rfl

end ComponentViews.Text.Utf8

namespace ComponentViews.Text.Base64

/-- The characters that stand for six bits, by the number that these make. -/
def alphabet : List Char := "ABCDEFGHIJKLMNOPQRSTUVWXYZabcdefghijklmnopqrstuvwxyz0123456789+/".toList

def sextet? (c : Char) : Option Nat := alphabet.idxOf? c

/-- The three bytes of four characters. -/
def triple? (a b c d : Char) : Option (UInt8 × UInt8 × UInt8) := do
  let a ← sextet? a
  let b ← sextet? b
  let c ← sextet? c
  let d ← sextet? d
  pure (.ofNat (a * 4 + b / 16), .ofNat (b % 16 * 16 + c / 4), .ofNat (c % 4 * 64 + d))

/-- The bytes of a last group. Where it is filled up, the bits that make no byte have to be zero. -/
def lastGroup? (a b c d : Char) : Option (List UInt8) :=
  if d = padding then
    if c = padding then (triple? a b 'A' 'A').bind fun (x, y, z) => if y = 0 ∧ z = 0 then some [x] else none
    else (triple? a b c 'A').bind fun (x, y, z) => if z = 0 then some [x, y] else none
  else (triple? a b c d).map fun (x, y, z) => [x, y, z]

/-- The bytes that a text encodes, which is read in groups of four characters. -/
def decode? : List Char → Option (List UInt8)
  | [] => some []
  | [a, b, c, d] => lastGroup? a b c d
  | a :: b :: c :: d :: rest => do
    let (x, y, z) ← triple? a b c d
    let later ← decode? rest
    pure (x :: y :: z :: later)
  | _ => none

theorem sextet?_eq_some_iff {c : Char} {sextet : Nat} : sextet? c = some sextet ↔ sextet < 64 ∧ c = sextetChar sextet := by
  have listed : ∀ n : Fin 64, alphabet[n.val]? = some (sextetChar n) := by decide +kernel
  have found : ∀ n : Fin 64, sextet? (sextetChar n) = some n.val := by decide +kernel
  constructor
  · intro read
    obtain ⟨inside, same, -⟩ := List.idxOf?_eq_some_iff.mp read
    have small : sextet < 64 := inside
    refine ⟨small, ?_⟩
    have letter := listed ⟨sextet, small⟩
    rw [List.getElem?_eq_getElem inside, same] at letter
    exact Option.some.inj letter
  · rintro ⟨small, rfl⟩
    exact found ⟨sextet, small⟩

theorem sextetChar_mem_alphabet (sextet : Nat) (small : sextet < 64) : sextetChar sextet ∈ alphabet := by
  have all : ∀ n : Fin 64, sextetChar n ∈ alphabet := by decide +kernel
  exact all ⟨sextet, small⟩

theorem padding_notMem_alphabet : padding ∉ alphabet := by decide

theorem sextetChar_ne_padding {sextet : Nat} (small : sextet < 64) : sextetChar sextet ≠ padding := by
  intro same
  exact padding_notMem_alphabet (same ▸ sextetChar_mem_alphabet sextet small)

/-- Four characters stand for three bytes if and only if the first holds the upper six bits of the first byte, and so on. -/
theorem triple?_eq_some_iff {a b c d : Char} {x y z : UInt8} : triple? a b c d = some (x, y, z) ↔
    a = sextetChar (x.toNat / 4) ∧ b = sextetChar (x.toNat % 4 * 16 + y.toNat / 16) ∧
      c = sextetChar (y.toNat % 16 * 4 + z.toNat / 64) ∧ d = sextetChar (z.toNat % 64) := by
  have x_small := x.toNat_lt
  have y_small := y.toNat_lt
  have z_small := z.toNat_lt
  simp only [triple?, bind, pure, Option.bind_eq_some_iff, sextet?_eq_some_iff, Option.some.injEq, Prod.mk.injEq]
  constructor
  · rintro ⟨i, ⟨i_small, rfl⟩, j, ⟨j_small, rfl⟩, k, ⟨k_small, rfl⟩, l, ⟨l_small, rfl⟩, rfl, rfl, rfl⟩
    simp only [UInt8.toNat_ofNat']
    refine ⟨?_, ?_, ?_, ?_⟩
    all_goals
      apply congrArg sextetChar
      omega
  · rintro ⟨rfl, rfl, rfl, rfl⟩
    refine ⟨_, ⟨by omega, rfl⟩, _, ⟨by omega, rfl⟩, _, ⟨by omega, rfl⟩, _, ⟨by omega, rfl⟩, ?_, ?_, ?_⟩
    all_goals
      apply UInt8.toNat_inj.mp
      rw [UInt8.toNat_ofNat']
      omega

theorem encode_one (x : UInt8) :
    encode [x] = [sextetChar (x.toNat / 4), sextetChar (x.toNat % 4 * 16), padding, padding] := by
  have first : x.toNat * 16 / 64 = x.toNat / 4 := by omega
  have second : x.toNat * 16 % 64 = x.toNat % 4 * 16 := by omega
  simp only [encode, first, second]

theorem encode_two (x y : UInt8) : encode [x, y] = [sextetChar (x.toNat / 4),
    sextetChar (x.toNat % 4 * 16 + y.toNat / 16), sextetChar (y.toNat % 16 * 4), padding] := by
  have y_small := y.toNat_lt
  have first : (x.toNat * 256 + y.toNat) * 4 / 4096 = x.toNat / 4 := by omega
  have second : (x.toNat * 256 + y.toNat) * 4 / 64 % 64 = x.toNat % 4 * 16 + y.toNat / 16 := by omega
  have third : (x.toNat * 256 + y.toNat) * 4 % 64 = y.toNat % 16 * 4 := by omega
  simp only [encode, first, second, third]

theorem encode_three (x y z : UInt8) (rest : List UInt8) : encode (x :: y :: z :: rest) =
    sextetChar (x.toNat / 4) :: sextetChar (x.toNat % 4 * 16 + y.toNat / 16) ::
      sextetChar (y.toNat % 16 * 4 + z.toNat / 64) :: sextetChar (z.toNat % 64) :: encode rest := by
  have y_small := y.toNat_lt
  have z_small := z.toNat_lt
  have first : ((x.toNat * 256 + y.toNat) * 256 + z.toNat) / 262144 = x.toNat / 4 := by omega
  have second : ((x.toNat * 256 + y.toNat) * 256 + z.toNat) / 4096 % 64 = x.toNat % 4 * 16 + y.toNat / 16 := by omega
  have third : ((x.toNat * 256 + y.toNat) * 256 + z.toNat) / 64 % 64 = y.toNat % 16 * 4 + z.toNat / 64 := by omega
  have fourth : ((x.toNat * 256 + y.toNat) * 256 + z.toNat) % 64 = z.toNat % 64 := by omega
  simp only [encode, first, second, third, fourth]

theorem encode_eq_nil_iff {bytes : List UInt8} : encode bytes = [] ↔ bytes = [] := by
  match bytes with
  | [] => simp [encode]
  | [_] => simp [encode]
  | [_, _] => simp [encode]
  | _ :: _ :: _ :: _ => simp [encode]

theorem lastGroup?_of_encode {a b c d : Char} {bytes : List UInt8} (written : encode bytes = [a, b, c, d]) :
    lastGroup? a b c d = some bytes := by
  have zero : 'A' = sextetChar 0 := by decide
  match bytes with
  | [] => simp [encode] at written
  | [x] =>
    rw [encode_one] at written
    cases written
    have read : triple? (sextetChar (x.toNat / 4)) (sextetChar (x.toNat % 4 * 16)) 'A' 'A' = some (x, 0, 0) :=
      triple?_eq_some_iff.mpr ⟨rfl, rfl, zero, zero⟩
    simp [lastGroup?, read]
  | [x, y] =>
    have y_small := y.toNat_lt
    rw [encode_two] at written
    cases written
    have read : triple? (sextetChar (x.toNat / 4)) (sextetChar (x.toNat % 4 * 16 + y.toNat / 16))
        (sextetChar (y.toNat % 16 * 4)) 'A' = some (x, y, 0) :=
      triple?_eq_some_iff.mpr ⟨rfl, rfl, rfl, zero⟩
    have letter : sextetChar (y.toNat % 16 * 4) ≠ padding := sextetChar_ne_padding (by omega)
    simp [lastGroup?, read, letter]
  | x :: y :: z :: rest =>
    rw [encode_three] at written
    simp only [List.cons.injEq, encode_eq_nil_iff] at written
    obtain ⟨rfl, rfl, rfl, rfl, rfl⟩ := written
    have letter : sextetChar (z.toNat % 64) ≠ padding := sextetChar_ne_padding (by omega)
    simp [lastGroup?, triple?_eq_some_iff.mpr ⟨rfl, rfl, rfl, rfl⟩, letter]

theorem encode_of_lastGroup? {a b c d : Char} {bytes : List UInt8} (read : lastGroup? a b c d = some bytes) :
    encode bytes = [a, b, c, d] := by
  unfold lastGroup? at read
  split at read
  next filled =>
    split at read
    next filled' =>
      obtain ⟨⟨x, y, z⟩, whole, kept⟩ := Option.bind_eq_some_iff.mp read
      obtain ⟨⟨rfl, rfl⟩, same⟩ := Option.ite_none_right_eq_some.mp kept
      cases same
      obtain ⟨rfl, rfl, -, -⟩ := triple?_eq_some_iff.mp whole
      rw [filled, filled', encode_one]
      rfl
    next =>
      obtain ⟨⟨x, y, z⟩, whole, kept⟩ := Option.bind_eq_some_iff.mp read
      obtain ⟨rfl, same⟩ := Option.ite_none_right_eq_some.mp kept
      cases same
      obtain ⟨rfl, rfl, rfl, -⟩ := triple?_eq_some_iff.mp whole
      rw [filled, encode_two]
      rfl
  next =>
    obtain ⟨⟨x, y, z⟩, whole, same⟩ := Option.map_eq_some_iff.mp read
    cases same
    obtain ⟨rfl, rfl, rfl, rfl⟩ := triple?_eq_some_iff.mp whole
    rw [encode_three]
    rfl

/-- Reading takes exactly what writing makes. -/
theorem decode?_eq_some_iff {text : List Char} {bytes : List UInt8} : decode? text = some bytes ↔ encode bytes = text := by
  constructor
  · intro read
    induction text using decode?.induct generalizing bytes with
    | case1 =>
      cases read
      rfl
    | case2 a b c d => exact encode_of_lastGroup? read
    | case3 a b c d rest further ih =>
      simp only [decode?, bind, pure, Option.bind_eq_some_iff] at read
      obtain ⟨⟨x, y, z⟩, first, later, following, same⟩ := read
      cases same
      obtain ⟨rfl, rfl, rfl, rfl⟩ := triple?_eq_some_iff.mp first
      rw [encode_three, ih following]
    | case4 text => simp [decode?] at read
  · rintro rfl
    induction bytes using encode.induct with
    | case1 => rfl
    | case2 x =>
      rw [encode_one]
      exact lastGroup?_of_encode (encode_one x)
    | case3 x y =>
      rw [encode_two]
      exact lastGroup?_of_encode (encode_two x y)
    | case4 x y z rest ih =>
      rw [encode_three]
      -- The reader knows a last group by what follows it, the writer by the bytes that it has left.
      by_cases last : rest = []
      · subst last
        exact lastGroup?_of_encode (encode_three x y z [])
      · have further : encode rest ≠ [] := encode_eq_nil_iff.not.mpr last
        have first : triple? _ _ _ _ = some (x, y, z) := triple?_eq_some_iff.mpr ⟨rfl, rfl, rfl, rfl⟩
        rw [decode?, first, ih]
        · rfl
        · exact further

theorem group_mem_alphabet (x y z : UInt8) : sextetChar (x.toNat / 4) ∈ alphabet ∧
    sextetChar (x.toNat % 4 * 16 + y.toNat / 16) ∈ alphabet ∧ sextetChar (y.toNat % 16 * 4 + z.toNat / 64) ∈ alphabet ∧
      sextetChar (z.toNat % 64) ∈ alphabet := by
  have x_small := x.toNat_lt
  have y_small := y.toNat_lt
  have z_small := z.toNat_lt
  refine ⟨?_, ?_, ?_, ?_⟩
  all_goals
    apply sextetChar_mem_alphabet
    omega

/-- What is written is made of the alphabet's characters, in groups of four, the last of which is filled up. -/
theorem encode_shape (bytes : List UInt8) : ∃ letters filling, encode bytes = letters ++ List.replicate filling padding ∧
    (∀ c ∈ letters, c ∈ alphabet) ∧ filling ≤ 2 ∧ 4 ∣ (encode bytes).length := by
  induction bytes using encode.induct with
  | case1 => exact ⟨[], 0, rfl, by simp, by omega, by simp [encode]⟩
  | case2 x =>
    obtain ⟨first, second, -, -⟩ := group_mem_alphabet x 0 0
    refine ⟨[_, _], 2, encode_one x, ?_, by omega, by simp [encode_one]⟩
    simpa using ⟨first, second⟩
  | case3 x y =>
    obtain ⟨first, second, third, -⟩ := group_mem_alphabet x y 0
    refine ⟨[_, _, _], 1, encode_two x y, ?_, by omega, by simp [encode_two]⟩
    simpa using ⟨first, second, third⟩
  | case4 x y z rest ih =>
    obtain ⟨first, second, third, fourth⟩ := group_mem_alphabet x y z
    obtain ⟨letters, filling, written, listed, few, groups⟩ := ih
    rw [encode_three]
    refine ⟨_ :: _ :: _ :: _ :: letters, filling, by rw [written]; rfl, ?_, few, ?_⟩
    · simp only [List.forall_mem_cons]
      exact ⟨first, second, third, fourth, listed⟩
    · simp only [List.length_cons]
      omega

/-- The text that is encoded. -/
def decodeText? (text : List Char) : Option String :=
  (decode? text).bind fun bytes => String.fromUTF8? (ByteArray.mk bytes.toArray)

theorem decodeText?_eq_some_iff {text : List Char} {value : String} :
    decodeText? text = some value ↔ (encodeText value).toList = text := by
  simp only [decodeText?, Option.bind_eq_some_iff, decode?_eq_some_iff, Utf8.fromUTF8?_eq_some_iff, encodeText, String.toList_ofList]
  constructor
  · rintro ⟨bytes, written, rfl⟩
    exact written
  · intro written
    exact ⟨_, written, rfl⟩

/-- No character that stands for bytes or fills a group up ends a line. -/
theorem isLineEnd_encode {bytes : List UInt8} {c : Char} (member : c ∈ encode bytes) : Script.isLineEnd c = false := by
  have plain : alphabet.all (!Script.isLineEnd ·) := by decide
  obtain ⟨letters, filling, written, listed, -, -⟩ := encode_shape bytes
  rw [written, List.mem_append] at member
  cases member with
  | inl letter => simpa using List.all_eq_true.mp plain c (listed c letter)
  | inr filled =>
    obtain ⟨-, rfl⟩ := List.mem_replicate.mp filled
    decide

end ComponentViews.Text.Base64

namespace ComponentViews.Build.SourceMap
open Text

/-- A text cut at its last line feed, into what stands before it and the last line. -/
def cutLastLine? : List Char → Option (List Char × List Char)
  | [] => none
  | c :: rest =>
    match cutLastLine? rest with
    | some (before, line) => some (c :: before, line)
    | none => if c = '\n' then some ([], rest) else none

theorem cutLastLine?_eq_none_iff {text : List Char} : cutLastLine? text = none ↔ '\n' ∉ text := by
  induction text with
  | nil => simp [cutLastLine?]
  | cons c rest ih => grind [cutLastLine?]

theorem cutLastLine?_eq_some_iff {text before line : List Char} :
    cutLastLine? text = some (before, line) ↔ text = before ++ '\n' :: line ∧ '\n' ∉ line := by
  constructor
  · intro found
    induction text generalizing before with
    | nil => simp [cutLastLine?] at found
    | cons c rest ih => grind [cutLastLine?, cutLastLine?_eq_none_iff]
  · rintro ⟨rfl, plain⟩
    induction before with
    | nil => simp [cutLastLine?, cutLastLine?_eq_none_iff.mpr plain]
    | cons c before ih => simp [cutLastLine?, ih]

/-- The code and the map of a text whose last line is a comment that holds a map. -/
def readInline? (text : String) : Option (String × String) := do
  let (code, line) ← cutLastLine? text.toList
  let payload ← line.dropPrefix? commentStart.toList
  let map ← Base64.decodeText? payload
  pure (String.ofList code, map)

theorem commentStart_plain : commentStart.toList.all (!Script.isLineEnd ·) := by decide +kernel

/-- The comment is one line, whatever the map holds. -/
theorem isLineEnd_comment {map : String} {c : Char} (member : c ∈ commentStart.toList ++ (Base64.encodeText map).toList) :
    Script.isLineEnd c = false := by
  rw [List.mem_append, Base64.encodeText, String.toList_ofList] at member
  cases member with
  | inl start => simpa using List.all_eq_true.mp commentStart_plain c start
  | inr encoded => exact Base64.isLineEnd_encode encoded

theorem toList_appendInline (code map : String) : (appendInline code map).toList =
    code.toList ++ '\n' :: (commentStart.toList ++ (Base64.encodeText map).toList) := by
  simp only [appendInline, String.toList_append, List.append_assoc]
  rfl

theorem cutLastLine?_appendInline (code map : String) : cutLastLine? (appendInline code map).toList =
    some (code.toList, commentStart.toList ++ (Base64.encodeText map).toList) := by
  have plain : '\n' ∉ commentStart.toList ++ (Base64.encodeText map).toList := by
    intro member
    have ends : Script.isLineEnd '\n' = true := rfl
    rw [isLineEnd_comment member] at ends
    cases ends
  exact cutLastLine?_eq_some_iff.mpr ⟨toList_appendInline code map, plain⟩

/-- A text reads as code and a map if and only if it is the code with the map appended. -/
theorem readInline?_eq_some_iff {text code map : String} :
    readInline? text = some (code, map) ↔ text = appendInline code map := by
  constructor
  · intro read
    simp only [readInline?, bind, pure, Option.bind_eq_some_iff, Option.some.injEq, Prod.mk.injEq] at read
    obtain ⟨⟨before, line⟩, cut, payload, kept, map, decoded, rfl, rfl⟩ := read
    obtain ⟨spelled, -⟩ := cutLastLine?_eq_some_iff.mp cut
    obtain ⟨start, whole, same⟩ := List.dropPrefix?_eq_some_iff.mp kept
    change line = start ++ payload at whole
    rw [eq_of_beq same, ← Base64.decodeText?_eq_some_iff.mp decoded] at whole
    rw [← String.toList_inj, toList_appendInline, String.toList_ofList, spelled, whole]
  · rintro rfl
    have kept : (commentStart.toList ++ (Base64.encodeText map).toList).dropPrefix? commentStart.toList =
        some (Base64.encodeText map).toList :=
      List.dropPrefix?_eq_some_iff.mpr ⟨_, rfl, beq_self_eq_true _⟩
    simp only [readInline?, cutLastLine?_appendInline, kept, Base64.decodeText?_eq_some_iff.mpr rfl, bind, pure,
      Option.bind_some, String.ofList_toList]

/-- Code with an inline map is, cut at its last line feed, the code and one comment line: the fixed start and
groups of four characters, of which at most the last two are filling, that encode the map's bytes. From the text both the
code and the map are read back, and from no other text the same ones. -/
theorem inline_map_recovered (code map : String) :
    ∃ payload, cutLastLine? (appendInline code map).toList = some (code.toList, commentStart.toList ++ payload) ∧
      (∃ letters filling, payload = letters ++ List.replicate filling Base64.padding ∧
        (∀ c ∈ letters, c ∈ Base64.alphabet) ∧ filling ≤ 2 ∧ 4 ∣ payload.length) ∧
      Base64.decode? payload = some map.toUTF8.toList ∧
      (∀ c ∈ commentStart.toList ++ payload, Script.isLineEnd c = false) ∧
      ∀ text, readInline? text = some (code, map) ↔ text = appendInline code map := by
  have written : (Base64.encodeText map).toList = Base64.encode map.toUTF8.toList := String.toList_ofList
  refine ⟨(Base64.encodeText map).toList, cutLastLine?_appendInline code map, ?_, ?_, ?_, ?_⟩
  · rw [written]
    exact Base64.encode_shape _
  · exact Base64.decode?_eq_some_iff.mpr written.symm
  · intro c member
    exact isLineEnd_comment member
  · intro text
    exact readInline?_eq_some_iff

end ComponentViews.Build.SourceMap
