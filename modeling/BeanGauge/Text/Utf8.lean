/-!
Texts as bytes. Every text has its bytes in UTF-8; of arbitrary bytes, each longest piece that
cannot be continued to a character is read as one replacement character.
-/

namespace BeanGauge

abbrev Bytes := List UInt8

namespace Text

def encode (s : String) : Bytes := s.toList.flatMap String.utf8EncodeChar

def replacement : Char := '\ufffd'

/-- The low six bits of a byte that continues a character, if it stands between `low` and `high`. -/
def continuation? (low high b : UInt8) : Option Nat :=
  if low ≤ b ∧ b ≤ high then some (b.toNat % 64) else none

/-- The least and the greatest second byte after a first one of three bytes. -/
def secondOfThree (b : UInt8) : UInt8 × UInt8 :=
  if b = 0xe0 then (0xa0, 0xbf) else if b = 0xed then (0x80, 0x9f) else (0x80, 0xbf)

/-- The least and the greatest second byte after a first one of four bytes. -/
def secondOfFour (b : UInt8) : UInt8 × UInt8 :=
  if b = 0xf0 then (0x90, 0xbf) else if b = 0xf4 then (0x80, 0x8f) else (0x80, 0xbf)

/-- What a character starting with `b` at the front of `b :: rest` is, and how many bytes of `rest`
belong to it. -/
def decodeFirst (b : UInt8) (rest : Bytes) : Char × Nat :=
  let next (k : Nat) (low high : UInt8) : Option Nat := rest[k]?.bind (continuation? low high)
  let n := b.toNat
  if b < 0x80 then (Char.ofNat n, 0)
  else if 0xc2 ≤ b ∧ b ≤ 0xdf then
    match next 0 0x80 0xbf with
    | some x => (Char.ofNat ((n - 0xc0) * 64 + x), 1)
    | none => (replacement, 0)
  else if 0xe0 ≤ b ∧ b ≤ 0xef then
    match next 0 (secondOfThree b).1 (secondOfThree b).2 with
    | none => (replacement, 0)
    | some x =>
      match next 1 0x80 0xbf with
      | none => (replacement, 1)
      | some y => (Char.ofNat (((n - 0xe0) * 64 + x) * 64 + y), 2)
  else if 0xf0 ≤ b ∧ b ≤ 0xf4 then
    match next 0 (secondOfFour b).1 (secondOfFour b).2 with
    | none => (replacement, 0)
    | some x =>
      match next 1 0x80 0xbf with
      | none => (replacement, 1)
      | some y =>
        match next 2 0x80 0xbf with
        | none => (replacement, 2)
        | some z => (Char.ofNat ((((n - 0xf0) * 64 + x) * 64 + y) * 64 + z), 3)
  else (replacement, 0)

/-- The characters of some bytes; `skip` bytes at the front belong to a character that was read
already. -/
def decodeFrom : Nat → Bytes → List Char
  | _, [] => []
  | skip + 1, _ :: rest => decodeFrom skip rest
  | 0, b :: rest => (decodeFirst b rest).1 :: decodeFrom (decodeFirst b rest).2 rest

def decode (bytes : Bytes) : String := String.ofList (decodeFrom 0 bytes)

end Text

end BeanGauge
