/-!
# UTF-8

Bytes as characters. Bytes that stand for no character are read as the replacement character, one
for each longest sequence of bytes that could have begun a character.
-/

namespace CaseFlow.Text.Utf8

/-- The character that stands for unreadable bytes. -/
def replacement : Char := Char.ofNat 0xFFFD

/-- The bytes that may follow the first byte of a character. -/
def tail : List (Nat × Nat) := [(0x80, 0xBF)]

/-- What the first byte of a character says: its bits of the character, and the ranges of the
bytes that have to follow. -/
def leader? (b : Nat) : Option (Nat × List (Nat × Nat)) :=
  if b < 0x80 then some (b, [])
  else if 0xC2 ≤ b ∧ b ≤ 0xDF then some (b - 0xC0, tail)
  else if b = 0xE0 then some (0, (0xA0, 0xBF) :: tail)
  else if b = 0xED then some (0xD, (0x80, 0x9F) :: tail)
  else if 0xE1 ≤ b ∧ b ≤ 0xEF then some (b - 0xE0, tail ++ tail)
  else if b = 0xF0 then some (0, (0x90, 0xBF) :: tail ++ tail)
  else if 0xF1 ≤ b ∧ b ≤ 0xF3 then some (b - 0xF0, tail ++ tail ++ tail)
  else if b = 0xF4 then some (4, (0x80, 0x8F) :: tail ++ tail)
  else none

/-- The bits that following bytes add to a character, and how many bytes were taken; the bits are
absent where a byte is outside of its range. -/
def follow (bits : Nat) : List (Nat × Nat) → List Nat → Option Nat × Nat
  | [], _ => (some bits, 0)
  | _ :: _, [] => (none, 0)
  | (low, high) :: ranges, b :: bs =>
    if low ≤ b ∧ b ≤ high then
      let (r, n) := follow (bits * 64 + (b - 0x80)) ranges bs
      (r, n + 1)
    else (none, 0)

/-- Characters of bytes; the first `skip` bytes belong to a character that has been read. -/
def decodeFrom : Nat → List Nat → List Char
  | _, [] => []
  | skip + 1, _ :: bs => decodeFrom skip bs
  | 0, b :: bs =>
    match leader? b with
    | none => replacement :: decodeFrom 0 bs
    | some (bits, ranges) =>
      let (r, n) := follow bits ranges bs
      ((r.map Char.ofNat).getD replacement) :: decodeFrom n bs

/-- The characters of bytes. -/
def decode (bytes : List Nat) : List Char := decodeFrom 0 bytes

/-- The bytes of a character. -/
def encodeChar (c : Char) : List Nat :=
  let n := c.toNat
  if n < 0x80 then [n]
  else if n < 0x800 then [0xC0 + n / 64, 0x80 + n % 64]
  else if n < 0x10000 then [0xE0 + n / 4096, 0x80 + n / 64 % 64, 0x80 + n % 64]
  else [0xF0 + n / 262144, 0x80 + n / 4096 % 64, 0x80 + n / 64 % 64, 0x80 + n % 64]

end CaseFlow.Text.Utf8
