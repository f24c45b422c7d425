/-!
# Decoding UTF-8 as a whole

A list of bytes is read as text from the front. Where a well-formed sequence begins, its character
is taken. Elsewhere one replacement character stands for the longest start of a well-formed
sequence, or for a single byte that starts none, and reading goes on after it.
-/

namespace Invocation.Utf8

/-- What stands for bytes that are no character. -/
def replacement : Char := Char.ofNat 0xfffd

/-- A continuation byte. -/
def isTail (b : UInt8) : Bool :=
  0x80 ≤ b && b ≤ 0xbf

/-- The second byte `b` may follow the first byte `a` of a sequence of two or more. -/
def isSecond (a b : UInt8) : Bool :=
  if a = 0xe0 then 0xa0 ≤ b && b ≤ 0xbf
  else if a = 0xed then 0x80 ≤ b && b ≤ 0x9f
  else if a = 0xf0 then 0x90 ≤ b && b ≤ 0xbf
  else if a = 0xf4 then 0x80 ≤ b && b ≤ 0x8f
  else isTail b

/-- The number of bytes in the sequences that a byte begins, zero if there are none. -/
def sequenceLength (a : UInt8) : Nat :=
  if a < 0x80 then 1
  else if 0xc2 ≤ a && a ≤ 0xdf then 2
  else if 0xe0 ≤ a && a ≤ 0xef then 3
  else if 0xf0 ≤ a && a ≤ 0xf4 then 4
  else 0

/-- The six low bits of a continuation byte. -/
def tailBits (b : UInt8) : Nat :=
  b.toNat - 0x80

/-- What the bytes begin with: a character, or bytes that are none, and their number. -/
def unitAt : List UInt8 → Option Char × Nat
  | [] => (none, 1)
  | a :: rest =>
    match sequenceLength a, rest with
    | 1, _ => (some (Char.ofNat a.toNat), 1)
    | 2, b :: _ =>
      if isSecond a b then (some (Char.ofNat ((a.toNat - 0xc0) * 0x40 + tailBits b)), 2)
      else (none, 1)
    | 3, b :: c :: _ =>
      if !isSecond a b then (none, 1)
      else if !isTail c then (none, 2)
      else
        (some (Char.ofNat (((a.toNat - 0xe0) * 0x40 + tailBits b) * 0x40 + tailBits c)), 3)
    | 3, [b] => (none, if isSecond a b then 2 else 1)
    | 4, b :: c :: d :: _ =>
      if !isSecond a b then (none, 1)
      else if !isTail c then (none, 2)
      else if !isTail d then (none, 3)
      else
        (some (Char.ofNat ((((a.toNat - 0xf0) * 0x40 + tailBits b) * 0x40 + tailBits c) * 0x40 +
          tailBits d)), 4)
    | 4, [b, c] => (none, if !isSecond a b then 1 else if !isTail c then 2 else 3)
    | 4, [b] => (none, if isSecond a b then 2 else 1)
    | _, _ => (none, 1)

/-- The text of the bytes; `fuel` bounds the number of characters. -/
def decodeWithin : Nat → List UInt8 → List Char
  | 0, _ => []
  | _, [] => []
  | fuel + 1, bytes =>
    let (char, count) := unitAt bytes
    char.getD replacement :: decodeWithin fuel (bytes.drop count)

/-- The text of the bytes. -/
def decode (bytes : List UInt8) : List Char :=
  decodeWithin bytes.length bytes

end Invocation.Utf8
