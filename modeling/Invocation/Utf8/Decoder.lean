import Invocation.Utf8.Replace

/-!
# Decoding UTF-8 byte by byte

A decoder that is given bytes as they come. Between two bytes it stands between characters, or owes
continuation bytes to a sequence that has begun, the next of which must lie in a certain range. A
byte outside that range ends the sequence with a replacement character and is then taken as a first
byte. The first two bytes of a surrogate are kept back as if they could still become a character;
the byte after them turns each into a replacement character. What a longer input yields begins with
what its start yields (`feed_append`).
-/

namespace Invocation.Utf8

/-- Where a decoder stands between two bytes. -/
inductive Decoder where
  /-- Between characters. -/
  | ready
  /-- Within a sequence that lacks `more + 1` bytes, the next between `low` and `high`; `code` is
  the number that the bytes so far make up. -/
  | owing (more : Nat) (low high : UInt8) (code : Nat)
  /-- After the first byte of a surrogate or of a character just below the surrogates. -/
  | afterED
  /-- After two bytes of a surrogate. -/
  | surrogate
  deriving DecidableEq, Repr

namespace Decoder

/-- The step of a decoder that stands between characters. -/
def begin (b : UInt8) : Decoder × List Char :=
  let n := b.toNat
  if b < 0x80 then (.ready, [Char.ofNat n])
  else if b < 0xc2 then (.ready, [replacement])
  else if b < 0xe0 then (.owing 0 0x80 0xbf (n - 0xc0), [])
  else if b = 0xe0 then (.owing 1 0xa0 0xbf 0, [])
  else if b = 0xed then (.afterED, [])
  else if b < 0xf0 then (.owing 1 0x80 0xbf (n - 0xe0), [])
  else if b = 0xf0 then (.owing 2 0x90 0xbf 0, [])
  else if b < 0xf4 then (.owing 2 0x80 0xbf (n - 0xf0), [])
  else if b = 0xf4 then (.owing 2 0x80 0x8f (n - 0xf0), [])
  else (.ready, [replacement])

/-- The step of a decoder that gives up the bytes it kept back. -/
def giveUp (kept : Nat) (b : UInt8) : Decoder × List Char :=
  let (next, text) := begin b
  (next, List.replicate kept replacement ++ text)

/-- The step of a decoder: where it stands after a byte, and the characters that are then
certain. -/
def step : Decoder → UInt8 → Decoder × List Char
  | .ready, b => begin b
  | .owing more low high code, b =>
    if low ≤ b && b ≤ high then
      let code := code * 0x40 + (b.toNat - 0x80)
      match more with
      | 0 => (.ready, [Char.ofNat code])
      | more + 1 => (.owing more 0x80 0xbf code, [])
    else giveUp 1 b
  | .afterED, b =>
    if 0x80 ≤ b && b ≤ 0x9f then (.owing 0 0x80 0xbf (0xd * 0x40 + (b.toNat - 0x80)), [])
    else if 0xa0 ≤ b && b ≤ 0xbf then (.surrogate, [])
    else giveUp 1 b
  | .surrogate, b => giveUp 2 b

/-- Where a decoder stands after some bytes, and the characters that are then certain. -/
def feed : Decoder → List UInt8 → Decoder × List Char
  | d, [] => (d, [])
  | d, b :: rest =>
    let (d, text) := d.step b
    let (d, more) := d.feed rest
    (d, text ++ more)

/-- The characters that the end of the input adds. -/
def finish : Decoder → List Char
  | .ready => []
  | .owing .. => [replacement]
  | .afterED => [replacement]
  | .surrogate => [replacement, replacement]

theorem feed_append (d : Decoder) (xs ys : List UInt8) :
    d.feed (xs ++ ys) =
      (((d.feed xs).1.feed ys).1, (d.feed xs).2 ++ ((d.feed xs).1.feed ys).2) := by
  induction xs generalizing d with
  | nil => simp [feed]
  | cons b rest ih => simp [feed, ih, List.append_assoc]

end Decoder

end Invocation.Utf8
