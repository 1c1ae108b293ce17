import SurfaceGuard.Text.Surrogate

/-!
# UTF-8

`encode` writes a text as bytes; a lone surrogate is written as the replacement
character.  `decode` reads any bytes: each maximal part of an ill-formed sequence
becomes one replacement character, and a byte order mark is an ordinary character.

The decoder is a machine with one step per byte, so that a stream can be decoded as a
whole or piece by piece.
-/

namespace SurfaceGuard.Utf8

/-! ## Encoding -/

/-- The one to four bytes of a scalar value. -/
def encodeScalar (n : Nat) : Bytes :=
  if n < 0x80 then [n.toUInt8]
  else if n < 0x800 then [(0xC0 + n / 0x40).toUInt8, (0x80 + n % 0x40).toUInt8]
  else if n < 0x10000 then
    [(0xE0 + n / 0x1000).toUInt8, (0x80 + n / 0x40 % 0x40).toUInt8, (0x80 + n % 0x40).toUInt8]
  else
    [(0xF0 + n / 0x40000).toUInt8, (0x80 + n / 0x1000 % 0x40).toUInt8,
      (0x80 + n / 0x40 % 0x40).toUInt8, (0x80 + n % 0x40).toUInt8]

/-- The bytes of a text. -/
def encode (t : Text) : Bytes := (Text.scalars t).flatMap encodeScalar

/-! ## Decoding -/

/-- What the decoder waits for. -/
inductive Decoder where
  /-- The first byte of a sequence. -/
  | ready
  /-- So many more bytes, the next one within the bounds, after bits worth `value`. -/
  | expecting (needed : Nat) (low high : UInt8) (value : Nat)
  deriving DecidableEq, Repr

namespace Decoder

/-- The step at the first byte of a sequence: where it leads, and what it writes. -/
def lead (b : UInt8) : Decoder × Text :=
  if b < 0x80 then (ready, [b.toUInt16])
  else if 0xC2 ≤ b && b ≤ 0xDF then (expecting 1 0x80 0xBF (b.toNat - 0xC0), [])
  else if b == 0xE0 then (expecting 2 0xA0 0xBF 0x0, [])
  else if b == 0xED then (expecting 2 0x80 0x9F 0xD, [])
  else if 0xE1 ≤ b && b ≤ 0xEF then (expecting 2 0x80 0xBF (b.toNat - 0xE0), [])
  else if b == 0xF0 then (expecting 3 0x90 0xBF 0x0, [])
  else if b == 0xF4 then (expecting 3 0x80 0x8F 0x4, [])
  else if 0xF1 ≤ b && b ≤ 0xF3 then (expecting 3 0x80 0xBF (b.toNat - 0xF0), [])
  else (ready, [0xFFFD])

/-- The step at any byte.  A byte outside the bounds ends the open sequence with a
replacement character and is read again as a first byte. -/
def step : Decoder → UInt8 → Decoder × Text
  | ready, b => lead b
  | expecting needed low high value, b =>
    if low ≤ b && b ≤ high then
      let value := value * 0x40 + (b.toNat - 0x80)
      if needed ≤ 1 then (ready, Text.ofScalar value)
      else (expecting (needed - 1) 0x80 0xBF value, [])
    else
      let (next, written) := lead b
      (next, 0xFFFD :: written)

/-- What is written when the bytes end here: a replacement character inside a sequence. -/
def finish : Decoder → Text
  | ready => []
  | expecting .. => [0xFFFD]

/-- The text of the remaining bytes, from a given state on. -/
def run : Decoder → Bytes → Text
  | d, [] => d.finish
  | d, b :: rest =>
    let (next, written) := d.step b
    written ++ run next rest

end Decoder

/-- The text of a byte string. -/
def decode (bytes : Bytes) : Text := Decoder.ready.run bytes

end SurfaceGuard.Utf8
