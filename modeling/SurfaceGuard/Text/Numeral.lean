import SurfaceGuard.Text.Ascii

/-!
# Numerals in byte strings

How programs read a number at the front of a byte string: white space, a sign, and digits.
The digits are hexadecimal after `0x`, binary after `0b`, octal after another `0`, and decimal
otherwise, unless only decimal ones are expected.  What follows the digits is left for the reader to judge.
-/

namespace SurfaceGuard

/-- A number that was read, and what follows it.  Without digits nothing was read. -/
structure Numeral where
  value : Int
  hasDigits : Bool
  rest : Bytes
  deriving DecidableEq, Repr

namespace Numeral

/-- The base of digits, and the digits without the mark of their base. -/
def baseOf (isDecimal : Bool) (t : Bytes) : Nat × Bytes :=
  if isDecimal then (10, t)
  else match t with
    | 0x30 :: x :: d :: rest =>
      if (x == 0x78 || x == 0x58) && Ascii.isHex d then (16, d :: rest)
      else if (x == 0x62 || x == 0x42) && Ascii.digitValue d < 2 then (2, d :: rest)
      else (8, t)
    | 0x30 :: _ => (8, t)
    | _ => (10, t)

/-- The number at the front of a byte string. -/
def read (isDecimal : Bool) (t : Bytes) : Numeral :=
  let body := t.dropWhile Ascii.isSpace
  let isNegative := body.head? == some 0x2D
  let body := if isNegative || body.head? == some 0x2B then body.drop 1 else body
  let (base, body) := baseOf isDecimal body
  let digits := body.takeWhile fun b => Ascii.digitValue b < base
  let n : Int := Ascii.inBase base digits
  if digits.isEmpty then ⟨0, false, t⟩
  else ⟨if isNegative then -n else n, true, body.drop digits.length⟩

/-- The least number of 64 bits. -/
def least : Int := -Nat.pow 2 63

/-- The greatest number of 64 bits. -/
def greatest : Int := Nat.pow 2 63 - 1

/-- Does the number fit into 64 bits? -/
def fits (n : Numeral) : Bool := least ≤ n.value && n.value ≤ greatest

/-- The number brought into the range of 64 bits. -/
def clamped (n : Numeral) : Int := max least (min greatest n.value)

/-- The number that a byte string writes as a whole, but for white space after it.  A blank one
writes zero where any base is expected, and nothing where only a decimal number is. -/
def whole? (isDecimal : Bool) (t : Bytes) : Option Int :=
  let n := read isDecimal t
  if !n.fits then none
  else if isDecimal && !n.hasDigits then none
  else if (n.rest.dropWhile Ascii.isSpace).isEmpty then some n.value
  else none

end Numeral

end SurfaceGuard
