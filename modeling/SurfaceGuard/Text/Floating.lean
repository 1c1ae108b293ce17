import SurfaceGuard.Text.Numeral

/-!
# Floating-point numerals in byte strings

Programs read a numeral as the binary floating-point number of their format that is nearest
to it, and print the exact value of a number, rounded to the digits that are asked for.
Both roundings take the even neighbour where two are equally near.
-/

namespace SurfaceGuard

/-- A binary floating-point format. -/
structure FloatFormat where
  /-- How many binary digits a number has. -/
  bits : Nat
  /-- The exponent of the least unit. -/
  least : Int
  /-- All numbers are less than two to this power. -/
  limit : Nat
  deriving DecidableEq, Repr

namespace FloatFormat

/-- Numbers of 64 bits. -/
def double : FloatFormat := ⟨53, -1074, 1024⟩

/-- Numbers of 80 bits. -/
def extended : FloatFormat := ⟨64, -16445, 16384⟩

end FloatFormat

/-- A floating-point number: finite ones are a natural multiple of a power of two. -/
inductive Floating where
  | finite (isNegative : Bool) (units : Nat) (exponent : Int)
  | infinite (isNegative : Bool)
  | notNumber (isNegative : Bool)
  deriving DecidableEq, Repr

namespace Floating

/-- A quotient rounded to the nearest natural. -/
def roundedQuotient (n d : Nat) : Nat :=
  let q := n / d
  let twice := 2 * (n % d)
  if twice < d || (twice == d && q % 2 == 0) then q else q + 1

/-- A quotient, times a power of a base, rounded to the nearest natural. -/
def scaledQuotient (base : Nat) (power : Int) (n d : Nat) : Nat :=
  if 0 ≤ power then roundedQuotient (n * Nat.pow base power.toNat) d
  else roundedQuotient n (d * Nat.pow base (-power).toNat)

/-- Is a quotient, times a power of a base, at least a natural? -/
def isScaledAtLeast (base : Nat) (power : Int) (n d bound : Nat) : Bool :=
  if 0 ≤ power then bound * d ≤ n * Nat.pow base power.toNat
  else bound * (d * Nat.pow base (-power).toNat) ≤ n

/-- The number of a format nearest to a quotient, and whether it lies outside of the range in which
the format has its full precision. -/
def ofQuotient (f : FloatFormat) (isNegative : Bool) (n d : Nat) : Floating × Bool :=
  if n = 0 then (.finite isNegative 0 0, false)
  else
    let high : Int := (Nat.log2 n : Int) - Nat.log2 d - f.bits + 1
    let exponent := if isScaledAtLeast 2 (-high) n d (Nat.pow 2 (f.bits - 1)) then high else high - 1
    let isSmall := exponent < f.least
    let exponent := max f.least exponent
    let units := scaledQuotient 2 (-exponent) n d
    if Nat.pow 2 f.limit ≤ units * Nat.pow 2 exponent.toNat then (.infinite isNegative, true)
    else
      let isExact := units * d * Nat.pow 2 exponent.toNat == n * Nat.pow 2 (-exponent).toNat
      (.finite isNegative units exponent, isSmall && !isExact)

/-! ## Reading -/

/-- A number that was read: what follows it, and whether the format has no such number. -/
structure Read where
  value : Floating
  hasDigits : Bool
  isOutOfRange : Bool
  rest : Bytes
  deriving DecidableEq, Repr

/-- The digits at the front: those before a point, those after it, and what follows. -/
def digitsOf (base : Nat) (t : Bytes) : Bytes × Bytes × Bytes :=
  let isIn (b : UInt8) : Bool := Ascii.digitValue b < base
  let whole := t.takeWhile isIn
  let rest := t.drop whole.length
  match rest with
  | 0x2E :: after =>
    let fraction := after.takeWhile isIn
    if whole.isEmpty && fraction.isEmpty then ([], [], t)
    else (whole, fraction, after.drop fraction.length)
  | _ => (whole, [], rest)

/-- The exponent that follows one of two letters, and what follows; it needs digits. -/
def exponentOf (small : UInt8) (t : Bytes) : Int × Bytes :=
  match t with
  | [] => (0, [])
  | b :: after =>
    if b != small && b != Ascii.upper small then (0, t)
    else
      let isNegative := after.head? == some 0x2D
      let body := if isNegative || after.head? == some 0x2B then after.drop 1 else after
      let digits := body.takeWhile Ascii.isDigit
      if digits.isEmpty then (0, t)
      else
        let n : Int := Ascii.toNat digits
        (if isNegative then -n else n, body.drop digits.length)

/-- A power beyond all formats. -/
def farPower : Nat := 40000

/-- The number of a format nearest to digits times a power of a base; the digits, which number so
many, are brought into a range before they are multiplied out. -/
def ofDigits (f : FloatFormat) (isNegative : Bool) (n count base : Nat) (power : Int) :
    Floating × Bool :=
  if n = 0 then (.finite isNegative 0 0, false)
  else if (farPower : Int) < power then (.infinite isNegative, true)
  else if power + (4 * count : Int) < -farPower then (.finite isNegative 0 0, true)
  else if 0 ≤ power then ofQuotient f isNegative (n * Nat.pow base power.toNat) 1
  else ofQuotient f isNegative n (Nat.pow base (-power).toNat)

/-- Does a text start with a word, in any case of letters? -/
def startsWith (word t : Bytes) : Bool := (t.take word.length).map Ascii.upper == word.map Ascii.upper

/-- The number at the front of a byte string. -/
def read (f : FloatFormat) (t : Bytes) : Read :=
  let body := t.dropWhile Ascii.isSpace
  let isNegative := body.head? == some 0x2D
  let body := if isNegative || body.head? == some 0x2B then body.drop 1 else body
  if startsWith "infinity" body then ⟨.infinite isNegative, true, false, body.drop 8⟩
  else if startsWith "inf" body then ⟨.infinite isNegative, true, false, body.drop 3⟩
  else if startsWith "nan" body then ⟨.notNumber isNegative, true, false, body.drop 3⟩
  else
    let hex := if startsWith "0x" body then digitsOf 16 (body.drop 2) else ([], [], [])
    if !(hex.1 ++ hex.2.1).isEmpty then
      let (whole, fraction, rest) := hex
      let (power, rest) := exponentOf 0x70 rest
      let digits := whole ++ fraction
      let (value, isOutOfRange) := ofDigits f isNegative (Ascii.inBase 16 digits) digits.length 2
        (power - 4 * fraction.length)
      ⟨value, true, isOutOfRange, rest⟩
    else
      let (whole, fraction, rest) := digitsOf 10 body
      let digits := whole ++ fraction
      if digits.isEmpty then ⟨.finite false 0 0, false, false, t⟩
      else
        let (power, rest) := exponentOf 0x65 rest
        let (value, isOutOfRange) := ofDigits f isNegative (Ascii.toNat digits) digits.length 10
          (power - fraction.length)
        ⟨value, true, isOutOfRange, rest⟩

/-! ## Writing -/

/-- Does the number have a minus sign? -/
def isNegative : Floating → Bool
  | finite n .. => n
  | infinite n => n
  | notNumber n => n

/-- The value of units of a power of two as a quotient. -/
def quotient (units : Nat) (exponent : Int) : Nat × Nat :=
  (units * Nat.pow 2 exponent.toNat, Nat.pow 2 (-exponent).toNat)

/-- Digits with a point in front of the last ones; a point without digits after it is only written
if it is asked for. -/
def pointed (digits : Bytes) (places : Nat) (keepsPoint : Bool) : Bytes :=
  let digits := List.replicate (places + 1 - digits.length) 0x30 ++ digits
  let whole := digits.take (digits.length - places)
  let fraction := digits.drop (digits.length - places)
  whole ++ if fraction.isEmpty && !keepsPoint then [] else 0x2E :: fraction

/-- The value with so many decimal places. -/
def fixed (units : Nat) (exponent : Int) (places : Nat) (keepsPoint : Bool) : Bytes :=
  let (n, d) := quotient units exponent
  pointed (Ascii.ofNat (scaledQuotient 10 places n d)) places keepsPoint

/-- The decimal exponent of a quotient that is not zero. -/
def decimalExponent (n d : Nat) : Int :=
  let guess := ((Nat.log2 n : Int) - Nat.log2 d) * 30103 / 100000 - 1
  let isBelow (e : Int) : Bool := isScaledAtLeast 10 (-e) n d 1
  if isBelow (guess + 2) then guess + 2 else if isBelow (guess + 1) then guess + 1 else guess

/-- The decimal digits of the value, one in front of so many others, and its decimal exponent. -/
def significant (units : Nat) (exponent : Int) (others : Nat) : Bytes × Int :=
  let (n, d) := quotient units exponent
  if n = 0 then (List.replicate (others + 1) 0x30, 0)
  else
    let e := decimalExponent n d
    let rounded := scaledQuotient 10 (others - e) n d
    if rounded < Nat.pow 10 (others + 1) then (Ascii.ofNat rounded, e)
    else (Ascii.ofNat (rounded / 10), e + 1)

/-- An exponent with its sign and at least so many digits. -/
def signedExponent (least : Nat) (e : Int) : Bytes :=
  let digits := Ascii.ofNat e.natAbs
  (if e < 0 then 0x2D else 0x2B) :: List.replicate (least - digits.length) 0x30 ++ digits

/-- The value with one digit in front of the point and an exponent. -/
def exponential (units : Nat) (exponent : Int) (places : Nat) (keepsPoint : Bool) : Bytes :=
  let (digits, e) := significant units exponent places
  pointed digits places keepsPoint ++ 0x65 :: signedExponent 2 e

/-- A text without the zeros after its point, and without a point at its end. -/
def withoutZeros (t : Bytes) : Bytes :=
  if t.contains 0x2E then
    let kept := t.reverse.dropWhile (· == 0x30)
    (if kept.head? == some 0x2E then kept.drop 1 else kept).reverse
  else t

/-- The value with so many digits, in the shorter of both forms. -/
def general (units : Nat) (exponent : Int) (digits : Nat) (keepsZeros : Bool) : Bytes :=
  let digits := max 1 digits
  let (ds, e) := significant units exponent (digits - 1)
  if e < -4 || (digits : Int) ≤ e then
    let front := pointed ds (digits - 1) keepsZeros
    (if keepsZeros then front else withoutZeros front) ++ 0x65 :: signedExponent 2 e
  else
    let text := fixed units exponent ((digits : Int) - 1 - e).toNat keepsZeros
    if keepsZeros then text else withoutZeros text

/-- The value with hexadecimal digits and a binary exponent: all of them, or so many places. -/
def hexadecimal (f : FloatFormat) (units : Nat) (exponent : Int) (places? : Option Nat)
    (keepsPoint : Bool) : Bytes :=
  let front := (f.bits - 1) % 4
  let places := (f.bits - 1) / 4
  let shift := f.bits - 1 - Nat.log2 units
  let shift := if units = 0 then 0 else min shift (exponent - f.least).toNat
  let all := units * Nat.pow 2 shift
  let power : Int := if units = 0 then 0 else exponent - shift + (f.bits - 1 - front : Nat)
  let (ds, shown) := match places? with
    | some p => if p < places then (roundedQuotient all (Nat.pow 16 (places - p)), p) else (all * Nat.pow 16 (p - places), p)
    | none => (all, places)
  let text := pointed (Ascii.digits 16 ds) shown keepsPoint
  let text := if places?.isNone && !keepsPoint then withoutZeros text else text
  ascii "0x" ++ text ++ 0x70 :: signedExponent 1 power

end Floating

end SurfaceGuard
