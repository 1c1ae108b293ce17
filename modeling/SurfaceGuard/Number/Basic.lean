import SurfaceGuard.Text.Basic

/-!
# Binary64 numbers

Configuration values, durations and every number inside a JSON text are binary64
numbers.  The finite magnitudes are counted upwards from zero: the `k`-th one is a
significand times a power of two, and the largest has position `limit - 1`.  In this
form the order of magnitudes is the order of positions, the successor of a significand
is the next position also where the exponent changes, and rounding is a statement about
naturals.

* `position num den` is the position nearest to a positive quotient; of two equally near
  ones it is the even one.
* `ofRatio`, `ofNat`, `ofDecimal` are the numbers nearest to an exact value, infinite from
  half a step above the largest magnitude on.
-/

namespace SurfaceGuard

/-- How many finite magnitudes there are. -/
def Number.limit : Nat := 0x7FF0000000000000

/-- A binary64 number. -/
inductive Number where
  /-- A finite number: its sign, and the position of its magnitude. -/
  | finite (negative : Bool) (position : Fin Number.limit)
  /-- An infinity. -/
  | infinite (negative : Bool)
  /-- Not a number. -/
  | nan
  deriving DecidableEq, Repr

namespace Number

/-! ## Magnitudes -/

/-- The number of magnitudes between two powers of two. -/
def binade : Nat := 0x10000000000000

/-- The significand of the magnitude at a position. -/
def significand (k : Nat) : Nat := if k < binade then k else binade + k % binade

/-- The power of two, above the least one, of the magnitude at a position. -/
def shift (k : Nat) : Nat := k / binade - 1

/-- How many units make one: the least positive magnitude is one unit. -/
def unitsPerOne : Nat := Nat.pow 2 1074

/-- The magnitude at a position, counted in units of the least positive one. -/
def units (k : Nat) : Nat := significand k * Nat.pow 2 (shift k)

/-! ## Rounding -/

/-- The quotient rounded to the nearest natural, a half to the even one. -/
def roundHalfEven (num den : Nat) : Nat :=
  let q := num / den
  let r := num % den
  if den < 2 * r || (den == 2 * r && q % 2 == 1) then q + 1 else q

/-- The position nearest to `num / den`, where `0 < den`; it is `limit` or more on overflow. -/
def position (num den : Nat) : Nat :=
  let scaled := num * unitsPerOne
  let s := (scaled / den).log2 - 52
  s * binade + roundHalfEven scaled (den * Nat.pow 2 s)

/-- The number nearest to a signed quotient. -/
def ofRatio (negative : Bool) (num den : Nat) : Number :=
  let k := position num den
  if h : k < limit then finite negative ⟨k, h⟩ else infinite negative

/-- The number nearest to a natural. -/
def ofNat (n : Nat) : Number := ofRatio false n 1

/-- The number nearest to an integer. -/
def ofInt : Int → Number
  | .ofNat n => ofNat n
  | .negSucc n => ofRatio true (n + 1) 1

/-- Zero, with either sign. -/
def zero (negative : Bool) : Number := finite negative ⟨0, by decide⟩

/-- The number nearest to `digits * 10 ^ exponent`.  An exponent far outside the range of
magnitudes decides alone. -/
def ofDecimal (negative : Bool) (digits : Nat) (exponent : Int) : Number :=
  if digits = 0 then zero negative
  else
    let top := exponent + (Nat.toDigits 10 digits).length
    if 400 < top then infinite negative
    else if top < -400 then zero negative
    else match exponent with
      | .ofNat e => ofRatio negative (digits * Nat.pow 10 e) 1
      | .negSucc e => ofRatio negative digits (Nat.pow 10 (e + 1))

/-! ## Bits -/

/-- The number with the given 64 bits. -/
def ofBits (bits : Nat) : Number :=
  let negative := bits / Nat.pow 2 63 % 2 == 1
  let k := bits % Nat.pow 2 63
  if h : k < limit then finite negative ⟨k, h⟩
  else if k = limit then infinite negative
  else nan

/-! ## Questions -/

/-- Is the number finite? -/
def isFinite : Number → Bool
  | finite .. => true
  | _ => false

/-- Is the number a whole one?  Infinities are not. -/
def isWhole : Number → Bool
  | finite _ k => units k % unitsPerOne == 0
  | _ => false

/-- Is the number greater than zero? -/
def isPositive : Number → Bool
  | finite negative k => !negative && k.val != 0
  | infinite negative => !negative
  | nan => false

/-- A finite number in units of the least positive magnitude. -/
def unitsInt : Number → Int
  | finite false k => units k
  | finite true k => -(units k : Int)
  | _ => 0

/-- The whole part of a finite number, toward zero. -/
def toInt : Number → Int
  | finite false k => (units k / unitsPerOne : Nat)
  | finite true k => -((units k / unitsPerOne : Nat) : Int)
  | _ => 0

/-- Is the number less than a natural? -/
def ltNat : Number → Nat → Bool
  | finite true k, n => k.val != 0 || n != 0
  | finite false k, n => units k < n * unitsPerOne
  | infinite negative, _ => negative
  | nan, _ => false

/-! ## Arithmetic -/

/-- The difference of two finite numbers, rounded once. -/
def sub (a b : Number) : Number :=
  match a.unitsInt - b.unitsInt with
  | .ofNat d => ofRatio false d unitsPerOne
  | .negSucc d => ofRatio true (d + 1) unitsPerOne

/-- The least natural that is not below the number divided by a thousand, for a positive number.
The quotient is rounded once before that. -/
def ceilThousandths : Number → Nat
  | finite false k =>
    match ofRatio false (units k) (1000 * unitsPerOne) with
    | finite _ q => (units q + (unitsPerOne - 1)) / unitsPerOne
    | _ => 0
  | _ => 0

end Number

end SurfaceGuard
