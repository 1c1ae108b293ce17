import SurfaceGuard.Number.Basic

/-!
# The decimal form of numbers

A finite number is written with the fewest significant digits that read back as the same
number; of several such digit strings the nearest to the exact value is taken, and of two
equally near ones the even one.  `Layout` has the rules for the place of the point:
positional notation up to twenty-one places before the point and five zeros after it,
an exponent otherwise.

`shortest?` only offers digits that were read back, so the round trip holds by
construction; if seventeen digits should not do, `exactDigits` writes the exact value.
-/

namespace SurfaceGuard

namespace Number

/-- A positive decimal: `digits * 10 ^ exponent`. -/
structure Decimal where
  digits : Nat
  exponent : Int
  deriving DecidableEq, Repr

namespace Decimal

/-- The same decimal without zeros at the end; `fuel` bounds how many are removed. -/
def strip : Nat → Decimal → Decimal
  | 0, d => d
  | fuel + 1, d =>
    if d.digits ≠ 0 ∧ d.digits % 10 = 0 then strip fuel ⟨d.digits / 10, d.exponent + 1⟩ else d

/-- Does the decimal read as the magnitude at this position? -/
def readsAs (d : Decimal) (k : Fin limit) : Bool :=
  ofDecimal false d.digits d.exponent == finite false k

end Decimal

/-! ## The digits -/

/-- The quotient `units / (unitsPerOne * 10 ^ exponent)` as numerator and denominator. -/
def scaledBy (units : Nat) : Int → Nat × Nat
  | .ofNat e => (units, unitsPerOne * Nat.pow 10 e)
  | .negSucc e => (units * Nat.pow 10 (e + 1), unitsPerOne)

/-- The exponent of the leading decimal digit of a positive number of units. -/
def leadingExponent (units : Nat) : Int :=
  let guess := ((units.log2 : Int) - 1074) * 30103 / 100000
  let (num, den) := scaledBy units (guess + 1)
  if den ≤ num then guess + 1 else guess

/-- The nearer of the two neighbours on a decimal grid that read back as the given position. -/
def onGrid? (k : Fin limit) (exponent : Int) : Option Decimal :=
  let (num, den) := scaledBy (units k) exponent
  let q := num / den
  let r := num % den
  let below : Decimal := ⟨q, exponent⟩
  let above : Decimal := ⟨q + 1, exponent⟩
  match below.readsAs k, above.readsAs k with
  | true, false => some below
  | false, true => some above
  | true, true => if 2 * r < den || (2 * r == den && q % 2 == 0) then some below else some above
  | false, false => none

/-- The shortest decimal of at most seventeen digits that reads back, without zeros at its end. -/
def shortest? (k : Fin limit) : Option Decimal :=
  let top := leadingExponent (units k)
  (List.range 17).findSome? fun (n : Nat) => (onGrid? k (top - n)).map (Decimal.strip 20)

/-- The exact value as a decimal. -/
def exactDigits (k : Nat) : Decimal :=
  Decimal.strip 1100 ⟨units k * Nat.pow 5 1074, -1074⟩

/-- The decimal that is written for the positive magnitude at a position. -/
def decimalOf (k : Fin limit) : Decimal := (shortest? k).getD (exactDigits k)

/-! ## The layout -/

/-- A run of zeros. -/
def zeros (n : Nat) : Text := List.replicate n 0x30

/-- The exponent part: the letter, the sign, and the digits without leading zeros. -/
def exponentText (e : Int) : Text :=
  0x65 :: (if e < 0 then 0x2D else 0x2B) :: Text.ofNat e.natAbs

/-- The text of a positive decimal whose digits do not end in a zero. -/
def layout (d : Decimal) : Text :=
  let ds := Text.ofNat d.digits
  let point := d.exponent + ds.length
  if (ds.length : Int) ≤ point ∧ point ≤ 21 then ds ++ zeros (point - ds.length).toNat
  else if 0 < point ∧ point ≤ 21 then ds.take point.toNat ++ 0x2E :: ds.drop point.toNat
  else if -6 < point ∧ point ≤ 0 then 0x30 :: 0x2E :: zeros (-point).toNat ++ ds
  else match ds with
    | [] => []
    | [lead] => lead :: exponentText (point - 1)
    | lead :: more => lead :: 0x2E :: more ++ exponentText (point - 1)

/-- The text of a number; zero has no sign. -/
def toText : Number → Text
  | finite negative k =>
    if k.val = 0 then [0x30]
    else if negative then 0x2D :: layout (decimalOf k)
    else layout (decimalOf k)
  | infinite false => "Infinity"
  | infinite true => "-Infinity"
  | nan => "NaN"

end Number

end SurfaceGuard
