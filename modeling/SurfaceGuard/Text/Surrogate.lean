import SurfaceGuard.Text.Basic

/-!
# Surrogates and pairs

A high surrogate directly before a low one makes a pair, which stands for one scalar
value; every other surrogate stands alone.  `pieces` reads a text from left to right in
this way, and `wellFormed` is the text with each lone surrogate replaced, which is what
reaches a file system.
-/

namespace SurfaceGuard.Text

/-- Is the unit the first half of a pair? -/
def isHigh (u : CodeUnit) : Bool := 0xD800 ≤ u && u ≤ 0xDBFF

/-- Is the unit the second half of a pair? -/
def isLow (u : CodeUnit) : Bool := 0xDC00 ≤ u && u ≤ 0xDFFF

/-- Is the unit a surrogate of either kind? -/
def isSurrogate (u : CodeUnit) : Bool := isHigh u || isLow u

/-- One step of the reading of a text from left to right. -/
inductive Piece where
  /-- A single unit, which may be a surrogate that stands alone. -/
  | unit (u : CodeUnit)
  /-- A high surrogate and the low one right after it. -/
  | pair (high low : CodeUnit)
  deriving DecidableEq, Repr

/-- The text read from left to right, each high surrogate paired with a low one right after it. -/
def pieces : Text → List Piece
  | [] => []
  | [u] => [.unit u]
  | u :: v :: rest =>
    if isHigh u && isLow v then .pair u v :: pieces rest else .unit u :: pieces (v :: rest)

/-- The code units of a piece. -/
def Piece.units : Piece → Text
  | .unit u => [u]
  | .pair high low => [high, low]

/-- The scalar value of a piece; a surrogate alone has none. -/
def Piece.scalar? : Piece → Option Nat
  | .unit u => if isSurrogate u then none else some u.toNat
  | .pair high low => some (0x10000 + (high.toNat - 0xD800) * 0x400 + (low.toNat - 0xDC00))

/-- The replacement character. -/
def replacement : Nat := 0xFFFD

/-- The scalar values of a text, the replacement character for each lone surrogate. -/
def scalars (t : Text) : List Nat :=
  (pieces t).map fun p => p.scalar?.getD replacement

/-- The text with the replacement character for each lone surrogate. -/
def wellFormed (t : Text) : Text := (scalars t).flatMap ofScalar

end SurfaceGuard.Text
