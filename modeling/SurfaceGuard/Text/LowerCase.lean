import SurfaceGuard.Text.CaseTable
import SurfaceGuard.Text.Surrogate

/-!
# Lower case

The lower case of a text, scalar value by scalar value.  Two letters need more than the
table: the capital I with a dot becomes two characters, and the capital sigma becomes
the final form at the end of a word, that is after a cased letter and not before one,
where characters that casing looks past do not count.
-/

namespace SurfaceGuard.Text

/-- Does one of the ranges hold the scalar value? -/
def inRanges (ranges : List (Nat × Nat)) (n : Nat) : Bool :=
  ranges.any fun r => r.1 ≤ n && n ≤ r.2

/-- Is the first of the pieces that casing does not look past a cased letter? -/
def meetsCased (neighbours : List Piece) : Bool :=
  match (neighbours.map Piece.scalar?).dropWhile (·.any (inRanges caseIgnorableRanges)) with
  | [] => false
  | n? :: _ => n?.any (inRanges casedRanges)

/-- The lower case of a scalar value for which its neighbours do not matter. -/
def lowerScalar (n : Nat) : Nat :=
  match lowerRanges.find? (·.contains n) with
  | some r => (n + r.shift).toNat
  | none => n

/-- The capital sigma. -/
def capitalSigma : Nat := 0x3A3

/-- The lower case of a piece between the pieces before it, the nearest first, and after it. -/
def lowerPiece (before : List Piece) (p : Piece) (after : List Piece) : Text :=
  match p.scalar? with
  | none => p.units
  | some n =>
    if n == 0x130 then [0x69, 0x307]
    else if n == capitalSigma then
      if meetsCased before && !meetsCased after then [0x3C2] else [0x3C3]
    else ofScalar (lowerScalar n)

/-- The lower case of the pieces that follow the given ones. -/
def lowerPieces : List Piece → List Piece → Text
  | _, [] => []
  | before, p :: rest => lowerPiece before p rest ++ lowerPieces (p :: before) rest

/-- The lower case of a text. -/
def lower (t : Text) : Text := lowerPieces [] (pieces t)

end SurfaceGuard.Text
