import SurfaceGuard.Shell.Pattern

/-!
# Splitting into fields

What the pieces of a word expand to are segments of bytes.  The segments that come from
expansions outside of quotations are split into fields at the separators, white space being
taken together, while everything else stays as it is.  The arguments in `"$@"` are parted by
separators of their own, at which that segment alone is split.
-/

namespace SurfaceGuard.Shell

/-- A part of an expanded word. -/
inductive Cell where
  | byte (b : UInt8) (isLiteral : Bool)
  /-- A quotation begins or ends; an empty quotation still makes a field. -/
  | mark
  /-- The place between two arguments. -/
  | gap
  deriving DecidableEq, Repr

/-- How a segment is split. -/
inductive Splitting where
  | none
  | atSeparators
  | atGaps
  deriving DecidableEq, Repr

/-- A part of an expanded word that is split in one way. -/
structure Segment where
  cells : List Cell
  splitting : Splitting
  deriving DecidableEq, Repr

namespace Fields

/-- The bytes of cells; a gap is a zero. -/
def bytes (cells : List Cell) : Bytes :=
  cells.filterMap fun
    | .byte b _ => some b
    | .mark => none
    | .gap => some 0

/-- The cells as a pattern. -/
def pattern (cells : List Cell) : Pattern :=
  cells.filterMap fun
    | .byte b isLiteral => some ⟨b, isLiteral⟩
    | .mark => none
    | .gap => some ⟨0, true⟩

/-- The bytes of segments. -/
def bytesOf (segments : List Segment) : Bytes := segments.flatMap fun s => bytes s.cells

/-- The bytes that separate fields unless others are chosen. -/
def blanks : Bytes := [0x20, 0x09, 0x0A]

/-- How far the splitting has come. -/
structure Progress where
  /-- The fields that are complete, the last first. -/
  fields : List (List Cell)
  /-- The cells of the field at hand, the last first. -/
  current : List Cell
  /-- Did the last field end at white space? -/
  afterBlank : Bool
  /-- How many more fields may be made, if that is limited. -/
  left? : Option Nat
  /-- The field at hand without the separators at its end, once no more fields may be made. -/
  cut? : Option (List Cell)
  /-- Was the last segment split at gaps? -/
  afterGaps : Bool

/-- The progress after a cell that may separate fields. -/
def step (separators : Bytes) (atGaps wasGaps : Bool) (p : Progress) (c : Cell) : Progress :=
  let isSeparator := match c with
    | .gap => true
    | .byte b _ => !atGaps && separators.contains b
    | .mark => false
  let isBlank := match c with
    | .gap => true
    | .byte b _ => isSeparator && blanks.contains b
    | .mark => false
  let keep (p : Progress) : Progress := { p with current := c :: p.current }
  if p.left? = some 0 then
    if isBlank then keep { p with cut? := p.cut? <|> some p.current }
    else keep { p with
      cut? := if isSeparator && p.afterBlank then p.cut? else none
      afterBlank := false }
  else if p.afterBlank && isBlank then { p with current := [] }
  else if p.afterBlank && isSeparator then { p with current := [], afterBlank := false }
  else if isSeparator then
    let afterBlank := if wasGaps || atGaps then p.afterBlank else isBlank
    if p.current.isEmpty && afterBlank then { p with afterBlank := false }
    else
      let left? := p.left?.map (· - 1)
      if left? = some 0 then keep { p with left? := left?, cut? := some p.current, afterBlank }
      else { p with
        fields := p.current.reverse :: p.fields, current := [], left? := left?, afterBlank }
  else keep { p with afterBlank := false }

/-- The progress after a segment. -/
def segment (separators : Bytes) (p : Progress) (s : Segment) : Progress :=
  match s.splitting with
  | .none => { p with current := s.cells.reverse ++ p.current }
  | splitting =>
    let atGaps := splitting == .atGaps
    let p' := s.cells.foldl (step separators atGaps p.afterGaps) { p with afterBlank := false }
    { p' with afterGaps := atGaps }

/-- The fields of segments, at most so many if their number is limited. -/
def split (separators : Bytes) (limit? : Option Nat) (segments : List Segment) :
    List (List Cell) :=
  let p := segments.foldl (segment separators) ⟨[], [], false, limit?, none, false⟩
  let last := (p.cut?.getD p.current).reverse
  p.fields.reverse ++ if last.isEmpty && !p.afterGaps then [] else [last]

end Fields

end SurfaceGuard.Shell
