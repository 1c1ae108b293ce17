import SurfaceGuard.Text.Surrogate

/-!
# Quoted text

The written form of a text inside canonical JSON.  A quote, a backslash, a control unit
and a surrogate outside a pair are escaped, in the short form where there is one and as
`\u` with four hexadecimal digits otherwise; every other unit stands for itself.

* `escape` decides for each unit from its two neighbours, as a search pattern would.
* `escapePieces` is the same text written from the reading of the text as pieces, where
  a surrogate is escaped exactly if it stands alone.
-/

namespace SurfaceGuard.Quoted

open Text

/-- The quote that opens and closes a written text. -/
def quote : CodeUnit := 0x22

/-- The unit that starts an escape. -/
def backslash : CodeUnit := 0x5C

/-- Is the unit below the first printable one? -/
def isControl (u : CodeUnit) : Bool := u < 0x20

/-- The letter of a short escape. -/
def shortEscape? (u : CodeUnit) : Option CodeUnit :=
  if u == quote then some quote
  else if u == backslash then some backslash
  else if u == 0x08 then some 0x62
  else if u == 0x0C then some 0x66
  else if u == 0x0A then some 0x6E
  else if u == 0x0D then some 0x72
  else if u == 0x09 then some 0x74
  else none

/-- The four hexadecimal digits of a unit, in lower case. -/
def hex4 (u : CodeUnit) : Text :=
  [digit (u.toNat / 0x1000), digit (u.toNat / 0x100 % 0x10), digit (u.toNat / 0x10 % 0x10),
    digit (u.toNat % 0x10)]

/-- The escape of a unit. -/
def escapeUnit (u : CodeUnit) : Text :=
  match shortEscape? u with
  | some letter => [backslash, letter]
  | none => backslash :: 0x75 :: hex4 u

/-- Is the unit escaped whatever stands beside it? -/
def alwaysEscaped (u : CodeUnit) : Bool := u == quote || u == backslash || isControl u

/-! ## By neighbours -/

/-- Is the unit escaped between these neighbours?  A high surrogate is unless a low one
follows, a low one is unless a high one precedes. -/
def needsEscape (before? : Option CodeUnit) (u : CodeUnit) (after? : Option CodeUnit) : Bool :=
  alwaysEscaped u || (isHigh u && !after?.any isLow) || (isLow u && !before?.any isHigh)

/-- The escaped form of a text that follows the given unit. -/
def escapeAfter : Option CodeUnit → Text → Text
  | _, [] => []
  | before?, u :: rest =>
    (if needsEscape before? u rest.head? then escapeUnit u else [u]) ++ escapeAfter (some u) rest

/-- The written form of a text, with its quotes. -/
def escape (t : Text) : Text := quote :: escapeAfter none t ++ [quote]

/-! ## By pieces -/

/-- The escaped form of one piece. -/
def escapePiece : Piece → Text
  | .unit u => if alwaysEscaped u || isSurrogate u then escapeUnit u else [u]
  | .pair high low => [high, low]

/-- The written form of a text, from its reading as pieces. -/
def escapePieces (t : Text) : Text := quote :: (pieces t).flatMap escapePiece ++ [quote]

end SurfaceGuard.Quoted
