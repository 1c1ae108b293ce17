import SurfaceGuard.Text.Surrogate

/-!
# Inspected text

The form in which a message shows an argument that was refused.  A text stands in the first
of three quotes that it does not contain, with escapes for what cannot be seen; a long one
is shown line by line, and cut off where it is too long for a message.
-/

namespace SurfaceGuard.Inspected

open Text

/-- The single quote, which is taken where no other one fits better. -/
def single : CodeUnit := 0x27

/-- The double quote. -/
def double : CodeUnit := 0x22

/-- The backquote. -/
def back : CodeUnit := 0x60

/-- The quote for a text. -/
def quoteFor (t : Text) : CodeUnit :=
  if !t.contains single then single
  else if !t.contains double then double
  else if !t.contains back && !hasOpening t then back
  else single
where
  /-- Does the text have a dollar sign in front of a brace? -/
  hasOpening : Text → Bool
    | 0x24 :: 0x7B :: _ => true
    | _ :: rest => hasOpening rest
    | [] => false

/-- The letter of a short escape. -/
def letter? (u : CodeUnit) : Option CodeUnit :=
  [(0x08, 0x62), (0x09, 0x74), (0x0A, 0x6E), (0x0C, 0x66), (0x0D, 0x72), (0x5C, 0x5C),
    (single, single)].lookup u

/-- A hexadecimal digit, in upper case. -/
def upperDigit (n : Nat) : CodeUnit := if n < 10 then digit n else (0x37 + n).toUInt16

/-- The escape of a unit. -/
def escape (u : CodeUnit) : Text :=
  match letter? u with
  | some c => [0x5C, c]
  | none =>
    if isSurrogate u then
      0x5C :: 0x75 :: [digit (u.toNat / 0x1000), digit (u.toNat / 0x100 % 0x10),
        digit (u.toNat / 0x10 % 0x10), digit (u.toNat % 0x10)]
    else [0x5C, 0x78, upperDigit (u.toNat / 0x10), upperDigit (u.toNat % 0x10)]

/-- Is a unit escaped that is not one half of a pair? -/
def isEscaped (quote u : CodeUnit) : Bool :=
  u < 0x20 || u == 0x5C || (0x7F ≤ u && u < 0xA0) || (u == single && quote == single)
    || isSurrogate u

/-- A text in quotes. -/
def quoted (t : Text) : Text :=
  let quote := quoteFor t
  let inner := (pieces t).flatMap fun
    | .unit u => if isEscaped quote u then escape u else [u]
    | .pair high low => [high, low]
  quote :: inner ++ [quote]

/-- The lines of a text, each with its end. -/
def lines : Text → List Text
  | [] => [[]]
  | 0x0A :: rest => [0x0A] :: lines rest
  | u :: rest =>
    match lines rest with
    | [] => [[u]]
    | line :: more => (u :: line) :: more

/-- The length from which on the lines of a text are shown one by one. -/
def lineLimit : Nat := 124

/-- The length from which on what is shown is cut off. -/
def limit : Nat := 128

/-- The form of a text. -/
def text (t : Text) : Text :=
  if t.length ≤ lineLimit then quoted t
  else
    let parts := (lines t).filter (!·.isEmpty)
    Text.join (" +" ++ newline ++ "  ") (parts.map quoted)

/-- What a message says that was received. -/
def received (t : Text) : Text :=
  let shown := text t
  " Received " ++ if shown.length ≤ limit then shown else shown.take limit ++ "..."

/-- What is wrong with an argument that has a zero in it. -/
def withoutZeros (what kinds : Text) (t : Text) : Text :=
  "The " ++ what ++ " must be " ++ kinds ++ " without null bytes." ++ received t

/-- What is wrong with a path that has a zero in it. -/
def pathWithoutZeros (what : Text) (t : Text) : Text :=
  withoutZeros what "a string, Uint8Array, or URL" t

end SurfaceGuard.Inspected
