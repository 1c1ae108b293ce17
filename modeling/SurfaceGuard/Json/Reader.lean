import SurfaceGuard.Json.Basic
import SurfaceGuard.Text.Quoted

/-!
# Reading JSON

The reader accepts exactly the texts of RFC 8259: one value with blanks, tabs and line
ends around its tokens, and nothing else — no byte order mark, no comments, no commas at
the end.  Escaped and raw surrogates need not be paired.  A number is read as the nearest
binary64 number.  Of a name that occurs twice the last value counts.

Each function returns what it read together with the rest of the text.
-/

namespace SurfaceGuard.Json

open Text Quoted

/-! ## Blanks and fixed words -/

/-- Is the unit one that may stand between tokens? -/
def isBlank (u : CodeUnit) : Bool := u == 0x20 || u == 0x09 || u == 0x0A || u == 0x0D

/-- The text from its first token on. -/
def skipBlanks (t : Text) : Text := t.dropWhile isBlank

/-- The rest of the text after the given word. -/
def readWord (word t : Text) : Option Text :=
  if word.isPrefixOf t then some (t.drop word.length) else none

/-! ## Strings -/

/-- The value of a hexadecimal digit. -/
def hexValue? (u : CodeUnit) : Option Nat :=
  if isDigit u then some (u.toNat - 0x30)
  else if 0x61 ≤ u && u ≤ 0x66 then some (u.toNat - 0x57)
  else if 0x41 ≤ u && u ≤ 0x46 then some (u.toNat - 0x37)
  else none

/-- The unit that four hexadecimal digits write. -/
def unhex4? (a b c d : CodeUnit) : Option CodeUnit :=
  match hexValue? a, hexValue? b, hexValue? c, hexValue? d with
  | some a, some b, some c, some d => some (a * 0x1000 + b * 0x100 + c * 0x10 + d).toUInt16
  | _, _, _, _ => none

/-- The unit that the letter of a short escape writes. -/
def unescape? (letter : CodeUnit) : Option CodeUnit :=
  if letter == quote || letter == backslash || letter == 0x2F then some letter
  else if letter == 0x62 then some 0x08
  else if letter == 0x66 then some 0x0C
  else if letter == 0x6E then some 0x0A
  else if letter == 0x72 then some 0x0D
  else if letter == 0x74 then some 0x09
  else none

/-- A unit put in front of what was read. -/
def prepend (u? : Option CodeUnit) (read : Option (Text × Text)) : Option (Text × Text) :=
  match u?, read with
  | some u, some (s, rest) => some (u :: s, rest)
  | _, _ => none

/-- The string whose opening quote was read. -/
def readString : Text → Option (Text × Text)
  | [] => none
  | u :: rest =>
    if u == quote then some ([], rest)
    else if isControl u then none
    else if u == backslash then
      match rest with
      | [] => none
      | letter :: rest =>
        if letter == 0x75 then
          match rest with
          | a :: b :: c :: d :: rest => prepend (unhex4? a b c d) (readString rest)
          | _ => none
        else prepend (unescape? letter) (readString rest)
    else prepend (some u) (readString rest)

/-! ## Numbers -/

/-- The digits at the front, at least one. -/
def readDigits (t : Text) : Option (Text × Text) :=
  match t.takeWhile isDigit with
  | [] => none
  | digits => some (digits, t.dropWhile isDigit)

/-- The digits before the point: no zero in front of another digit. -/
def readWhole (t : Text) : Option (Text × Text) :=
  match readDigits t with
  | some (0x30 :: _ :: _, _) => none
  | read => read

/-- The digits after the point; none if there is no point. -/
def readFraction (t : Text) : Option (Text × Text) :=
  match t with
  | 0x2E :: rest => readDigits rest
  | _ => some ([], t)

/-- The exponent; zero if there is none. -/
def readExponent (t : Text) : Option (Int × Text) :=
  match t with
  | [] => some (0, [])
  | u :: rest =>
    if u == 0x65 || u == 0x45 then
      match rest with
      | 0x2D :: rest => (readDigits rest).map fun (ds, rest) => (-(toNat ds : Int), rest)
      | 0x2B :: rest => (readDigits rest).map fun (ds, rest) => ((toNat ds : Int), rest)
      | _ => (readDigits rest).map fun (ds, rest) => ((toNat ds : Int), rest)
    else some (0, t)

/-- The number without its sign. -/
def readMagnitude (negative : Bool) (t : Text) : Option (Number × Text) := do
  let (whole, t) ← readWhole t
  let (fraction, t) ← readFraction t
  let (exponent, t) ← readExponent t
  some (Number.ofDecimal negative (toNat (whole ++ fraction)) (exponent - fraction.length), t)

/-- The number at the front. -/
def readNumber (t : Text) : Option (Number × Text) :=
  match t with
  | 0x2D :: rest => readMagnitude true rest
  | _ => readMagnitude false t

/-! ## Values

Every call uses up one unit of fuel, and at least every second call consumes a unit of
the text. -/

mutual

/-- The value at the front, after blanks. -/
def readValue : Nat → Text → Option (Json × Text)
  | 0, _ => none
  | fuel + 1, t =>
    match skipBlanks t with
    | [] => none
    | u :: rest =>
      if u == 0x7B then
        match skipBlanks rest with
        | 0x7D :: rest => some (object [], rest)
        | _ => (readMembers fuel rest).map fun (pairs, rest) =>
            (object (Members.ofPairs pairs), rest)
      else if u == 0x5B then
        match skipBlanks rest with
        | 0x5D :: rest => some (array [], rest)
        | _ => (readItems fuel rest).map fun (items, rest) => (array items, rest)
      else if u == quote then (readString rest).map fun (s, rest) => (string s, rest)
      else if u == 0x74 then (readWord "true" (u :: rest)).map fun rest => (boolean true, rest)
      else if u == 0x66 then (readWord "false" (u :: rest)).map fun rest => (boolean false, rest)
      else if u == 0x6E then (readWord "null" (u :: rest)).map fun rest => (null, rest)
      else (readNumber (u :: rest)).map fun (n, rest) => (number n, rest)

/-- The items of an array up to its closing bracket, at least one. -/
def readItems : Nat → Text → Option (List Json × Text)
  | 0, _ => none
  | fuel + 1, t =>
    match readValue fuel t with
    | none => none
    | some (item, rest) =>
      match skipBlanks rest with
      | 0x2C :: rest => (readItems fuel rest).map fun (items, rest) => (item :: items, rest)
      | 0x5D :: rest => some ([item], rest)
      | _ => none

/-- The members of an object up to its closing brace, at least one, as they are written. -/
def readMembers : Nat → Text → Option (List (Text × Json) × Text)
  | 0, _ => none
  | fuel + 1, t =>
    match skipBlanks t with
    | 0x22 :: rest =>
      match readString rest with
      | none => none
      | some (name, rest) =>
        match skipBlanks rest with
        | 0x3A :: rest =>
          match readValue fuel rest with
          | none => none
          | some (value, rest) =>
            match skipBlanks rest with
            | 0x2C :: rest =>
              (readMembers fuel rest).map fun (members, rest) => ((name, value) :: members, rest)
            | 0x7D :: rest => some ([(name, value)], rest)
            | _ => none
        | _ => none
    | _ => none

end

/-- The value of a JSON text; none if the text is no JSON. -/
def read? (t : Text) : Option Json :=
  match readValue (2 * t.length + 2) t with
  | some (value, rest) => if (skipBlanks rest).isEmpty then some value else none
  | none => none

end SurfaceGuard.Json
