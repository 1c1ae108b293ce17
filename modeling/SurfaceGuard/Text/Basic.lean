/-!
# Text as a sequence of code units

Everything the guard compares, sorts or stores — target names, symbol identifiers,
declarations, paths, log messages — is a sequence of 16-bit code units, in which a
surrogate may stand alone.  This file has the type, the conversion from string
literals, the decimal form of naturals, and the order by code unit that every sorted
list of the guard uses.
-/

namespace SurfaceGuard

/-- A 16-bit code unit. -/
abbrev CodeUnit := UInt16

/-- A text is a list of code units. -/
abbrev Text := List CodeUnit

/-- A byte string, as it is stored in a file or carried by a pipe. -/
abbrev Bytes := List UInt8

namespace Text

/-! ## Literals -/

/-- The code units of one scalar value: itself below `0x10000`, a surrogate pair from there on. -/
def ofScalar (n : Nat) : Text :=
  if n < 0x10000 then [n.toUInt16]
  else [(0xD800 + (n - 0x10000) / 0x400).toUInt16, (0xDC00 + (n - 0x10000) % 0x400).toUInt16]

/-- The code units of a string. -/
def ofString (s : String) : Text :=
  s.toList.flatMap fun c => ofScalar c.toNat

instance : Coe String Text := ⟨ofString⟩

/-- A line feed. -/
def newline : Text := [0x0A]

/-! ## Decimal naturals -/

/-- The code unit of a decimal or hexadecimal digit, in lower case. -/
def digit (n : Nat) : CodeUnit :=
  if n < 10 then (0x30 + n).toUInt16 else (0x57 + n).toUInt16

/-- Is the unit one of `0` to `9`? -/
def isDigit (u : CodeUnit) : Bool := 0x30 ≤ u && u ≤ 0x39

/-- The decimal form of a natural number. -/
def ofNat (n : Nat) : Text :=
  (Nat.toDigits 10 n).map fun c => c.toNat.toUInt16

/-- The decimal form of an integer. -/
def ofInt : Int → Text
  | .ofNat n => ofNat n
  | .negSucc n => 0x2D :: ofNat (n + 1)

/-- The number that a list of decimal digits writes, most significant digit first. -/
def toNat (digits : Text) : Nat :=
  digits.foldl (fun n u => n * 10 + (u.toNat - 0x30)) 0

/-! ## Joining and splitting -/

/-- The texts in order, with the separator between neighbours. -/
def join (separator : Text) (parts : List Text) : Text :=
  (parts.intersperse separator).flatten

/-- Lines joined by line feeds, without one at the end. -/
def lines (parts : List Text) : Text := join newline parts

/-- The pieces between the occurrences of a unit; a text without the unit is one piece. -/
def splitOn (separator : CodeUnit) : Text → List Text
  | [] => [[]]
  | u :: rest =>
    if u = separator then [] :: splitOn separator rest
    else match splitOn separator rest with
      | [] => [[u]]
      | piece :: pieces => (u :: piece) :: pieces

/-- Does the text start with the given one? -/
def startsWith (t start : Text) : Bool := start.isPrefixOf t

/-- Does the text end with the given one? -/
def endsWith (t ending : Text) : Bool := ending.isSuffixOf t

/-- Does the text have the given one somewhere in it? -/
def includes (part : Text) : Text → Bool
  | [] => part.isEmpty
  | u :: rest => startsWith (u :: rest) part || includes part rest

/-! ## Order by code unit -/

/-- The order by code unit: the first difference decides, and a proper beginning comes first. -/
def le : Text → Text → Bool
  | [], _ => true
  | _ :: _, [] => false
  | u :: s, v :: t => u < v || (u == v && le s t)

/-- The texts in ascending order by code unit. -/
def sort (texts : List Text) : List Text := texts.mergeSort le

end Text

end SurfaceGuard
