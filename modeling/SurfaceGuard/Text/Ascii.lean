import SurfaceGuard.Text.Basic

/-!
# Byte strings of ASCII characters

What the programs of a machine read and write are byte strings.  Their grammars are made
of ASCII characters; other bytes pass through untouched.  This file has the classes of
bytes, the decimal forms of numbers, and the cutting of byte strings into pieces.
-/

namespace SurfaceGuard

/-- The bytes of a string of ASCII characters. -/
def ascii (s : String) : Bytes := s.toList.map fun c => c.toNat.toUInt8

instance : Coe String Bytes := ⟨ascii⟩

namespace Ascii

/-! ## Classes of bytes -/

/-- Is the byte a decimal digit? -/
def isDigit (b : UInt8) : Bool := 0x30 ≤ b && b ≤ 0x39

/-- Is the byte an octal digit? -/
def isOctal (b : UInt8) : Bool := 0x30 ≤ b && b ≤ 0x37

/-- Is the byte a capital letter? -/
def isUpper (b : UInt8) : Bool := 0x41 ≤ b && b ≤ 0x5A

/-- Is the byte a small letter? -/
def isLower (b : UInt8) : Bool := 0x61 ≤ b && b ≤ 0x7A

/-- Is the byte a letter? -/
def isLetter (b : UInt8) : Bool := isUpper b || isLower b

/-- Is the byte a letter or an underscore, which may start a name? -/
def isNameStart (b : UInt8) : Bool := isLetter b || b == 0x5F

/-- Is the byte a letter, a digit or an underscore, which may stand in a name? -/
def isNameByte (b : UInt8) : Bool := isNameStart b || isDigit b

/-- Is the byte white space? -/
def isSpace (b : UInt8) : Bool := b == 0x20 || (0x09 ≤ b && b ≤ 0x0D)

/-- Is the byte string a name? -/
def isName : Bytes → Bool
  | [] => false
  | b :: rest => isNameStart b && rest.all isNameByte

/-- Is the byte string made of decimal digits, at least one? -/
def isNumeral (t : Bytes) : Bool := !t.isEmpty && t.all isDigit

/-- The value of a digit in a base up to sixteen; `16` for any other byte. -/
def digitValue (b : UInt8) : Nat :=
  if isDigit b then b.toNat - 0x30
  else if 0x61 ≤ b && b ≤ 0x66 then b.toNat - 0x57
  else if 0x41 ≤ b && b ≤ 0x46 then b.toNat - 0x37
  else 16

/-- Is the byte a hexadecimal digit? -/
def isHex (b : UInt8) : Bool := digitValue b < 16

/-- The capital form of a letter; any other byte stays. -/
def upper (b : UInt8) : UInt8 := if isLower b then b - 0x20 else b

/-! ## Numbers -/

/-- The number that digits write in a base. -/
def inBase (base : Nat) (digits : Bytes) : Nat :=
  digits.foldl (fun n b => n * base + digitValue b) 0

/-- The number that decimal digits write. -/
def toNat (digits : Bytes) : Nat := inBase 10 digits

/-- The digits of a natural in a base. -/
def digits (base n : Nat) : Bytes := (Nat.toDigits base n).map fun c => c.toNat.toUInt8

/-- The decimal form of a natural. -/
def ofNat (n : Nat) : Bytes := digits 10 n

/-- The decimal form of an integer. -/
def ofInt : Int → Bytes
  | .ofNat n => ofNat n
  | .negSucc n => 0x2D :: ofNat (n + 1)

/-! ## Pieces -/

/-- A line feed. -/
def newline : Bytes := [0x0A]

/-- The byte strings in order, with the separator between neighbours. -/
def join (separator : Bytes) (parts : List Bytes) : Bytes := (parts.intersperse separator).flatten

/-- The pieces between the occurrences of a byte; a byte string without it is one piece. -/
def splitOn (separator : UInt8) : Bytes → List Bytes
  | [] => [[]]
  | b :: rest =>
    if b == separator then [] :: splitOn separator rest
    else match splitOn separator rest with
      | [] => [[b]]
      | piece :: pieces => (b :: piece) :: pieces

/-- The order of byte strings: the first difference decides, a proper beginning comes first. -/
def le : Bytes → Bytes → Bool
  | [], _ => true
  | _ :: _, [] => false
  | a :: s, b :: t => a < b || (a == b && le s t)

/-- The byte strings in ascending order. -/
def sort (parts : List Bytes) : List Bytes := parts.mergeSort le

end Ascii

end SurfaceGuard
