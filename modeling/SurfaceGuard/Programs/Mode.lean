import SurfaceGuard.Text.Ascii

/-!
# Modes

The permissions of a file are a number of twelve bits.  A new mode is written as an octal
number, or as changes to the one that is there: for whom, whether something is added, taken
away or set, and which permissions.
-/

namespace SurfaceGuard.Programs.Mode

/-- The bits of those whom a change is for. -/
def classBits (b : UInt8) : Nat :=
  if b == 0x75 then 0o4700 else if b == 0x67 then 0o2070 else if b == 0x6F then 0o1007 else 0o7777

/-- The bits of a permission for everybody. -/
def permissionBits (b : UInt8) : Nat :=
  if b == 0x72 then 0o444 else if b == 0x77 then 0o222 else if b == 0x78 || b == 0x58 then 0o111
  else if b == 0x73 then 0o6000 else 0o1000

/-- The bits that those of one class have, for everybody. -/
def copied (mode : Nat) (b : UInt8) : Nat :=
  let bits := if b == 0x75 then mode / 64 % 8 else if b == 0x67 then mode / 8 % 8 else mode % 8
  bits * 0o111

/-- The mode after an operator with bits, for those whom it is for. -/
def apply (operator : UInt8) (affected bits mode : Nat) : Nat :=
  let bits := bits &&& affected
  let kept := mode - (mode &&& if operator == 0x3D then affected &&& 0o777 else bits)
  if operator == 0x2D then mode - (mode &&& bits)
  else if operator == 0x2B then mode ||| bits
  else kept ||| bits

/-- The mode after the operators of a change; those with no class in front respect a mask. -/
def operators (affected : Nat) : Nat → Bytes → Nat → Option Nat
  | 0, _, _ => none
  | _, [], mode => some mode
  | fuel + 1, operator :: rest, mode =>
    if !(ascii "+-=").contains operator then none
    else
      let letters := rest.takeWhile (ascii "rwxXst").contains
      let rest := rest.drop letters.length
      let (bits, rest) := match letters, rest with
        | [], b :: after => if (ascii "ugo").contains b then (copied mode b, after) else (0, b :: after)
        | [], [] => (0, [])
        | _, _ => (letters.foldl (fun n b => n ||| permissionBits b) 0, rest)
      operators affected fuel rest (apply operator affected bits mode)

/-- The mode after one change. -/
def change (mask : Nat) (mode : Nat) (t : Bytes) : Option Nat :=
  let classes := t.takeWhile (ascii "ugoa").contains
  let rest := t.drop classes.length
  if rest.isEmpty then none
  else
    let affected := if classes.isEmpty then 0o7777 - (mask &&& 0o777)
      else classes.foldl (fun n b => n ||| classBits b) 0
    operators affected (t.length + 1) rest mode

/-- The mode that a text writes, for a directory whose mode would be another one. -/
def ofText? (mask mode : Nat) (t : Bytes) : Option Nat :=
  if t.head?.any Ascii.isDigit then
    if t.all Ascii.isOctal && Ascii.inBase 8 t ≤ 0o7777 then some (Ascii.inBase 8 t) else none
  else (Ascii.splitOn 0x2C t).foldlM (change mask) mode

end SurfaceGuard.Programs.Mode
