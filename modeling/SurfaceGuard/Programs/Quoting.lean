import SurfaceGuard.Text.Ascii

/-!
# Quoting names in messages

Programs quote the names in their messages in two ways: plainly, with backslashes in front of
what cannot be printed, or so that a shell would read the name back, where a name without
any byte that means something to a shell may stay as it is.
-/

namespace SurfaceGuard.Programs.Quoting

/-- Is the byte printable? -/
def isPrint (b : UInt8) : Bool := 0x20 ≤ b && b ≤ 0x7E

/-- The letter by which a control byte is written after a backslash. -/
def controlLetter? (b : UInt8) : Option UInt8 :=
  [(0x07, 0x61), (0x08, 0x62), (0x0C, 0x66), (0x0A, 0x6E), (0x0D, 0x72), (0x09, 0x74),
    (0x0B, 0x76)].lookup b

/-- A byte that cannot be printed, after a backslash. -/
def escape (b : UInt8) : Bytes :=
  match controlLetter? b with
  | some letter => [0x5C, letter]
  | none =>
    let digits := Ascii.digits 8 b.toNat
    0x5C :: List.replicate (3 - digits.length) 0x30 ++ digits

/-- A name in quotes, with escapes. -/
def plain (name : Bytes) : Bytes :=
  let inner := name.flatMap fun b =>
    if b == 0x5C || b == 0x27 then [0x5C, b] else if isPrint b then [b] else escape b
  0x27 :: inner ++ [0x27]

/-- The bytes that mean something to shells wherever they stand. -/
def shellBytes : Bytes := " !\"$&()*;<=>[^`|\\'?"

/-- Does a byte of a name, with the number of those in front of it, need quotes? -/
def needsQuotes (name : Bytes) (index : Nat) (b : UInt8) : Bool :=
  shellBytes.contains b || !isPrint b
    || (index == 0 && (b == 0x23 || b == 0x7E))
    || (name.length == 1 && (b == 0x7B || b == 0x7D))

/-- Does a byte stay as it is in double quotes as well? -/
def fitsDouble (name : Bytes) (index : Nat) (b : UInt8) : Bool :=
  isPrint b && !((ascii "!\"$&()*;<=>[^`|\\?").contains b)
    && !(index ≠ 0 && (b == 0x23 || b == 0x7E))
    && !(name.length ≠ 1 && (b == 0x7B || b == 0x7D))

/-- The pieces of a name in quotes for a shell; the flag says whether a piece of escapes is open. -/
def pieces : Bool → Bytes → Bytes
  | _, [] => []
  | isOpen, b :: rest =>
    if isPrint b then
      let close : Bytes := if isOpen then [0x27, 0x27] else []
      let written : Bytes := if b == 0x27 then [0x27, 0x5C, 0x27, 0x27] else close ++ [b]
      written ++ pieces false rest
    else
      (if isOpen then [] else [0x27, 0x24, 0x27]) ++ escape b ++ pieces true rest

/-- A name in quotes for a shell. -/
def forShell (name : Bytes) : Bytes :=
  if name.contains 0x27 && name.zipIdx.all (fun e => fitsDouble name e.2 e.1) then
    0x22 :: name ++ [0x22]
  else 0x27 :: pieces false name ++ [0x27]

/-- A name for a shell, in quotes only if it needs them; a colon counts as needing them. -/
def whereNeeded (name : Bytes) : Bytes :=
  if name.isEmpty || name.contains 0x3A || name.zipIdx.any (fun e => needsQuotes name e.2 e.1) then
    forShell name
  else name

end SurfaceGuard.Programs.Quoting
