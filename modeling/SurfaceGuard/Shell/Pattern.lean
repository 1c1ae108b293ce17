import SurfaceGuard.Text.Ascii

/-!
# Patterns

Patterns choose between the bodies of a `case`, trim the values of parameters, and stand for
the paths that fit them.  A literal byte of a pattern stands for itself, and so does a byte
after a backslash.
-/

namespace SurfaceGuard.Shell

/-- A byte of a pattern. -/
structure Glyph where
  byte : UInt8
  isLiteral : Bool
  deriving DecidableEq, Repr

/-- Is it the given byte, with the meaning that the byte has in patterns? -/
def Glyph.is (g : Glyph) (b : UInt8) : Bool := g.byte == b && !g.isLiteral

/-- A pattern. -/
abbrev Pattern := List Glyph

namespace Pattern

/-- The ends of a list, the longest first. -/
def ends {α : Type} : List α → List (List α)
  | [] => [[]]
  | a :: rest => (a :: rest) :: ends rest

/-- The beginnings of a list, the shortest first. -/
def beginnings {α : Type} : List α → List (List α)
  | [] => [[]]
  | a :: rest => [] :: (beginnings rest).map (a :: ·)

/-- The pattern with the bytes after backslashes made literal. -/
def resolve : Pattern → Pattern
  | [] => []
  | [g] => [⟨g.byte, g.isLiteral || g.byte == 0x5C⟩]
  | g :: h :: rest =>
    if g.is 0x5C then ⟨h.byte, true⟩ :: resolve rest else g :: resolve (h :: rest)

/-! ## Sets -/

/-- Is the byte printable? -/
def isPrint (b : UInt8) : Bool := 0x20 ≤ b && b ≤ 0x7E

/-- The classes of bytes that a set may name. -/
def classes : List (Bytes × (UInt8 → Bool)) :=
  [("alnum", fun b => Ascii.isLetter b || Ascii.isDigit b), ("cntrl", fun b => b < 0x20 || b == 0x7F),
    ("lower", Ascii.isLower), ("space", Ascii.isSpace), ("alpha", Ascii.isLetter),
    ("digit", Ascii.isDigit), ("print", isPrint), ("upper", Ascii.isUpper),
    ("blank", fun b => b == 0x20 || b == 0x09), ("graph", fun b => isPrint b && b != 0x20),
    ("punct", fun b => isPrint b && b != 0x20 && !Ascii.isLetter b && !Ascii.isDigit b),
    ("xdigit", Ascii.isHex)]

/-- The class whose name follows, and the pattern after it. -/
def class? (p : Pattern) : Option ((UInt8 → Bool) × Pattern) :=
  classes.findSome? fun (name, f) =>
    let spelling : Bytes := 0x3A :: name ++ [0x3A, 0x5D]
    let front := p.take spelling.length
    if front.map Glyph.byte == spelling && front.all (!·.isLiteral) then
      some (f, p.drop spelling.length)
    else none

/-- Is a byte in the set whose items follow, and what comes after the set?  The first item may be the
bracket that ends the set elsewhere. -/
def setFrom (b : UInt8) : Nat → Bool → Bool → Pattern → Option (Bool × Pattern)
  | 0, _, _, _ => none
  | _, _, _, [] => none
  | fuel + 1, isFirst, found, g :: rest =>
    if g.is 0x5D && !isFirst then some (found, rest)
    else
      match if g.is 0x5B then class? rest else none with
      | some (f, rest) => setFrom b fuel false (found || f b) rest
      | none =>
        match rest with
        | dash :: high :: after =>
          if dash.is 0x2D && !high.is 0x5D then
            setFrom b fuel false (found || (g.byte ≤ b && b ≤ high.byte)) after
          else setFrom b fuel false (found || g.byte == b) rest
        | _ => setFrom b fuel false (found || g.byte == b) rest

/-- Does a byte fit the set that follows a bracket, and what comes after the set? -/
def set? (b : UInt8) (p : Pattern) : Option (Bool × Pattern) :=
  match p with
  | [] => none
  | g :: rest =>
    if g.is 0x21 || g.is 0x5E then
      (setFrom b (rest.length + 1) true false rest).map fun r => (!r.1, r.2)
    else setFrom b (p.length + 1) true false p

/-! ## Fitting -/

/-- Does a pattern without backslashes fit the whole of a byte string? -/
def fits : Nat → Pattern → Bytes → Bool
  | 0, _, _ => false
  | _, [], t => t.isEmpty
  | fuel + 1, g :: p, t =>
    if g.is 0x2A then
      let p := p.dropWhile (·.is 0x2A)
      p.isEmpty || (ends t).any (fits fuel p)
    else
      match t with
      | [] => false
      | b :: t =>
        if g.is 0x3F then fits fuel p t
        else match if g.is 0x5B then set? b p else none with
          | some (isIn, rest) => isIn && fits fuel rest t
          | none => g.byte == b && fits fuel p t

/-- Does the pattern fit the whole of a byte string? -/
def matchesAll (p : Pattern) (t : Bytes) : Bool :=
  let p := p.resolve
  fits (p.length + 1) p t

/-- The front of a byte string, up to a zero. -/
def upToZero (t : Bytes) : Bytes := t.takeWhile (· != 0)

/-- A byte string without the shortest or the longest end, or beginning, that fits the pattern. -/
def trim (p : Pattern) (atEnd isLongest : Bool) (t : Bytes) : Bytes :=
  let cuts := if atEnd then (beginnings t).zip (ends t) else (ends t).zip (beginnings t)
  let cuts := if atEnd == isLongest then cuts else cuts.reverse
  match cuts.find? fun c => p.matchesAll (if atEnd then upToZero c.2 else c.2) with
  | some (kept, _) => kept
  | none => t

/-! ## Paths -/

/-- Is there something in the part of a path that stands for more than itself?  A set has to be
ended. -/
def isActive : Pattern → Bool
  | [] => false
  | g :: rest =>
    g.is 0x2A || g.is 0x3F
      || (g.is 0x5B &&
        (let items := match rest with
          | h :: after => if h.is 0x21 || h.is 0x5E then after else rest
          | [] => []
        (items.drop 1).any (·.is 0x5D)))
      || isActive rest

/-- The parts of a pattern between slashes. -/
def components : Pattern → List Pattern
  | [] => [[]]
  | g :: rest =>
    match components rest with
    | [] => [[g]]
    | first :: others => if g.byte == 0x2F then [] :: first :: others else (g :: first) :: others

/-- The bytes of a pattern. -/
def bytes (p : Pattern) : Bytes := p.map Glyph.byte

/-- The names that fit a part of a path; a name with a dot in front needs one in the pattern. -/
def names (p : Pattern) (listing : List Bytes) : List Bytes :=
  listing.filter fun n =>
    p.matchesAll n && (n.head? != some 0x2E || p.head?.any (·.byte == 0x2E))

end Pattern

end SurfaceGuard.Shell
