import SurfaceGuard.Programs.Options

/-!
# Copying files to the output

`cat` writes the files that its operands name one after the other, a dash being the input.
On demand it numbers lines, joins empty ones, and shows what cannot be seen; how far it is
in a line is kept from one file to the next.
-/

namespace SurfaceGuard.Programs.Cat

/-- The options of `cat`. -/
def table : List ProgramOption :=
  [⟨0x62, some "number-nonblank", .none⟩, ⟨0x6E, some "number", .none⟩,
    ⟨0x73, some "squeeze-blank", .none⟩, ⟨0x76, some "show-nonprinting", .none⟩,
    ⟨0x45, some "show-ends", .none⟩, ⟨0x54, some "show-tabs", .none⟩, ⟨0x41, some "show-all", .none⟩,
    ⟨0x65, none, .none⟩, ⟨0x74, none, .none⟩, ⟨0x75, none, .none⟩, ⟨0, some "help", .none⟩,
    ⟨0, some "version", .none⟩]

/-- How files are written. -/
structure Style where
  numbers : Bool
  numbersFilledOnly : Bool
  joinsEmpty : Bool
  showsEnds : Bool
  showsTabs : Bool
  showsOthers : Bool
  deriving DecidableEq, Repr

namespace Style

/-- The style that options ask for. -/
def ofGiven (g : Given) : Style where
  numbers := g.has 0x62 || g.has 0x6E
  numbersFilledOnly := g.has 0x62
  joinsEmpty := g.has 0x73
  showsEnds := g.has 0x45 || g.has 0x41 || g.has 0x65
  showsTabs := g.has 0x54 || g.has 0x41 || g.has 0x74
  showsOthers := g.has 0x76 || g.has 0x41 || g.has 0x65 || g.has 0x74

/-- Are files written as they are? -/
def isPlain (s : Style) : Bool :=
  !(s.numbers || s.joinsEmpty || s.showsEnds || s.showsTabs || s.showsOthers)

end Style

/-- Where in its output `cat` is. -/
structure Position where
  line : Nat
  /-- How many line ends were written last, up to two; none inside a line. -/
  ends? : Option Nat
  /-- Is a carriage return held back that may stand at the end of a line? -/
  holdsReturn : Bool
  deriving DecidableEq, Repr

/-- The number of a line in front of it. -/
def lineNumber (n : Nat) : Bytes :=
  let digits := Ascii.ofNat n
  List.replicate (6 - digits.length) 0x20 ++ digits ++ [0x09]

/-- A byte as it is shown. -/
def shown (s : Style) (b : UInt8) : Bytes :=
  let low (b : UInt8) : Bytes :=
    if b < 0x20 then [0x5E, b + 0x40] else if b == 0x7F then [0x5E, 0x3F] else [b]
  if b == 0x09 then if s.showsTabs then [0x5E, 0x49] else [b]
  else if !s.showsOthers then [b]
  else if b < 0x80 then low b
  else [0x4D, 0x2D] ++ low (b - 0x80)

/-- What a byte adds to the output. -/
def step (s : Style) (p : Position) (b : UInt8) : Bytes × Position :=
  if b == 0x0A then
    let ends := match p.ends? with
      | some n => min 2 (n + 1)
      | none => 0
    if s.joinsEmpty && 2 ≤ ends then ([], { p with ends? := some ends })
    else
      let isNumbered := ends ≠ 0 && s.numbers && !s.numbersFilledOnly
      let front := if isNumbered then lineNumber p.line else []
      let held : Bytes := if p.holdsReturn then if s.showsEnds then [0x5E, 0x4D] else [0x0D] else []
      (front ++ held ++ (if s.showsEnds then [0x24] else []) ++ Ascii.newline,
        ⟨if isNumbered then p.line + 1 else p.line, some ends, false⟩)
  else
    let held : Bytes := if p.holdsReturn then [0x0D] else []
    let isNumbered := p.ends?.isSome && s.numbers
    let front := if isNumbered then lineNumber p.line else []
    let line := if isNumbered then p.line + 1 else p.line
    if b == 0x0D && s.showsEnds && !s.showsOthers then (held ++ front, ⟨line, none, true⟩)
    else (held ++ front ++ shown s b, ⟨line, none, false⟩)

/-- What bytes add to the output. -/
def render (s : Style) (p : Position) (bytes : Bytes) : Bytes × Position :=
  if s.isPlain then (bytes, p)
  else
    let (pieces, p) := bytes.foldl (fun (acc : List Bytes × Position) b =>
      let (piece, p) := step s acc.2 b
      (piece :: acc.1, p)) ([], p)
    (pieces.reverse.flatten, p)

/-- How many bytes are read at once. -/
def blockSize : Nat := 131072

/-- How often a file is read; none is as long. -/
def limit : Nat := Nat.pow 2 40

/-- How the copying of a file came out. -/
inductive Copied where
  | done (p : Position)
  | unread (e : Errno) (p : Position)
  | unwritten (e : Errno)

/-- Writes what can be read from a descriptor. -/
def copy (s : Style) (descriptor : Nat) : Nat → Position → Act Copied
  | 0, p => return .done p
  | fuel + 1, p => do
    match ← Act.ask (.read descriptor blockSize) with
    | .error .interrupted => copy s descriptor fuel p
    | .error e => return .unread e p
    | .ok bytes =>
      if bytes.isEmpty then return .done p
      else
        let (text, p) := render s p bytes
        match ← Act.write 1 text with
        | .ok () => copy s descriptor fuel p
        | .error e => return .unwritten e

/-- Is what is read from a descriptor the regular file that is written to? -/
def isOutput (output : Info) (descriptor : Nat) : Act (Except Errno Bool) := do
  match ← Act.ask (.inspectOpen descriptor), ← Act.ask (.position descriptor) with
  | .ok info, .ok position =>
    return .ok (output.kind = .file && info.kind = .file && info.serial = output.serial
      && position < info.size)
  | .error e, _ => return .error e
  | _, .error e => return .error e

/-- Writes the files that operands name, from a position on; says whether all of that worked.  The
status is given where the output cannot be written. -/
def copyAll (program : Bytes) (s : Style) (output : Info) :
    List Bytes → Position → Bool → Act (Except Nat (Bool × Position))
  | [], p, isFine => return .ok (isFine, p)
  | name :: rest, p, isFine => do
    let refuse (reason : Bytes) : Act Unit :=
      complain program (Quoting.whereNeeded name ++ ascii ": " ++ reason)
    let isInput := name == ascii "-"
    let opened ← if isInput then pure (.ok 0) else Act.ask (.openFile name .toRead 0)
    match opened with
    | .error e =>
      refuse e.reason
      copyAll program s output rest p false
    | .ok descriptor =>
      let (isFine, p, unwritten?) ← do
        match ← isOutput output descriptor with
        | .error e =>
          refuse e.reason
          pure (false, p, none)
        | .ok true =>
          refuse "input file is output file"
          pure (false, p, none)
        | .ok false =>
          match ← copy s descriptor limit p with
          | .done p => pure (isFine, p, none)
          | .unread e p =>
            refuse e.reason
            pure (false, p, none)
          | .unwritten e => pure (false, p, some e)
      match unwritten? with
      | some e =>
        complain program (ascii "write error: " ++ e.reason)
        return .error 1
      | none =>
        if !isInput then
          let _ ← Act.ask (.close descriptor)
        copyAll program s output rest p isFine

/-- `cat`. -/
def cat (program : Bytes) (arguments : List Bytes) : Act Nat := do
  match Options.ofArguments table false arguments with
  | .error message => misuse program message 1
  | .ok given =>
    match ← Act.ask (.inspectOpen 1) with
    | .error e =>
      complain program (ascii "standard output: " ++ e.reason)
      return 1
    | .ok output =>
      let names := if given.operands.isEmpty then [ascii "-"] else given.operands
      match ← copyAll program (Style.ofGiven given) output names ⟨1, some 0, false⟩ true with
      | .error status => return status
      | .ok (isFine, p) =>
        if p.holdsReturn then
          let _ ← Act.write 1 [0x0D]
        if names.contains (ascii "-") then
          match ← Act.ask (.close 0) with
          | .ok () => pure ()
          | .error e =>
            complain program (ascii "closing standard input: " ++ e.reason)
            return 1
        return if isFine then 0 else 1

end SurfaceGuard.Programs.Cat
