import SurfaceGuard.Programs.Quoting
import SurfaceGuard.Text.Floating

/-!
# Formatted output

A format is written with conversions for arguments and with escapes, and is used again as
long as there are arguments left.  The `printf` that is built into the shell and the program
of that name differ in what they accept and in how they complain.
-/

namespace SurfaceGuard.Programs.Format

/-- Which `printf` writes: the one built into the shell, or the program. -/
inductive Dialect where
  | builtin
  | program
  deriving DecidableEq, Repr

/-! ## Escapes -/

/-- What an escape writes. -/
inductive Escaped where
  | bytes (written : Bytes)
  /-- All output ends. -/
  | finish
  /-- There is no such escape. -/
  | bad (message : Bytes)
  deriving DecidableEq, Repr

/-- The byte that the letter of an escape writes. -/
def letterByte? (b : UInt8) : Option UInt8 :=
  [(0x61, 0x07), (0x62, 0x08), (0x66, 0x0C), (0x6E, 0x0A), (0x72, 0x0D), (0x74, 0x09),
    (0x76, 0x0B), (0x5C, 0x5C), (0x65, 0x1B)].lookup b

/-- The octal digits at the front, at most three. -/
def octalDigits (t : Bytes) : Bytes := (t.take 3).takeWhile Ascii.isOctal

/-- The escape of a byte by its octal digits, and what follows it. -/
def octalEscape (t : Bytes) : Escaped × Bytes :=
  let digits := octalDigits t
  (.bytes [(Ascii.inBase 8 digits).toUInt8], t.drop digits.length)

/-- The message for an escape that lacks its digits. -/
def missingHex : Bytes := "missing hexadecimal number in escape"

/-- A character with a code; only ASCII characters are written as themselves. -/
def characterBytes (n : Nat) : Bytes :=
  if n < 0x80 then [n.toUInt8]
  else
    let hex := (Ascii.digits 16 n).map Ascii.upper
    let (letter, width) : UInt8 × Nat := if n < 0x10000 then (0x75, 4) else (0x55, 8)
    0x5C :: letter :: List.replicate (width - hex.length) 0x30 ++ hex

/-- The escape of a character by its code, from its letter on, and what follows it. -/
def unicodeEscape (letter : UInt8) (count : Nat) (t : Bytes) : Escaped × Bytes :=
  let digits := (t.take count).takeWhile Ascii.isHex
  if digits.length < count then (.bad missingHex, [])
  else
    let n := Ascii.inBase 16 digits
    if 0xD800 ≤ n && n ≤ 0xDFFF then
      (.bad (ascii "invalid universal character name \\" ++ letter :: digits), [])
    else (.bytes (characterBytes n), t.drop count)

/-- The escape after a backslash, and what follows it.  In an argument an octal escape may have a zero
in front of its digits. -/
def escape (dialect : Dialect) (isArgument : Bool) (t : Bytes) : Escaped × Bytes :=
  match t with
  | [] => (.bytes [0x5C], [])
  | b :: rest =>
    if Ascii.isOctal b then
      let skipsZero := isArgument && b == 0x30
        && (dialect == .program || rest.head?.any Ascii.isOctal)
      octalEscape (if skipsZero then rest else t)
    else match letterByte? b with
      | some written => (.bytes [written], rest)
      | none =>
        if dialect == .program then
          if b == 0x22 then (.bytes [b], rest)
          else if b == 0x63 then (.finish, [])
          else if b == 0x78 then
            let digits := (rest.take 2).takeWhile Ascii.isHex
            if digits.isEmpty then (.bad missingHex, [])
            else (.bytes [(Ascii.inBase 16 digits).toUInt8], rest.drop digits.length)
          else if b == 0x75 then unicodeEscape b 4 rest
          else if b == 0x55 then unicodeEscape b 8 rest
          else (.bytes [0x5C, b], rest)
        else if isArgument && b == 0x63 then (.finish, [])
        else (.bytes [0x5C], t)

/-- The bytes of an argument with escapes, and what ended it early. -/
def argument (dialect : Dialect) : Nat → Bytes → Bytes × Option Escaped
  | 0, _ => ([], none)
  | _, [] => ([], none)
  | fuel + 1, b :: rest =>
    if b == 0x5C then
      match escape dialect true rest with
      | (.bytes written, rest) =>
        let (more, end?) := argument dialect fuel rest
        (written ++ more, end?)
      | (stop, _) => ([], some stop)
    else
      let (more, end?) := argument dialect fuel rest
      (b :: more, end?)

/-! ## Conversions -/

/-- The flags of a conversion. -/
structure Flags where
  isLeft : Bool
  hasZeros : Bool
  hasPlus : Bool
  hasBlank : Bool
  /-- Is the base, or the point, written in any case? -/
  isAlternate : Bool
  deriving DecidableEq, Repr

/-- The number in a conversion that bounds what is written. -/
inductive Bound where
  | none
  | number (n : Nat)
  /-- The next argument. -/
  | argument
  deriving DecidableEq, Repr

/-- A conversion as it stands in a format. -/
structure Directive where
  flags : Bytes
  width : Bound
  precision : Bound
  letter? : Option UInt8
  /-- The conversion as it was read. -/
  text : Bytes
  deriving DecidableEq, Repr

/-- A bound at the front, and what follows it. -/
def boundOf (t : Bytes) : Bound × Bytes :=
  match t with
  | 0x2A :: rest => (.argument, rest)
  | _ =>
    let digits := t.takeWhile Ascii.isDigit
    if digits.isEmpty then (.none, t) else (.number (Ascii.toNat digits), t.drop digits.length)

/-- The conversion after a percent sign, and what follows it. -/
def directiveOf (dialect : Dialect) (t : Bytes) : Directive × Bytes :=
  let flagBytes : Bytes := if dialect = .program then "#-+ 0'I" else "#-+ 0"
  let flags := t.takeWhile flagBytes.contains
  let (width, rest) := boundOf (t.drop flags.length)
  let (precision, rest) : Bound × Bytes := match rest with
    | 0x2E :: rest =>
      match boundOf rest with
      | (.none, rest) => (.number 0, rest)
      | r => r
    | _ => (.none, rest)
  let rest := if dialect == .program then rest.dropWhile (ascii "lLhjtz").contains else rest
  let after := rest.drop 1
  (⟨flags, width, precision, rest.head?, 0x25 :: t.take (t.length - after.length)⟩, after)

/-- A conversion with its numbers. -/
structure Conversion where
  flags : Flags
  width : Nat
  precision? : Option Nat
  letter : UInt8
  deriving DecidableEq, Repr

namespace Conversion

/-- A text brought to the width of its conversion. -/
def pad (c : Conversion) (t : Bytes) : Bytes :=
  let blanks := List.replicate (c.width - t.length) 0x20
  if c.flags.isLeft then t ++ blanks else blanks ++ t

/-- A text cut to the precision of its conversion. -/
def cut (c : Conversion) (t : Bytes) : Bytes :=
  match c.precision? with
  | some n => t.take n
  | none => t

/-- A number brought to the width of its conversion; zeros go between its front and its digits. -/
def padNumber (c : Conversion) (mayHaveZeros : Bool) (front digits : Bytes) : Bytes :=
  if c.flags.hasZeros && !c.flags.isLeft && mayHaveZeros then
    front ++ List.replicate (c.width - front.length - digits.length) 0x30 ++ digits
  else c.pad (front ++ digits)

/-- The sign of a number. -/
def sign (c : Conversion) (isNegative : Bool) : Bytes :=
  if isNegative then [0x2D] else if c.flags.hasPlus then [0x2B]
  else if c.flags.hasBlank then [0x20] else []

/-- The digits of a natural, at least as many as the precision. -/
def digits (c : Conversion) (base n : Nat) : Bytes :=
  let ds := if n = 0 && c.precision? == some 0 then [] else Ascii.digits base n
  List.replicate (c.precision?.getD 0 - ds.length) 0x30 ++ ds

/-- An integer. -/
def integer (c : Conversion) (n : Int) : Bytes :=
  let natural := (n % Nat.pow 2 64).toNat
  let mayHaveZeros := c.precision?.isNone
  if c.letter == 0x64 || c.letter == 0x69 then
    c.padNumber mayHaveZeros (c.sign (n < 0)) (c.digits 10 n.natAbs)
  else if c.letter == 0x75 then c.padNumber mayHaveZeros [] (c.digits 10 natural)
  else if c.letter == 0x6F then
    let ds := c.digits 8 natural
    let ds := if c.flags.isAlternate && ds.head? != some 0x30 then 0x30 :: ds else ds
    c.padNumber mayHaveZeros [] ds
  else
    let front : Bytes := if c.flags.isAlternate && natural ≠ 0 then [0x30, c.letter] else []
    let ds := c.digits 16 natural
    c.padNumber mayHaveZeros front (if c.letter == 0x58 then ds.map Ascii.upper else ds)

/-- A floating-point number. -/
def floating (c : Conversion) (f : FloatFormat) (x : Floating) : Bytes :=
  let isCapital := Ascii.isUpper c.letter
  let kind := if isCapital then c.letter + 0x20 else c.letter
  let places := c.precision?.getD 6
  let (mayHaveZeros, text) : Bool × Bytes := match x with
    | .infinite _ => (false, ascii "inf")
    | .notNumber _ => (false, ascii "nan")
    | .finite _ units exponent => (true,
      if kind == 0x66 then Floating.fixed units exponent places c.flags.isAlternate
      else if kind == 0x65 then Floating.exponential units exponent places c.flags.isAlternate
      else if kind == 0x67 then Floating.general units exponent places c.flags.isAlternate
      else Floating.hexadecimal f units exponent c.precision? c.flags.isAlternate)
  let isHex := kind == 0x61 && mayHaveZeros
  let (base, digits) := if isHex then (text.take 2, text.drop 2) else ([], text)
  let written := c.padNumber mayHaveZeros (c.sign x.isNegative ++ base) digits
  if isCapital then written.map Ascii.upper else written

end Conversion

/-! ## Arguments -/

/-- What has been printed so far. -/
structure Printing where
  arguments : List Bytes
  /-- The output, the last piece first. -/
  output : List Bytes
  /-- The complaints, the last first. -/
  complaints : List Bytes
  hasFailed : Bool
  /-- How the output ended early: with a status. -/
  ended? : Option Nat

namespace Printing

/-- With another piece of output. -/
def put (p : Printing) (t : Bytes) : Printing := { p with output := t :: p.output }

/-- With another complaint. -/
def complain (p : Printing) (message : Bytes) : Printing :=
  { p with complaints := message :: p.complaints, hasFailed := true }

/-- With a warning, which is no failure. -/
def warn (p : Printing) (message : Bytes) : Printing :=
  { p with complaints := message :: p.complaints }

/-- Without anything to follow. -/
def stop (p : Printing) (status : Nat) : Printing := { p with ended? := some status }

/-- The next argument, if there is one. -/
def next (p : Printing) : Option Bytes × Printing :=
  (p.arguments.head?, { p with arguments := p.arguments.drop 1 })

/-- With a complaint after which nothing is printed. -/
def abort (dialect : Dialect) (p : Printing) (message : Bytes) : Printing :=
  (p.complain message).stop (if dialect == .program then 1 else 2)

/-- With the complaints about a numeral: what follows it, and whether there is no such number. -/
def check (dialect : Dialect) (p : Printing) (text rest : Bytes) (isOutOfRange : Bool) : Printing :=
  let shown := if dialect == .program then Quoting.plain text else text
  let range (p : Printing) := p.complain (shown ++ ascii ": Numerical result out of range")
  let unfinished (p : Printing) :=
    if rest.length = text.length then
      p.complain (shown ++ (if dialect == .program then ascii ": expected a numeric value"
        else ascii ": expected numeric value"))
    else p.complain (shown ++ (if dialect == .program then ascii ": value not completely converted"
      else ascii ": not completely converted"))
  if dialect == .program then
    if isOutOfRange then range p else if rest.isEmpty then p else unfinished p
  else if !rest.isEmpty then unfinished p else if isOutOfRange then range p else p

/-- The code of the byte after a quote in front of an argument, if it stands for that. -/
def quotedByte? (dialect : Dialect) (p : Printing) (text : Bytes) : Option (Nat × Printing) :=
  match text with
  | [] => none
  | q :: rest =>
    if q != 0x22 && q != 0x27 then none
    else match dialect, rest with
      | .builtin, rest => some ((rest.headD 0).toNat, p)
      | .program, [] => none
      | .program, b :: after =>
        some (b.toNat, if after.isEmpty then p else
          p.warn (ascii "warning: " ++ after
            ++ ascii ": character(s) following character constant have been ignored"))

/-- The integer that an argument writes. -/
def integer (dialect : Dialect) (isSigned : Bool) (p : Printing) (text : Bytes) : Int × Printing :=
  match quotedByte? dialect p text with
  | some (n, p) => (n, p)
  | none =>
    let n := Numeral.read false text
    let (value, isOutOfRange) :=
      if isSigned then (n.clamped, !n.fits)
      else if Nat.pow 2 64 ≤ n.value.natAbs then (Nat.pow 2 64 - 1, true)
      else (n.value, false)
    (value, p.check dialect text n.rest isOutOfRange)

/-- The floating-point number that an argument writes. -/
def floating (dialect : Dialect) (p : Printing) (text : Bytes) : Floating × Printing :=
  match quotedByte? dialect p text with
  | some (n, p) => (.finite false n 0, p)
  | none =>
    let f := if dialect == .program then FloatFormat.extended else FloatFormat.double
    let r := Floating.read f text
    (r.value, p.check dialect text r.rest r.isOutOfRange)

/-- The number that a bound stands for. -/
def bound (dialect : Dialect) (p : Printing) : Bound → Option Int × Printing
  | .none => (none, p)
  | .number n => (some n, p)
  | .argument =>
    match p.next with
    | (none, p) => (some 0, p)
    | (some text, p) =>
      let (n, p) := p.integer dialect true text
      (some n, p)

end Printing

/-! ## Formats -/

/-- The flags that may not stand in front of a letter. -/
def refusedFlags (letter : UInt8) : Bytes :=
  if letter == 0x64 || letter == 0x69 || letter == 0x75 then "#"
  else if letter == 0x6F || letter == 0x78 || letter == 0x58 then "'I"
  else if letter == 0x73 || letter == 0x63 then "'I#0"
  else if (ascii "aAeE").contains letter then "'I"
  else []

/-- Is there such a conversion? -/
def isKnown (dialect : Dialect) (d : Directive) (letter : UInt8) : Bool :=
  (ascii "diouxXeEfFgGaAcs").contains letter
    && (dialect == .builtin || (!d.flags.any (refusedFlags letter).contains
      && !(letter == 0x63 && d.precision != .none)))

/-- The output of a conversion for an argument. -/
def convert (dialect : Dialect) (c : Conversion) (p : Printing) (arg? : Option Bytes) : Printing :=
  let arg := arg?.getD []
  if c.letter == 0x73 then p.put (c.pad (c.cut arg))
  else if c.letter == 0x63 then p.put (c.pad [arg.headD 0])
  else if (ascii "diouxX").contains c.letter then
    let (n, p) := p.integer dialect (c.letter == 0x64 || c.letter == 0x69) arg
    p.put (c.integer n)
  else
    let f := if dialect == .program then FloatFormat.extended else FloatFormat.double
    let (x, p) := p.floating dialect arg
    p.put (c.floating f x)

/-- What becomes of the output where an argument with escapes ends it. -/
def endedBy (dialect : Dialect) (p : Printing) : Option Escaped → Printing
  | some .finish => p.stop (if dialect == .builtin && p.hasFailed then 1 else 0)
  | some (.bad message) => p.abort dialect message
  | _ => p

/-- A conversion with its numbers, for which arguments may be used. -/
def fill (dialect : Dialect) (d : Directive) (letter : UInt8) (p : Printing) : Conversion × Printing :=
  let (width?, p) := p.bound dialect d.width
  let (precision?, p) := p.bound dialect d.precision
  let width := width?.getD 0
  (⟨⟨d.flags.contains 0x2D || width < 0, d.flags.contains 0x30, d.flags.contains 0x2B,
      d.flags.contains 0x20, d.flags.contains 0x23⟩, width.natAbs,
    (precision?.filter (0 ≤ ·)).map Int.toNat, letter⟩, p)

/-- The output after a percent sign, and what follows it in the format. -/
def directive (dialect : Dialect) (p : Printing) (t : Bytes) : Printing × Bytes :=
  let (d, rest) := directiveOf dialect t
  match dialect, t, d.letter? with
  | _, 0x25 :: rest, _ => (p.put [0x25], rest)
  | .program, 0x62 :: rest, _ =>
    let (arg?, p) := p.next
    let arg := arg?.getD []
    let (text, end?) := argument dialect (arg.length + 1) arg
    (endedBy dialect (p.put text) end?, rest)
  | .program, 0x71 :: rest, _ =>
    let (arg?, p) := p.next
    (match arg? with
      | some arg => p.put (Quoting.whereNeeded arg)
      | none => p, rest)
  | .builtin, _, none => (p.abort dialect "missing format character", [])
  | .builtin, _, some 0x62 =>
    let (c, p) := fill dialect d 0x62 p
    let (arg?, p) := p.next
    let arg := arg?.getD []
    let (text, end?) := argument dialect (arg.length + 1) arg
    (endedBy dialect (p.put (c.pad (c.cut text))) end?, rest)
  | _, _, letter? =>
    let letter := letter?.getD 0
    if isKnown dialect d letter then
      let (c, p) := fill dialect d letter p
      let (arg?, p) := p.next
      (convert dialect c p arg?, rest)
    else
      (p.abort dialect (d.text ++ (if dialect == .program then
        ascii ": invalid conversion specification" else ascii ": invalid directive")), [])

/-- The output of one use of a format. -/
def once (dialect : Dialect) : Nat → Printing → Bytes → Printing
  | 0, p, _ => p
  | _, p, [] => p
  | fuel + 1, p, b :: rest =>
    if p.ended?.isSome then p
    else if b == 0x25 then
      let (p, rest) := directive dialect p rest
      once dialect fuel p rest
    else if b == 0x5C then
      match escape dialect false rest with
      | (.bytes written, rest) => once dialect fuel (p.put written) rest
      | (stop, _) => endedBy dialect p (some stop)
    else once dialect fuel (p.put [b]) rest

/-- The output of a format, used again while it uses arguments and there are some left. -/
def repeated (dialect : Dialect) (format : Bytes) : Nat → Printing → Printing
  | 0, p => p
  | fuel + 1, p =>
    let after := once dialect (format.length + 1) p format
    if after.ended?.isSome || after.arguments.isEmpty then after
    else if after.arguments.length = p.arguments.length then after
    else repeated dialect format fuel after

/-- What was printed. -/
structure Printed where
  bytes : Bytes
  complaints : List Bytes
  status : Nat
  deriving DecidableEq, Repr

/-- The output of a format for arguments. -/
def print (dialect : Dialect) (format : Bytes) (arguments : List Bytes) : Printed :=
  let p := repeated dialect format (arguments.length + 1) ⟨arguments, [], [], false, none⟩
  let p := match dialect, p.ended?, p.arguments with
    | .program, none, extra :: _ =>
      p.warn (ascii "warning: ignoring excess arguments, starting with " ++ Quoting.plain extra)
    | _, _, _ => p
  ⟨p.output.reverse.flatten, p.complaints.reverse,
    p.ended?.getD (if p.hasFailed then 1 else 0)⟩

end SurfaceGuard.Programs.Format
