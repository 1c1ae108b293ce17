import SurfaceGuard.Shell.Arithmetic
import SurfaceGuard.Shell.Jobs

/-!
# Expanding words

Parameters, command substitutions, arithmetic and tildes are expanded from left to right.
The result is split into fields where the word stands for several, and a field that is a
pattern stands for the paths that fit it.
-/

namespace SurfaceGuard.Shell.Expansion

open Sh

/-! ## Parameters -/

/-- Bytes as cells. -/
def cellsOf (isLiteral : Bool) (t : Bytes) : List Cell := t.map fun b => .byte b isLiteral

/-- A text that is split unless it is quoted. -/
def plainSegment (isQuoted : Bool) (t : Bytes) : List Segment :=
  [⟨cellsOf isQuoted t, if isQuoted then .none else .atSeparators⟩]

/-- The cells of the arguments.  They stay apart where fields are made of them, unless they are
quoted as one, and are joined by the first separator otherwise. -/
def argumentCells (s : Shell) (style : Style) (isQuoted isJoined : Bool) : List Cell :=
  let between : List Cell :=
    if style.isSplit && !(isQuoted && isJoined) then [.gap]
    else cellsOf isQuoted (s.separators.take 1)
  ((s.arguments.map (cellsOf isQuoted)).intersperse between).flatten

/-- The letters of the options that are set. -/
def flagLetters (s : Shell) : Bytes :=
  (Flag.table.filterMap fun e => if s.flags.contains e.1 then e.2.2 else none).reverse

/-- The value of a parameter, if it has one. -/
def cells? (s : Shell) (style : Style) (isQuoted : Bool) (name : Bytes) : Option (List Cell) :=
  let text (t : Bytes) := some (cellsOf isQuoted t)
  match name with
  | [0x24] => text (Ascii.ofNat s.processId)
  | [0x3F] => text (Ascii.ofNat s.status)
  | [0x23] => text (Ascii.ofNat s.arguments.length)
  | [0x21] => s.lastBackground?.map fun n => cellsOf isQuoted (Ascii.ofNat n)
  | [0x2D] => text (flagLetters s)
  | [0x40] => some (argumentCells s style isQuoted false)
  | [0x2A] => some (argumentCells s style isQuoted true)
  | _ =>
    if Ascii.isNumeral name then
      match Ascii.toNat name with
      | 0 => text s.name
      | n + 1 => s.arguments[n]?.map (cellsOf isQuoted)
    else (s.valueOf? name).map (cellsOf isQuoted)

/-- How the value of a parameter is split. -/
def splittingOf (s : Shell) (isQuoted : Bool) (name : Bytes) : Splitting :=
  if !isQuoted then .atSeparators
  else if name = ascii "@" && !s.arguments.isEmpty then .atGaps
  else .none

/-- Fails because a parameter has no value. -/
def refuseUnset {α : Type} (name : Bytes) : Sh α := fail (name ++ ascii ": parameter not set")

/-- The bytes of a word that is not split. -/
def innerText (ev : Evaluator) (w : Word) : Sh Bytes := do
  return Fields.bytesOf (← ev.word { tilde := true } false w)

/-- The cells of a text with zeros for gaps. -/
def withGaps (isLiteral : Bool) (t : Bytes) : List Cell :=
  t.map fun b => if b == 0 then .gap else .byte b isLiteral

/-- The expansion of a parameter. -/
def parameter (ev : Evaluator) (style : Style) (isQuoted : Bool)
    (name : Bytes) (use : Use) (orEmpty : Bool) (w : Word) : Sh (List Segment) := do
  let s ← get
  let value? := (cells? s style isQuoted name).filter fun cells => !(orEmpty && cells.isEmpty)
  let segment (cells : List Cell) : List Segment := [⟨cells, splittingOf s isQuoted name⟩]
  let checkSet : Sh Unit := do
    if value?.isNone && (← hasFlag .refuseUnset) then refuseUnset name
  let inner : Sh (List Segment) := ev.word { style with isInner := true, tilde := true } isQuoted w
  match use with
  | .unknown => fail "Bad substitution"
  | .value =>
    checkSet
    return segment (value?.getD [])
  | .length =>
    checkSet
    return plainSegment isQuoted (Ascii.ofNat ((value?.map List.length).getD 0))
  | .orElse =>
    match value? with
    | some cells => return segment cells
    | none => inner
  | .ifSet =>
    match value? with
    | some _ => inner
    | none => return segment []
  | .assign =>
    match value? with
    | some cells => return segment cells
    | none =>
      setVariable name (← innerText ev w)
      return segment (((cells? (← get) style isQuoted name)).getD [])
  | .require =>
    match value? with
    | some cells => return segment cells
    | none =>
      let message ← innerText ev w
      if w.isEmpty then
        fail (name ++ ascii ": parameter not set" ++ if orEmpty then ascii " or null" else [])
      else fail (name ++ ascii ": " ++ message)
  | .trim atEnd isLongest =>
    checkSet
    match value? with
    | none => return []
    | some cells =>
      let pattern : Pattern := (← ev.word { tilde := true } false w).flatMap fun s => Fields.pattern s.cells
      let kept := Pattern.trim pattern atEnd isLongest (Fields.bytes cells)
      return segment (withGaps isQuoted kept)

/-! ## Commands and arithmetic -/

/-- The bytes that are read from a descriptor until its end. -/
def readAll (descriptor : Nat) : Nat → Sh (List Bytes)
  | 0 => return []
  | fuel + 1 => do
    match ← ask (.read descriptor 65536) with
    | .error .interrupted => readAll descriptor fuel
    | .error _ => return []
    | .ok bytes => if bytes.isEmpty then return [] else return bytes :: (← readAll descriptor fuel)

/-- A text without the line ends at its end. -/
def withoutLineEnds (t : Bytes) : Bytes := (t.reverse.dropWhile (· == 0x0A)).reverse

/-- The output of a command, without the line ends at its end. -/
def commandOutput (ev : Evaluator) (body? : Option Tree) : Sh Bytes := do
  match body? with
  | none => return []
  | some body =>
    let (reader, writer) ← ask .pipe
    let number ← addJob
    let id ← startChild ev (some body) do
      let _ ← ask (.close reader)
      if writer ≠ 1 then
        let _ ← ask (.redirect writer 1)
        let _ ← ask (.close writer)
      let _ ← ev.tree (some body) { isLast := true }
    addMember number id
    let _ ← ask (.close writer)
    let pieces ← readAll reader limit
    let _ ← ask (.close reader)
    let status ← awaitJob number
    modify fun s => { s with substituted := status }
    return withoutLineEnds (pieces.flatten.filter (· != 0))

/-- The value of an arithmetic expression. -/
def arithmeticValue (source : Bytes) : Sh Int := do
  match Arithmetic.evaluate (← get).valueOf? source with
  | .error fault => fail (fault.message source)
  | .ok (value, assigned) =>
    each (fun a => setVariable a.1 (Ascii.ofInt a.2)) assigned
    return value

/-! ## Tildes -/

/-- The home directories of the users of the system. -/
def homes : List (Bytes × Bytes) :=
  [("root", "/root"), ("daemon", "/usr/sbin"), ("bin", "/bin"), ("nobody", "/nonexistent")]

/-- The directory that a tilde in front of pieces stands for, and the pieces after it. -/
def tilde? (s : Shell) (atColon : Bool) : Word → Option (Bytes × Word)
  | .byte 0x7E false :: rest =>
    let isName : Piece → Bool := fun
      | .byte b false => b != 0x2F && !(atColon && b == 0x3A)
      | _ => false
    let name := rest.takeWhile isName
    let after := rest.drop name.length
    let ends := match after with
      | [] => true
      | .byte _ false :: _ => true
      | _ => false
    match if ends then Word.plain? name else none with
    | none => none
    | some [] => (s.valueOf? "HOME").map fun home => (home, after)
    | some user => (homes.lookup user).map fun home => (home, after)
  | _ => none

/-! ## Words -/

/-- The pieces in front that are bytes of one kind; after a colon that a tilde may follow they end. -/
def run (isEscaped atColon : Bool) : Word → Bytes × Word
  | .byte b e :: rest =>
    if e != isEscaped then ([], .byte b e :: rest)
    else if atColon && !e && b == 0x3A then ([b], rest)
    else
      let (bytes, rest) := run isEscaped atColon rest
      (b :: bytes, rest)
  | rest => ([], rest)

/-- The expansion of pieces; `inQuotes` says whether a quotation is open. -/
def expand (ev : Evaluator) (style : Style) (isQuoted : Bool) :
    Nat → (inQuotes mayTilde : Bool) → Word → Sh (List Segment)
  | 0, _, _, _ => return []
  | fuel + 1, inQuotes, mayTilde, w => do
    match w with
    | [] => return []
    | .mark :: .parameter [0x40] .value false [] :: .mark :: rest =>
      if inQuotes then
        return ⟨[.mark], .none⟩ :: (← expand ev style isQuoted fuel false false (w.drop 1))
      else
        let front ← parameter ev style true "@" .value false []
        return front ++ (← expand ev style isQuoted fuel false false rest)
    | .mark :: rest =>
      return ⟨[.mark], .none⟩ :: (← expand ev style isQuoted fuel (!inQuotes) false rest)
    | .parameter name use orEmpty inner :: rest =>
      let front ← parameter ev style (isQuoted || inQuotes) name use orEmpty inner
      return front ++ (← expand ev style isQuoted fuel inQuotes false rest)
    | .command body? :: rest =>
      let front := plainSegment (isQuoted || inQuotes) (← commandOutput ev body?)
      return front ++ (← expand ev style isQuoted fuel inQuotes false rest)
    | .arithmetic expression :: rest =>
      let source := Fields.bytesOf (← ev.word {} false expression)
      let front := plainSegment (isQuoted || inQuotes) (Ascii.ofInt (← arithmeticValue source))
      return front ++ (← expand ev style isQuoted fuel inQuotes false rest)
    | .byte _ isEscaped :: _ =>
      let s ← get
      match if mayTilde then tilde? s style.colonTilde w else none with
      | some (home, rest) =>
        return ⟨cellsOf true home, .none⟩ :: (← expand ev style isQuoted fuel inQuotes false rest)
      | none =>
        let atColon := style.colonTilde && !inQuotes
        let (bytes, rest) := run isEscaped atColon w
        let isSplit := style.isInner && !isQuoted && !inQuotes && !isEscaped
        let front : Segment :=
          ⟨cellsOf isEscaped bytes, if isSplit then .atSeparators else .none⟩
        let afterColon := atColon && !isEscaped && bytes.getLast? == some 0x3A
        return front :: (← expand ev style isQuoted fuel inQuotes afterColon rest)

/-- The expansion of a word. -/
def segments (ev : Evaluator) (style : Style) (isQuoted : Bool) (w : Word) : Sh (List Segment) :=
  expand ev style isQuoted (w.length + 1) false style.tilde w

/-- The bytes that a word stands for as one field. -/
def text (ev : Evaluator) (w : Word) : Sh Bytes := do
  return Fields.bytesOf (← segments ev { tilde := true } false w)

/-- The bytes of a here-document. -/
def document (ev : Evaluator) (w : Word) : Sh Bytes := do
  return Fields.bytesOf (← segments ev {} true w)

/-- The pattern that a word stands for. -/
def pattern (ev : Evaluator) (w : Word) : Sh Pattern := do
  return (← segments ev { tilde := true } false w).flatMap fun s => Fields.pattern s.cells

/-- An assignment as a word: the name, and the value that the word after it stands for. -/
def assignment (ev : Evaluator) (w : Word) : Sh Bytes := do
  match w.assignment? with
  | none => text ev w
  | some (name, value) =>
    let segments ← segments ev { tilde := true, colonTilde := true } false value
    return name ++ 0x3D :: Fields.bytesOf segments

/-! ## Paths -/

/-- The paths that fit a pattern, after the part of the path that was read. -/
def paths : Nat → Bytes → Pattern → Sh (List Bytes)
  | 0, _, _ => return []
  | fuel + 1, front, p => do
    let parts := p.components
    let literal := parts.takeWhile (!·.isActive)
    match parts.drop literal.length with
    | [] =>
      if front.isEmpty then return []
      else
        let path := front ++ p.bytes
        match ← ask (.inspect path) with
        | .ok _ => return [path]
        | .error _ => return []
    | part :: rest =>
      let directory := front ++ literal.flatMap fun l => l.bytes ++ [0x2F]
      let listing ← ask (.listDirectory (if directory.isEmpty then "." else directory))
      let names := match listing with
        | .ok names => part.names ([0x2E] :: [0x2E, 0x2E] :: names)
        | .error _ => []
      if rest.isEmpty then return names.map (directory ++ ·)
      else
        let after : Pattern := (rest.intersperse [⟨0x2F, false⟩]).flatten
        return (← mapList (fun name => paths fuel (directory ++ name ++ [0x2F]) after) names).flatten

/-- What a field stands for: the paths that fit it, or itself if there are none. -/
def filesOf (cells : List Cell) : Sh (List Bytes) := do
  let p := Fields.pattern cells
  let isPlain := p.all fun g => !(g.is 0x2A || g.is 0x3F || g.is 0x5B)
  if isPlain || (← hasFlag .noPathnames) then return [Fields.bytes cells]
  else
    let found ← paths (p.length + 1) [] p.resolve
    return if found.isEmpty then [Fields.bytes cells] else Ascii.sort found

/-- The fields that a word stands for. -/
def fields (ev : Evaluator) (w : Word) : Sh (List Bytes) := do
  let segments ← segments ev { isSplit := true, tilde := true } false w
  let separators := (← get).separators
  return (← mapList filesOf (Fields.split separators none segments)).flatten

end SurfaceGuard.Shell.Expansion
