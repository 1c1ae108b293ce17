import SurfaceGuard.Shell.Reading

/-!
# Reading words

How a word is read depends on what surrounds each byte of it: nothing, quotation marks of
either kind, or the parentheses of an arithmetic expression.  The word of a parameter in
braces may have quotations of its own, so the surroundings are kept on a stack, and so are
the pieces of the constructs that are still open.

The body of a command substitution is read by the reader of commands, which is a parameter
here.
-/

namespace SurfaceGuard.Shell

open Parse

/-- What surrounds a byte. -/
inductive Surrounding where
  | plain
  | single
  | double
  | arithmetic
  deriving DecidableEq, Repr

/-- The part that a byte plays in a word. -/
inductive Role where
  | ordinary
  /-- It would mean something in a pattern or a path. -/
  | guarded
  | newline
  | backslash
  | singleQuote
  | doubleQuote
  | endQuote
  | backquote
  | dollar
  | rightBrace
  | leftParen
  | rightParen
  /-- It ends a word. -/
  | separator
  | endOfInput
  deriving DecidableEq, Repr

/-- The bytes that are guarded in quotations. -/
def guardedBytes : Bytes := "!*?[=~:/-]^"

/-- The bytes that separate words. -/
def separatorBytes : Bytes := "<>();&| \t"

/-- The part that a byte plays in its surroundings. -/
def Surrounding.role (s : Surrounding) : Option UInt8 → Role
  | none => .endOfInput
  | some b =>
    if b == 0x0A then .newline
    else match s with
      | .single =>
        if b == 0x27 then .endQuote
        else if b == 0x5C || guardedBytes.contains b then .guarded else .ordinary
      | .arithmetic =>
        if b == 0x28 then .leftParen else if b == 0x29 then .rightParen else common b
      | .double =>
        if b == 0x22 then .endQuote
        else if guardedBytes.contains b then .guarded else common b
      | .plain =>
        if b == 0x27 then .singleQuote
        else if b == 0x22 then .doubleQuote
        else if separatorBytes.contains b then .separator else common b
where
  /-- The part of a byte that means the same everywhere but in single quotes. -/
  common (b : UInt8) : Role :=
    if b == 0x5C then .backslash
    else if b == 0x60 then .backquote
    else if b == 0x24 then .dollar
    else if b == 0x7D then .rightBrace
    else .ordinary

/-- The surroundings of a byte, with what is open in them. -/
structure Frame where
  surrounding : Surrounding
  /-- Is a parameter in braces inside a quotation quoted once more? -/
  isQuotedInside : Bool := false
  /-- Were the surroundings entered for a parameter in braces? -/
  isForParameter : Bool := false
  isQuoted : Bool := false
  /-- How many parameters in braces are open. -/
  depth : Nat := 0
  /-- How many of them are quoted. -/
  quotedDepth : Nat := 0
  /-- How many parentheses are open. -/
  parens : Nat := 0

/-- A construct that is still open. -/
inductive Construct where
  | parameter (name : Bytes) (use : Use) (orEmpty : Bool)
  | arithmetic

/-- How far a word was read. -/
structure WordState where
  /-- The innermost surroundings. -/
  frame : Frame
  outer : List Frame
  /-- The pieces of the innermost construct, the last one first. -/
  pieces : List Piece
  /-- The open constructs, each with the pieces in front of it. -/
  constructs : List (Construct × List Piece)
  /-- Was anything quoted? -/
  isQuoted : Bool

namespace WordState

/-- A word that begins in surroundings. -/
def start (s : Surrounding) : WordState :=
  { frame := { surrounding := s, isQuoted := s = .double }, outer := [], pieces := [],
    constructs := [], isQuoted := false }

/-- The word with another piece. -/
def add (w : WordState) (p : Piece) : WordState := { w with pieces := p :: w.pieces }

/-- The word with another byte. -/
def addByte (w : WordState) (b : UInt8) (isEscaped : Bool) : WordState := w.add (.byte b isEscaped)

/-- The word in new surroundings. -/
def enter (w : WordState) (f : Frame) : WordState := { w with frame := f, outer := w.frame :: w.outer }

/-- The word back in the surroundings of these. -/
def leave (w : WordState) : WordState :=
  match w.outer with
  | f :: outer => { w with frame := f, outer := outer }
  | [] => w

/-- The word with an open construct. -/
def begin (w : WordState) (c : Construct) : WordState :=
  { w with constructs := (c, w.pieces) :: w.constructs, pieces := [] }

/-- The word with its innermost construct closed. -/
def finish (w : WordState) : WordState :=
  match w.constructs with
  | [] => w
  | (c, before) :: constructs =>
    let inner := w.pieces.reverse
    let piece : Piece := match c with
      | .parameter name use orEmpty => .parameter name use orEmpty inner
      | .arithmetic => .arithmetic inner
    { w with constructs := constructs, pieces := piece :: before }

/-- The word after a quotation mark; a here-document has no use for it. -/
def quote (w : WordState) (inDocument : Bool) : WordState :=
  if inDocument then w else w.add .mark

/-- The word after a double quotation mark that opens or closes inside a parameter. -/
def toggle (w : WordState) (inDocument : Bool) : WordState :=
  let w := if w.frame.depth ≠ 0 then
    { w with frame := { w.frame with isQuotedInside := !w.frame.isQuotedInside } } else w
  w.quote inDocument

/-- The word after a mark that may end a quotation. -/
def endQuote (w : WordState) (b : UInt8) (inDocument : Bool) : WordState :=
  if inDocument && w.frame.depth = 0 then w.addByte b false
  else
    let w := if w.frame.quotedDepth = 0 then
      { w with frame := { w.frame with surrounding := .plain, isQuoted := false } } else w
    let w := { w with isQuoted := true }
    if b == 0x22 then w.toggle inDocument else w.quote inDocument

/-- The word after a brace that may end a parameter. -/
def endBrace (w : WordState) : WordState :=
  let f := w.frame
  if !f.isQuotedInside && 0 < f.depth then
    let f := { f with depth := f.depth - 1 }
    let w := if f.depth = 0 && f.isForParameter then w.leave
      else { w with frame := { f with quotedDepth := f.quotedDepth - 1 } }
    w.finish
  else w.addByte 0x7D false

/-- The word after a byte that had a backslash in front of it. -/
def escape (w : WordState) (b : UInt8) (inDocument : Bool) : WordState :=
  let inBraces := w.frame.depth ≠ 0
  let keepsSlash := w.frame.isQuoted && b != 0x5C && b != 0x60 && b != 0x24
    && (b != 0x22 || (inDocument && !inBraces)) && (b != 0x7D || !inBraces)
  let w := if keepsSlash then w.addByte 0x5C true else w
  { w.addByte b true with isQuoted := true }

end WordState

namespace Lexer

/-! ## Parameters -/

/-- May the byte name a parameter that is no variable? -/
def isSpecialName (b : UInt8) : Bool := (ascii "#?$!-*@").contains b || Ascii.isDigit b

/-- Does a byte satisfy a condition? -/
def satisfies (b? : Option UInt8) (f : UInt8 → Bool) : Bool := b?.any f

/-- The bytes from one on that satisfy a condition, and the first that does not. -/
def readWhile (f : UInt8 → Bool) : Nat → Option UInt8 → Parse (Bytes × Option UInt8)
  | 0, b? => return ([], b?)
  | fuel + 1, b? => do
    match b? with
    | some b =>
      if f b then
        let (more, after) ← readWhile f fuel (← nextJoined)
        return (b :: more, after)
      else return ([], some b)
    | none => return ([], none)

/-- A parameter before its word: its name, its use, whether an empty value counts as none, and
whether the surroundings of its word are plain. -/
structure ParameterHead where
  name : Bytes
  use : Use
  orEmpty : Bool
  isPlain : Bool

/-- A parameter that is not known how to use. -/
def unknownHead (name : Bytes) : ParameterHead := ⟨name, .unknown, false, false⟩

/-- The use that a byte after the name of a parameter asks for. -/
def useOf? (b : UInt8) : Option Use :=
  [(0x7D, Use.value), (0x2D, .orElse), (0x2B, .ifSet), (0x3F, .require), (0x3D, .assign)].lookup b

/-- The head of a parameter in braces, from what follows its name. -/
def readUse (name : Bytes) (b? : Option UInt8) : Parse ParameterHead := do
  match b? with
  | some 0x3A =>
    let b? ← nextJoined
    return ⟨name, (b?.bind useOf?).getD .unknown, true, false⟩
  | some b =>
    if b == 0x25 || b == 0x23 then
      let after ← nextJoined
      if after == some b then return ⟨name, .trim (b == 0x25) true, false, true⟩
      else
        back after
        return ⟨name, .trim (b == 0x25) false, false, true⟩
    else return ⟨name, (useOf? b).getD .unknown, false, false⟩
  | none => return unknownHead name

/-- The head of a parameter in braces whose length is asked for, from its name. -/
def readLength (name : Bytes) (b? : Option UInt8) : Parse ParameterHead := do
  back b?
  return if b? == some 0x7D then ⟨name, .length, false, false⟩ else unknownHead name

/-- The name of a parameter in braces that starts with a byte, if it has one, and what follows. -/
def readName (b? : Option UInt8) : Parse (Option Bytes × Option UInt8) := do
  if satisfies b? Ascii.isNameStart then
    let (name, after) ← readWhile Ascii.isNameByte limit b?
    return (some name, after)
  else if satisfies b? Ascii.isDigit then
    let (name, after) ← readWhile Ascii.isDigit limit b?
    return (some name, after)
  else return (none, b?)

/-- The head of a parameter in braces. -/
def readBraced (b? : Option UInt8) : Parse ParameterHead := do
  match ← readName b? with
  | (some name, after) => readUse name after
  | (none, none) => return unknownHead []
  | (none, some b) =>
    if b == 0x7D then
      back (some b)
      return unknownHead []
    else
      let after ← nextJoined
      if b == 0x23 then
        match ← (if satisfies after fun c => Ascii.isNameByte c then readName after
          else return (none, after)) with
        | (some name, after) => readLength name after
        | (none, c?) =>
          let after ← nextJoined
          if c? == some 0x7D || after != some 0x7D then
            back after
            readUse [0x23] c?
          else if satisfies c? isSpecialName then readLength c?.toList after
          else
            back after
            return unknownHead []
      else if isSpecialName b then readUse [b] after
      else
        back after
        return unknownHead []

/-- The head of a parameter without braces. -/
def readBare (b : UInt8) : Parse ParameterHead := do
  if Ascii.isNameStart b then
    let (name, after) ← readWhile Ascii.isNameByte limit (some b)
    back after
    return ⟨name, .value, false, false⟩
  else return ⟨[b], .value, false, false⟩

/-- The word after the head of a parameter. -/
def beginParameter (w : WordState) (h : ParameterHead) : WordState :=
  if h.use = .value && !h.orEmpty then w.add (.parameter h.name .value false [])
  else
    let current := w.frame.surrounding
    let wanted := if h.isPlain then .plain else if current = .arithmetic then .double else current
    let w := if wanted ≠ current || w.frame.isQuotedInside then
      w.enter { surrounding := wanted, isForParameter := true, isQuoted := wanted ≠ .plain } else w
    let f := w.frame
    { w with frame := { f with
        depth := f.depth + 1
        quotedDepth := if f.isQuoted then f.quotedDepth + 1 else f.quotedDepth } }.begin
      (.parameter h.name h.use h.orEmpty)

/-! ## Command substitutions -/

/-- The text between backquotes. -/
def readBackquoted (isQuoted : Bool) : Nat → Parse Bytes
  | 0 => return []
  | fuel + 1 => do
    match ← nextJoined with
    | none => fault "EOF in backquote substitution"
    | some 0x60 => return []
    | some 0x5C =>
      let b? ← next
      let isEscape := satisfies b? fun b =>
        b == 0x5C || b == 0x60 || b == 0x24 || (isQuoted && b == 0x22)
      match b? with
      | none => fault "EOF in backquote substitution"
      | some b =>
        if b == 0x0A then countLine
        let rest ← readBackquoted isQuoted fuel
        return if isEscape then b :: rest else 0x5C :: b :: rest
    | some b =>
      if b == 0x0A then countLine
      return b :: (← readBackquoted isQuoted fuel)

/-! ## Words -/

/-- How the parts of commands are read that words may contain. -/
structure Bodies where
  /-- The body of a substitution in parentheses, and the closing one. -/
  parenthesized : Parse (Option Tree)
  /-- The body of a substitution between backquotes. -/
  backquoted : (text : Bytes) → Parse (Option Tree)

/-- The mark that ends a here-document, and whether tabs in front of lines are skipped. -/
structure DocumentEnd where
  mark : Bytes
  stripsTabs : Bool

/-- Skips tabs from a byte on. -/
def skipTabs : Nat → Option UInt8 → Parse (Option UInt8)
  | 0, b? => return b?
  | fuel + 1, b? => do if b? == some 0x09 then skipTabs fuel (← next) else return b?

/-- Does the line that starts with a byte consist of the mark?  It is read only if it does. -/
def matchMark : Bytes → Option UInt8 → Parse Bool
  | [], b? => do
    if b? == some 0x0A then
      countLine
      return true
    else return b?.isNone
  | c :: mark, b? => do if b? == some c then matchMark mark (← next) else return false

/-- The first byte of a line of a here-document; none where the document ends. -/
def startLine (end_ : DocumentEnd) (b? : Option UInt8) : Parse (Option UInt8) := do
  let b? ← if end_.stripsTabs then skipTabs limit b? else pure b?
  let before ← get
  if ← matchMark end_.mark b? then return none
  else
    set before
    return b?

/-- The next byte of a word; backslashes join lines everywhere but in single quotes. -/
def nextIn (w : WordState) : Parse (Option UInt8) :=
  if w.frame.surrounding = .single then next else nextJoined

/-- The word after a dollar sign. -/
def readDollar (bodies : Bodies) (w : WordState) : Parse WordState := do
  match ← nextJoined with
  | some 0x28 =>
    if (← get).checks.mark then
      back (some 0x28)
      return w.addByte 0x24 false
    else
      let b? ← nextJoined
      if b? == some 0x28 then
        return (w.enter { surrounding := .arithmetic, isQuoted := true }).begin .arithmetic
      else
        back b?
        return w.add (.command (← bodies.parenthesized))
  | some b =>
    let isName := b == 0x7B || Ascii.isNameStart b || isSpecialName b
    if (← get).checks.mark || !isName then
      back (some b)
      return w.addByte 0x24 false
    else if b == 0x7B then return beginParameter w (← readBraced (← nextJoined))
    else return beginParameter w (← readBare b)
  | none => return w.addByte 0x24 false

/-- The word after a closing parenthesis in an arithmetic expression. -/
def closeParen (w : WordState) : Parse WordState := do
  if 0 < w.frame.parens then
    return { w.addByte 0x29 false with frame := { w.frame with parens := w.frame.parens - 1 } }
  else
    let b? ← nextJoined
    if b? == some 0x29 then return w.leave.finish
    else
      back b?
      return w.addByte 0x29 false

/-- The word after a byte, unless the byte ends it. -/
def step (bodies : Bodies) (inDocument : Bool) (w : WordState) (b? : Option UInt8) :
    Parse (Option WordState) := do
  let b := b?.getD 0
  match w.frame.surrounding.role b? with
  | .endOfInput => return none
  | .newline =>
    if w.frame.surrounding = .plain && w.frame.depth = 0 then return none
    else
      countLine
      return some (w.addByte b false)
  | .ordinary => return some (w.addByte b false)
  | .guarded => return some (w.addByte b (!inDocument || w.frame.isQuoted))
  | .backslash =>
    match ← next with
    | none => return some (w.addByte 0x5C true)
    | some c => return some (w.escape c inDocument)
  | .singleQuote =>
    return some ({ w with frame := { w.frame with surrounding := .single } }.quote inDocument)
  | .doubleQuote =>
    return some ({ w with frame := { w.frame with
      surrounding := .double, isQuoted := true } }.toggle inDocument)
  | .endQuote => return some (w.endQuote b inDocument)
  | .dollar => return some (← readDollar bodies w)
  | .rightBrace => return some w.endBrace
  | .leftParen =>
    return some { w.addByte b false with frame := { w.frame with parens := w.frame.parens + 1 } }
  | .rightParen => return some (← closeParen w)
  | .backquote =>
    if (← get).checks.mark then return some { w.addByte b false with isQuoted := true }
    else
      let text ← readBackquoted w.frame.isQuoted limit
      return some (w.add (.command (← bodies.backquoted text)))
  | .separator => if w.frame.depth = 0 then return none else return some (w.addByte b false)

/-- Reads a word from a byte on, up to the byte that ends it. -/
def readPieces (bodies : Bodies) (end? : Option DocumentEnd) :
    Nat → Bool → WordState → Option UInt8 → Parse (WordState × Option UInt8)
  | 0, _, w, b? => return (w, b?)
  | fuel + 1, atLineStart, w, b? => do
    let b? ← match end? with
      | some end_ => if atLineStart then startLine end_ b? else pure b?
      | none => pure b?
    match ← step bodies end?.isSome w b? with
    | none => return (w, b?)
    | some after =>
      let isEnd := b? == some 0x0A && w.frame.surrounding.role b? == .newline
      readPieces bodies end? fuel isEnd after (← nextIn after)

/-- Checks that nothing is open at the end of a word. -/
def checkEnd (inDocument : Bool) (w : WordState) : Parse Unit := do
  if w.frame.surrounding = .arithmetic then fault "Missing '))'"
  else if w.frame.surrounding ≠ .plain && !inDocument then fault "Unterminated quoted string"
  else if w.frame.depth ≠ 0 then fault "Missing '\x7d'"

/-- The text of a here-document. -/
def readDocument (bodies : Bodies) (isPlain : Bool) (end_ : DocumentEnd) : Parse Word := do
  let surrounding := if isPlain then .single else .double
  let b? ← if isPlain then next else nextJoined
  let (w, _) ← readPieces bodies (some end_) limit true (.start surrounding) b?
  checkEnd true w
  return w.pieces.reverse

/-- The direction of a redirection, from its first byte on, and the descriptor that it is for. -/
def readDirection (b : UInt8) : Parse (Nat × Direction) := do
  let c? ← nextJoined
  if b == 0x3E then
    match c? with
    | some 0x3E => return (1, .file .append)
    | some 0x7C => return (1, .file .clobber)
    | some 0x26 => return (1, .duplicate)
    | _ =>
      back c?
      return (1, .file .write)
  else
    match c? with
    | some 0x3C =>
      let d? ← nextJoined
      if d? == some 0x2D then return (0, .here true)
      else
        back d?
        return (0, .here false)
    | some 0x26 => return (0, .duplicate)
    | some 0x3E => return (0, .file .readWrite)
    | _ =>
      back c?
      return (0, .file .read)

/-- The digit that names the descriptor of a redirection, if the word in front of it allows that. -/
def descriptorOf? (w : Word) (isQuoted : Bool) : Option (Option Nat) :=
  if isQuoted then none
  else match w with
    | [] => some none
    | [.byte b false] => if Ascii.isDigit b then some (some (Ascii.digitValue b)) else none
    | _ => none

/-- The word, or the redirection, that starts with a byte. -/
def readWord (bodies : Bodies) (b? : Option UInt8) : Parse Token := do
  let (w, after) ← readPieces bodies none limit false (.start .plain) b?
  checkEnd false w
  let word := w.pieces.reverse
  let token : Token := .word word w.isQuoted
  match after, descriptorOf? word w.isQuoted with
  | some b, some descriptor? =>
    if b == 0x3C || b == 0x3E then
      let (usual, direction) ← readDirection b
      return .redirection (descriptor?.getD usual) direction
    else
      back after
      return token
  | _, _ =>
    back after
    return token

/-- An operator, or the longer one that it is the beginning of. -/
def readOperator (second : UInt8) (long short : Token) : Parse Token := do
  let b? ← nextJoined
  if b? == some second then return long
  else
    back b?
    return short

/-- The next token of the script. -/
def readToken (bodies : Bodies) : Nat → Parse Token
  | 0 => return .endOfInput
  | fuel + 1 => do
    match ← nextJoined with
    | none => return .endOfInput
    | some 0x20 => readToken bodies fuel
    | some 0x09 => readToken bodies fuel
    | some 0x23 =>
      skipLine limit
      readToken bodies fuel
    | some 0x0A =>
      countLine
      return .newline
    | some 0x26 => readOperator 0x26 .andIf .background
    | some 0x7C => readOperator 0x7C .orIf .pipe
    | some 0x3B => readOperator 0x3B .endCase .semicolon
    | some 0x28 => return .leftParen
    | some 0x29 => return .rightParen
    | some b => readWord bodies (some b)

end Lexer

end SurfaceGuard.Shell
