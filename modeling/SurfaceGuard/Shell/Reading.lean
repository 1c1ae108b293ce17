import SurfaceGuard.Shell.Syntax

/-!
# The state of reading a script

A script is read byte by byte.  The value of an alias is read in the place of its name, as a
stratum on top of the rest of the script, and the alias is out of use while it is read.
Where a script arrives piece by piece, reading stops when more is needed, and starts again
from the same state when more has come.
-/

namespace SurfaceGuard.Shell

/-- Bytes that are still to be read; the value of an alias keeps its name. -/
structure Stratum where
  bytes : Bytes
  alias? : Option Bytes
  /-- May an alias follow the bytes? -/
  invitesAlias : Bool

/-- What is looked for in the next token. -/
structure Checks where
  /-- Are newlines in front of the token skipped? -/
  newlines : Bool := false
  keywords : Bool := false
  aliases : Bool := false
  /-- Is the token the mark that ends a here-document? -/
  mark : Bool := false

namespace Checks

/-- Newlines, keywords and aliases. -/
def all : Checks := { newlines := true, keywords := true, aliases := true }

/-- What either of two checks looks for. -/
def or (a b : Checks) : Checks :=
  ⟨a.newlines || b.newlines, a.keywords || b.keywords, a.aliases || b.aliases, a.mark || b.mark⟩

end Checks

/-- A here-document that is still to be read. -/
structure AwaitedDocument where
  id : Nat
  mark : Bytes
  stripsTabs : Bool
  isPlain : Bool

/-- Why reading stops. -/
inductive Stop where
  /-- The script goes on where the bytes at hand end. -/
  | needMore
  | fault (line : Nat) (message : Bytes)

/-- How far a script has been read. -/
structure Reading where
  strata : List Stratum
  /-- Does the script end where the bytes end? -/
  isComplete : Bool
  line : Nat
  /-- The last token. -/
  last : Token
  /-- The last word among the tokens. -/
  lastWord : Word
  /-- Is the last token to be read again? -/
  isPushed : Bool
  checks : Checks
  aliases : List (Bytes × Bytes)
  awaited : List AwaitedDocument
  /-- The here-documents, each at the place of its number. -/
  documents : Array Word

/-- A part of the reader. -/
abbrev Parse := StateT Reading (Except Stop)

namespace Parse

/-- How often a loop of the reader may be repeated; no script is as long. -/
def limit : Nat := Nat.pow 2 40

/-- Stops with a message about the line that is being read. -/
def fault {α : Type} (message : Bytes) : Parse α := do
  throw (.fault (← get).line (ascii "Syntax error: " ++ message))

/-- Counts a line. -/
def countLine : Parse Unit := modify fun r => { r with line := r.line + 1 }

/-- The first byte of strata; whether an alias may follow a stratum that was used up on the way. -/
def firstByte : List Stratum → Option UInt8 × List Stratum × Bool
  | [] => (none, [], false)
  | s :: rest =>
    match s.bytes with
    | b :: bytes => (some b, { s with bytes := bytes } :: rest, false)
    | [] =>
      let (b?, strata, invites) := firstByte rest
      (b?, strata, invites || s.invitesAlias)

/-- The next byte; none at the end of the script. -/
def next : Parse (Option UInt8) := do
  let r ← get
  let (b?, strata, invites) := firstByte r.strata
  if b?.isNone && !r.isComplete then throw .needMore
  let checks := if invites then { r.checks with aliases := true } else r.checks
  set { r with strata := strata, checks := checks }
  return b?

/-- Puts a byte back. -/
def back : Option UInt8 → Parse Unit
  | none => return
  | some b => modify fun r =>
    match r.strata with
    | s :: rest => { r with strata := { s with bytes := b :: s.bytes } :: rest }
    | [] => { r with strata := [⟨[b], none, false⟩] }

/-- The next byte; a backslash in front of a line end joins the lines. -/
def nextJoinedFrom : Nat → Parse (Option UInt8)
  | 0 => return none
  | fuel + 1 => do
    let b ← next
    if b == some 0x5C then
      let after ← next
      if after == some 0x0A then
        countLine
        nextJoinedFrom fuel
      else
        back after
        return b
    else return b

/-- The next byte; a backslash in front of a line end joins the lines. -/
def nextJoined : Parse (Option UInt8) := nextJoinedFrom limit

/-- Skips bytes up to the end of the line. -/
def skipLine : Nat → Parse Unit
  | 0 => return
  | fuel + 1 => do
    let b ← next
    if b == some 0x0A then back b
    else if b.isSome then skipLine fuel

/-- Lets the last token be read again. -/
def pushBack : Parse Unit := modify fun r => { r with isPushed := true }

/-- Says what is looked for in the next token. -/
def look (checks : Checks) : Parse Unit := modify fun r => { r with checks := checks }

/-- A part of the reader on a text of its own, after which the script goes on. -/
def within {α : Type} (text : Bytes) (line : Nat) (p : Parse α) : Parse α := do
  let r ← get
  set { r with strata := [⟨text, none, false⟩], isComplete := true, line := line }
  let a ← p
  modify fun after => { after with
    strata := r.strata, isComplete := r.isComplete, line := r.line }
  return a

/-- Stops with a message about the last token, and perhaps about the one that was expected. -/
def unexpected {α : Type} (expected? : Option Token) : Parse α := do
  let found := (← get).last.description ++ ascii " unexpected"
  fault (match expected? with
    | some t => (found ++ ascii " (expecting " ++ t.description ++ ascii ")").take 63
    | none => found)

end Parse

end SurfaceGuard.Shell
