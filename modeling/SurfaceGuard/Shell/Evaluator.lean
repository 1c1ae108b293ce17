import SurfaceGuard.Shell.Fields
import SurfaceGuard.Shell.State

/-!
# Evaluators

Commands contain words, words contain commands, and loops and functions run commands again.
Each part of the shell is therefore written for a given way to run what is inside; the parts
are tied together at the end, for runs that are nested up to a depth.
-/

namespace SurfaceGuard.Shell

/-- The place of a command that is run. -/
structure Mode where
  /-- Is the command the last thing that its process does? -/
  isLast : Bool := false
  /-- Is its status looked at, so that a failure does not end the shell? -/
  isTested : Bool := false
  deriving DecidableEq, Repr

/-- How a word is expanded. -/
structure Style where
  /-- Is the word split into fields? -/
  isSplit : Bool := false
  /-- Is it the word of a parameter, whose own text is split too? -/
  isInner : Bool := false
  /-- Does a tilde in front stand for a directory? -/
  tilde : Bool := false
  /-- Does a tilde after a colon? -/
  colonTilde : Bool := false
  deriving DecidableEq, Repr

/-- Where the commands of a script come from: bytes that are at hand, and perhaps a descriptor from
which more can be read. -/
structure Source where
  bytes : Bytes
  descriptor? : Option Nat

/-- How the parts of a shell run what is inside them. -/
structure Evaluator where
  /-- Runs a command. -/
  tree : Option Tree → Mode → Sh Nat
  /-- Expands a word inside another one; the flag says whether it is quoted. -/
  word : Style → Bool → Word → Sh (List Segment)
  /-- Runs the commands of a source. -/
  source : Source → Mode → Sh Nat
  /-- Ends the shell for a reason. -/
  leave : Raise → Sh Unit

namespace Evaluator

/-- Runs the commands of a text. -/
def text (ev : Evaluator) (t : Bytes) (mode : Mode) : Sh Nat := ev.source ⟨t, none⟩ mode

end Evaluator

end SurfaceGuard.Shell
