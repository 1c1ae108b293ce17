import SurfaceGuard.Shell.Evaluator
import SurfaceGuard.Shell.Expansion
import SurfaceGuard.Shell.Grammar

/-!
# Running scripts

A script is read line by line, together with the lines that a command goes on to, and each
command runs before the next one is read.  So an alias that a command sets is known to the
next line, and a fault at the end of a script does not keep its beginning from running.
-/

namespace SurfaceGuard.Shell.Script

open Sh

/-- How deeply commands may be nested in a script. -/
def nesting : Nat := Nat.pow 2 20

/-- How many bytes of a script are read at once. -/
def chunkSize : Nat := 8192

/-- A script of which nothing has been read yet. -/
def beginning (source : Source) : Reading where
  strata := [⟨source.bytes, none, false⟩]
  isComplete := source.descriptor?.isNone
  line := 1
  last := .newline
  lastWord := []
  isPushed := false
  checks := {}
  aliases := []
  awaited := []
  documents := #[]

/-- The script with more bytes at its end. -/
def extended (r : Reading) (bytes : Bytes) : Reading :=
  { r with strata := r.strata ++ [⟨bytes.filter (· != 0), none, false⟩] }

/-- The bytes of the script itself that are still to be read. -/
def rest (r : Reading) : Bytes :=
  (r.strata.filter (·.alias?.isNone)).flatMap Stratum.bytes

/-- The lines at the beginning of a text that hold so many of its bytes. -/
def linesWith (count : Nat) (t : Bytes) : Bytes :=
  let last := (t.drop count).takeWhile (· != 0x0A)
  if count = 0 || (t.take count).getLast? == some 0x0A then t.take count
  else t.take (count + last.length + 1)

/-- The first lines of a text. -/
def firstLines : Nat → Bytes → Bytes
  | 0, _ => []
  | count + 1, t =>
    let line := t.takeWhile (· != 0x0A)
    if line.length = t.length then t
    else line ++ 0x0A :: firstLines count (t.drop (line.length + 1))

/-- Shows lines that were read, if that is asked for. -/
def traceLines (source : Source) (lines : Bytes) : Sh Unit := do
  if source.descriptor?.isSome && (← hasFlag .traceInput) && !lines.isEmpty then
    let _ ← writeTo 2 lines

/-- The script as it is read with the aliases of the shell. -/
def current (s : Shell) (r : Reading) : Reading :=
  { r with aliases := s.aliases, documents := s.documents }

/-- Keeps the here-documents that were read. -/
def keepDocuments (r : Reading) : Sh Unit := modify fun s => { s with documents := r.documents }

/-- Runs the commands of a script from a line on; the status so far. -/
def runFrom (ev : Evaluator) (source : Source) (mode : Mode) : Nat → Nat → Reading → Sh Nat
  | 0, status, _ => return status
  | fuel + 1, status, r => do
    let r := current (← get) r
    match (Parser.ofDepth nesting).list .line r with
    | .error .needMore =>
      match ← ask (.read (source.descriptor?.getD 0) chunkSize) with
      | .ok (b :: bytes) => runFrom ev source mode fuel status (extended r (b :: bytes))
      | .error .interrupted => runFrom ev source mode fuel status r
      | _ => runFrom ev source mode fuel status { r with isComplete := true }
    | .error (.fault line message) =>
      traceLines source (firstLines (line + 1 - r.line) (rest r))
      modify fun s => { s with line := line }
      fail message
    | .ok (.endOfInput, after) =>
      traceLines source (linesWith ((rest r).length - (rest after).length) (rest r))
      keepDocuments after
      return status
    | .ok (.commands tree?, after) =>
      traceLines source (linesWith ((rest r).length - (rest after).length) (rest r))
      keepDocuments after
      let isLast := mode.isLast && after.isPushed
      let own ← ev.tree tree? { mode with isLast }
      let status := if tree?.isSome then own else status
      if (← look Shell.skip) ≠ .none then return status
      else runFrom ev source mode fuel status after

/-- Runs the commands of a script. -/
def run (ev : Evaluator) (source : Source) (mode : Mode) : Sh Nat :=
  runFrom ev source mode limit 0 (beginning source)

/-! ## Prompts -/

/-- The text of a prompt, in which parameters are replaced; one that cannot be read stands for
itself. -/
def prompt (ev : Evaluator) (t : Bytes) : Sh Bytes := do
  let r := current (← get) (beginning ⟨t, none⟩)
  match Lexer.readDocument (Parser.ofDepth nesting).bodies false ⟨[0], false⟩ r with
  | .error (.fault line message) =>
    modify fun s => { s with line := line }
    warn message
    return t
  | .error .needMore => return t
  | .ok (w, after) =>
    keepDocuments after
    match ← attempt (Expansion.document ev w) with
    | .ok text => return text
    | .error .error => return t
    | .error r => raise r

end SurfaceGuard.Shell.Script
