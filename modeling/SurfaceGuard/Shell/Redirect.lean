import SurfaceGuard.Shell.Expansion

/-!
# Redirections

Before a command runs, the words of its redirections are expanded, and then one descriptor
after the other is made to lead elsewhere.  What the descriptors led to before is kept in
copies, so that it can be restored after the command.
-/

namespace SurfaceGuard.Shell.Redirect

open Sh

/-- What a redirection asks for after its words were expanded. -/
inductive Target where
  | file (descriptor : Nat) (opening : Opening) (path : Bytes)
  /-- To where another descriptor leads; without one the descriptor is closed. -/
  | duplicate (descriptor : Nat) (source? : Option Nat)
  | here (descriptor document : Nat) (isPlain : Bool)

/-- The descriptor that a redirection is for. -/
def Target.descriptor : Target → Nat
  | file d .. => d
  | duplicate d _ => d
  | here d .. => d

/-- The target of a redirection. -/
def target (ev : Evaluator) : Redirection → Sh Target
  | .file d opening name => do return .file d opening (← Expansion.text ev name)
  | .duplicate d source? => return .duplicate d source?
  | .here d document isPlain => return .here d document isPlain
  | .duplicateTo d source => do
    match ← Expansion.text ev source with
    | [0x2D] => return .duplicate d none
    | [b] =>
      if Ascii.isDigit b then return .duplicate d (some (Ascii.digitValue b))
      else fail "Syntax error: Bad fd number"
    | _ => fail "Syntax error: Bad fd number"

/-- The targets of redirections. -/
def targets (ev : Evaluator) (rs : List Redirection) : Sh (List Target) := mapList (target ev) rs

/-! ## Opening -/

/-- The mode of a file that a redirection makes. -/
def fileMode : Nat := 0o666

/-- Why a file cannot be opened. -/
def fault {α : Type} (creates : Bool) (path : Bytes) (e : Errno) : Sh α :=
  let verb : Bytes := if creates then "create " else "open "
  let reason : Bytes :=
    if e = .noEntry || e = .notDirectory then
      if creates then "Directory nonexistent" else "No such file"
    else e.reason
  fail (ascii "cannot " ++ verb ++ path ++ ascii ": " ++ reason)

/-- A descriptor for a file. -/
def openWith (path : Bytes) (a : Access) (creates : Bool) : Sh Nat := do
  match ← ask (.openFile path a fileMode) with
  | .ok d => return d
  | .error e => fault creates path e

/-- A descriptor for a file that is not there yet, or that is not a regular file. -/
def openNew (path : Bytes) : Sh Nat := do
  match ← ask (.inspect path) with
  | .error _ => openWith path { Access.toWrite with exclusive := true, truncate := false } true
  | .ok info =>
    if info.kind = .file then fault true path .alreadyThere
    else openWith path { writing := true } true

/-- A descriptor for a file that is opened in some way. -/
def openFile (opening : Opening) (path : Bytes) : Sh Nat := do
  match opening with
  | .read => openWith path .toRead false
  | .readWrite => openWith path { reading := true, writing := true, create := true } true
  | .append => openWith path .toAppend true
  | .clobber => openWith path .toWrite true
  | .write => if ← hasFlag .noClobber then openNew path else openWith path .toWrite true

/-- How many bytes a pipe takes in at once. -/
def pipeLimit : Nat := 4096

/-- A descriptor from which a text can be read.  A longer one is written by a
process of its own. -/
def openText (ev : Evaluator) (t : Bytes) : Sh Nat := do
  let (reader, writer) ← ask .pipe
  if t.length ≤ pipeLimit then
    let _ ← writeTo writer t
  else
    let _ ← startChild ev none do
      let _ ← ask (.close reader)
      for signal in [Signal.interrupt, Signal.quit, Signal.hangup] do
        let _ ← ask (.handle signal .ignore)
      let _ ← writeTo writer t
      exitProcess 0
  let _ ← ask (.close writer)
  return reader

/-- The text of a here-document. -/
def documentText (ev : Evaluator) (document : Nat) (isPlain : Bool) : Sh Bytes := do
  let w := (← look Shell.documents)[document]?.getD []
  if isPlain then return Fields.bytesOf (← Expansion.segments ev {} true w)
  else Expansion.document ev w

/-! ## Redirecting -/

/-- Keeps a copy of what a descriptor leads to, and closes it. -/
def saveDescriptor (d : Nat) : Sh (Option Nat) := do
  match ← ask (.duplicate d 10) with
  | .ok copy =>
    let _ ← ask (.close d)
    return some copy
  | .error _ => return none

/-- Keeps what a descriptor leads to for the command at hand, unless it was kept already. -/
def keep (d : Nat) (isClosed : Bool) : Sh Unit := do
  match ← look Shell.redirected with
  | [] => return
  | top :: rest =>
    if (top.lookup d).isNone then
      let copy? ← if isClosed then pure none else saveDescriptor d
      modify fun s => { s with redirected := ((d, copy?) :: top) :: rest }

/-- Lets a descriptor lead to where another one leads. -/
def lead (d source : Nat) : Sh Unit := do
  match ← ask (.redirect source d) with
  | .ok () => return
  | .error e => fail (Ascii.ofNat source ++ ascii ": " ++ e.reason)

/-- Carries out a redirection; `isKept` says whether it can be taken back. -/
def redirectOne (ev : Evaluator) (isKept : Bool) (t : Target) : Sh Unit := do
  let d := t.descriptor
  match t with
  | .duplicate _ (some source) =>
    if source ≠ d then
      whenever isKept (keep d false)
      lead d source
  | .duplicate _ none =>
    whenever isKept (keep d false)
    let _ ← ask (.close d)
  | .file _ opening path =>
    let opened ← openFile opening path
    place opened d
  | .here _ document isPlain =>
    let opened ← openText ev (← documentText ev document isPlain)
    place opened d
where
  /-- Moves a descriptor that was opened to the place where it is to be. -/
  place (opened d : Nat) : Sh Unit := do
    whenever isKept (keep d (opened == d))
    if opened ≠ d then
      lead d opened
      let _ ← ask (.close opened)

/-- Carries out redirections for good. -/
def redirect (ev : Evaluator) (ts : List Target) : Sh Unit := each (redirectOne ev false) ts

/-- Starts to keep what descriptors lead to. -/
def beginKeeping : Sh Unit := modify fun s => { s with redirected := [] :: s.redirected }

/-- Carries out redirections that can be taken back; says whether that was possible. -/
def redirectKept (ev : Evaluator) (ts : List Target) : Sh Bool := do
  match ← attempt (each (redirectOne ev true) ts) with
  | .ok () => return true
  | .error .error => return false
  | .error r => raise r

/-- Lets a descriptor lead to where it led before. -/
def restore (isDropped : Bool) (kept : Nat × Option Nat) : Sh Unit := do
  match kept with
  | (d, none) =>
    if !isDropped then
      let _ ← ask (.close d)
  | (d, some copy) =>
    if !isDropped then
      let _ ← ask (.redirect copy d)
    let _ ← ask (.close copy)

/-- Takes the last redirections back, or leaves them as they are for good. -/
def endKeeping (isDropped : Bool) : Sh Unit := do
  match ← look Shell.redirected with
  | [] => return
  | top :: rest =>
    modify fun s => { s with redirected := rest }
    each (restore isDropped) (top.mergeSort fun a b => a.1 ≤ b.1)

/-- Takes redirections back until so many commands with redirections are left. -/
def unwind (depth : Nat) : Nat → Sh Unit
  | 0 => return
  | fuel + 1 => do
    if depth < (← look Shell.redirected).length then
      endKeeping false
      unwind depth fuel

/-- Takes redirections back until so many commands with redirections are left. -/
def unwindTo (depth : Nat) : Sh Unit := do unwind depth (← look Shell.redirected).length

end SurfaceGuard.Shell.Redirect
