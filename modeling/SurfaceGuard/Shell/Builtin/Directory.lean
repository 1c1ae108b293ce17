import SurfaceGuard.Programs.Mode
import SurfaceGuard.Shell.Builtin.Output
import SurfaceGuard.Shell.Variables

/-!
# The directory and the permissions of new files

A shell knows its directory as the user got to it: where `..` follows a name, both are left
out of the path.
-/

namespace SurfaceGuard.Shell.Builtin

open Sh

/-- The path of the directory as the system knows it; without one a warning is written. -/
def systemDirectory : Sh (Option Bytes) := do
  match ← ask .currentDirectory with
  | .ok path => return some path
  | .error e =>
    warn (ascii "getcwd() failed: " ++ e.reason)
    return none

/-- Notes in which directory the shell is; without a path the system is asked. -/
def setDirectory (path? : Option Bytes) (keepsFormer : Bool) : Sh Unit := do
  let former := (← look Shell.directory?).getD []
  if keepsFormer then setVariableWith "OLDPWD" (some former) true false
  let directory? ← match path? with
    | some path => pure (some path)
    | none => systemDirectory
  modify fun s => { s with directory? := directory? }
  setVariableWith "PWD" (some (directory?.getD [])) true false

/-- A path with its names put at the end of others, the last one first. -/
def applyNames (names : List Bytes) : List Bytes → List Bytes
  | [] => names
  | name :: rest =>
    if name = ascii ".." then applyNames (names.drop 1) rest
    else if name.isEmpty || name = ascii "." then applyNames names rest
    else applyNames (name :: names) rest

/-- The path that another one stands for in a directory; two slashes in front stay. -/
def resolvePath (directory path : Bytes) : Bytes :=
  let isAbsolute := path.head? == some 0x2F
  let base := if isAbsolute then path else directory
  let front : Bytes :=
    if base.take 2 == ascii "//" && (base.drop 2).head? != some 0x2F then "//" else "/"
  let before := if isAbsolute then [] else applyNames [] (Ascii.splitOn 0x2F directory)
  front ++ Ascii.join [0x2F] (applyNames before (Ascii.splitOn 0x2F path)).reverse

/-- Goes to a directory; says whether that was possible. -/
def changeTo (isPhysical : Bool) (path : Bytes) : Sh Bool := do
  let known? ← look Shell.directory?
  let logical? := if isPhysical then none else known?.map (resolvePath · path)
  match ← ask (.changeDirectory (logical?.getD path)) with
  | .error _ => return false
  | .ok () =>
    setDirectory logical? true
    modify fun s => { s with remembered := s.remembered.map fun r => (r.1, { r.2 with isStale := true }) }
    return true

/-- Does a path start at the root, at the directory or above it? -/
def isAnchored (path : Bytes) : Bool :=
  path.head? == some 0x2F
    || [ascii ".", ascii ".."].contains (path.takeWhile (· != 0x2F))

/-- The first of some directories that has a directory with a name: its path, and whether it is to be
shown. -/
def searchDirectories (name : Bytes) : List Bytes → Sh (Option (Bytes × Bool))
  | [] => return none
  | front :: rest => do
    let path := if front.isEmpty then name else front ++ 0x2F :: name
    match ← ask (.inspect path) with
    | .ok info =>
      if info.kind = .directory then return some (path, !front.isEmpty)
      else searchDirectories name rest
    | .error _ => searchDirectories name rest

/-- `cd`. -/
def cd (args : List Bytes) : Sh Nat := do
  let (given, words) ← optionsOf { plain := "LP" } args
  let isPhysical := given.getLast?.any (·.1 == 0x50)
  let s ← get
  let isBack := words.head? == some (ascii "-")
  let target := match words with
    | [] => s.valueOf "HOME"
    | w :: _ => if isBack then s.valueOf "OLDPWD" else w
  let name := if target.isEmpty then ascii "." else target
  let found? ← if isAnchored target then pure none
    else match s.valueOf? "CDPATH" with
      | some path => searchDirectories name (Ascii.splitOn 0x3A path)
      | none => pure none
  let (path, isShown) := found?.getD (name, false)
  if ← changeTo isPhysical path then
    if isBack || isShown then print ((← look Shell.directory?).getD [] ++ Ascii.newline)
    return 0
  else fail (ascii "can't cd to " ++ target)

/-- `pwd`. -/
def pwd (args : List Bytes) : Sh Nat := do
  let (given, _) ← optionsOf { plain := "LP" } args
  let path? ← if given.getLast?.any (·.1 == 0x50) then systemDirectory else look Shell.directory?
  print (path?.getD [] ++ Ascii.newline)
  return 0

/-! ## Masks -/

/-- The permissions that a mask leaves to one class, as letters. -/
def maskLetters (bits : Nat) : Bytes :=
  (if bits / 4 % 2 = 0 then ascii "r" else []) ++ (if bits / 2 % 2 = 0 then ascii "w" else [])
    ++ (if bits % 2 = 0 then ascii "x" else [])

/-- A mask as a change of modes. -/
def maskText (mask : Nat) : Bytes :=
  ascii "u=" ++ maskLetters (mask / 64) ++ ascii ",g=" ++ maskLetters (mask / 8) ++ ascii ",o="
    ++ maskLetters mask ++ Ascii.newline

/-- `umask`. -/
def umask (args : List Bytes) : Sh Nat := do
  let (given, words) ← optionsOf { plain := "S" } args
  let mask : Nat ← ask (.setMask 0)
  let _ ← ask (.setMask mask)
  match words with
  | [] =>
    let digits := Ascii.digits 8 mask
    print (if given.isEmpty then List.replicate (4 - digits.length) 0x30 ++ digits ++ Ascii.newline
      else maskText mask)
    return 0
  | w :: _ =>
    if w.head?.any Ascii.isDigit then
      if w.all Ascii.isOctal then
        let _ ← ask (.setMask (Ascii.inBase 8 w % 0o1000))
        return 0
      else badNumber w
    else
      match Programs.Mode.ofText? 0 (0o777 - (0o777 &&& mask)) w with
      | some mode =>
        let _ ← ask (.setMask (0o777 - (0o777 &&& mode)))
        return 0
      | none => fail (ascii "Illegal mode: " ++ w)

end SurfaceGuard.Shell.Builtin
