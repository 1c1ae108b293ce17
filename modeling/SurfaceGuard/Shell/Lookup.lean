import SurfaceGuard.Shell.Redirect

/-!
# Finding commands

The name of a command stands for a function, for a command that is built into the shell, or
for a program in one of the directories in which commands are looked for.  Where a program
was found is remembered, until those directories change.

A file that the system does not know how to run is taken to be a script of the shell.
-/

namespace SurfaceGuard.Shell.Lookup

open Sh

/-- The directories in which commands are looked for if no others are chosen. -/
def defaultPath : Bytes := "/usr/local/sbin:/usr/local/bin:/usr/sbin:/usr/bin:/sbin:/bin"

/-- The name of the variable for the directories in which commands are looked for. -/
def pathName : Bytes := "PATH"

/-- The commands that are built into the shell beside the special ones. -/
def builtins : List Bytes :=
  ["alias", "bg", "cd", "chdir", "command", "echo", "false", "fg", "getopts", "hash", "jobs",
    "kill", "printf", "pwd", "read", "test", "[", "true", "type", "ulimit", "umask", "unalias",
    "wait"]

/-- Is the command built into the shell? -/
def isBuiltin (name : Bytes) : Bool := specialCommands.contains name || builtins.contains name

/-- What a name stands for. -/
inductive Found where
  | function (body : Tree)
  | builtin
  /-- A program in the directory with a number, among those that were looked through. -/
  | program (index : Nat)
  /-- A program whose path is given. -/
  | path
  | missing (e : Errno)

/-- Which commands are looked for. -/
structure Scope where
  /-- The directories to look through, if not those of the variable. -/
  path? : Option Bytes := none
  hasFunctions : Bool := true

/-- The directories that are looked through. -/
def directories (s : Shell) (scope : Scope) : List Bytes :=
  match scope.path? <|> s.valueOf? pathName with
  | none => []
  | some path => Ascii.splitOn 0x3A path

/-- The path of a name in a directory; an empty directory is the current one. -/
def pathIn (directory name : Bytes) : Bytes :=
  if directory.isEmpty then name else directory ++ 0x2F :: name

/-- Is there a program at a path? -/
def isProgram (path : Bytes) : Sh (Except Errno Unit) := do
  match ← ask (.inspect path) with
  | .error e => return .error e
  | .ok info =>
    if info.kind ≠ .file then return .error .accessDenied
    else
      let mayRun : Bool ← ask (.mayUse path .search)
      return if mayRun then .ok () else .error .accessDenied

/-- The number of the first directory with a program of a name.  Those with absolute paths, up to
one that is known to have it, are not looked at again. -/
def search (name : Bytes) (known? : Option Nat) : Nat → Errno → List Bytes → Sh (Except Errno Nat)
  | _, e, [] => return .error e
  | index, e, directory :: rest => do
    let isAbsolute := directory.head? == some 0x2F
    if isAbsolute && known?.any (index < ·) then search name known? (index + 1) e rest
    else if isAbsolute && known? == some index then return .ok index
    else
      match ← isProgram (pathIn directory name) with
      | .ok () => return .ok index
      | .error fault =>
        let e := if fault = .noEntry || fault = .notDirectory then e else fault
        search name known? (index + 1) e rest

/-- Remembers where a command was found, or that it was not. -/
def remember (name : Bytes) (index? : Option Nat) : Sh Unit := modify fun s =>
  { s with remembered := match index? with
      | some index =>
        if (s.remembered.lookup name).isSome then
          s.remembered.map fun r => if r.1 = name then (name, ⟨index, false⟩) else r
        else s.remembered ++ [(name, ⟨index, false⟩)]
      | none => s.remembered.filter (·.1 ≠ name) }

/-- The program that a name stands for. -/
def program (scope : Scope) (name : Bytes) : Sh Found := do
  let s ← get
  let directories := directories s scope
  let known? := if scope.path?.isNone then s.remembered.lookup name else none
  match known?.filter (!·.isStale) with
  | some r => return .program r.index
  | none =>
    let found ← search name (known?.map Remembered.index) 0 .noEntry directories
    if scope.path?.isNone then remember name found.toOption
    match found with
    | .ok index => return .program index
    | .error e => return .missing e

/-- What the name of a command stands for. -/
def find (scope : Scope) (name : Bytes) : Sh Found := do
  if name.contains 0x2F then return .path
  else
    let functions ← look Shell.functions
    match if scope.hasFunctions then functions.lookup name else none with
    | some f => return .function f
    | none => if isBuiltin name then return .builtin else program scope name

/-- A failure to find or to run a command, as messages say it. -/
def reason (e : Errno) : Bytes :=
  if e = .noEntry || e = .notDirectory then "not found" else e.reason

/-! ## Running programs -/

/-- How many bytes of a file are looked at to tell a script from other files. -/
def headSize : Nat := 128

/-- The shell that runs scripts. -/
def shellPath : Bytes := "/bin/sh"

/-- Tells a script that the shell may run from a file that it may not. -/
def checkScript (path : Bytes) : Sh (Except Errno Unit) := do
  match ← ask (.openFile path .toRead 0) with
  | .error e => return .error e
  | .ok d =>
    let head ← ask (.read d headSize)
    let _ ← ask (.close d)
    match head with
    | .error e => return .error e
    | .ok bytes =>
      return if (bytes.takeWhile (· != 0x0A)).contains 0 then .error .notExecutable else .ok ()

/-- Becomes the program at a path; returns why that is impossible. -/
def become (path : Bytes) (arguments : List Bytes) : Sh Errno := do
  let environment := (← get).environment
  match ← ask (.execute path arguments environment) with
  | .notExecutable =>
    match ← checkScript path with
    | .error e => return e
    | .ok () => ask (.execute shellPath (shellPath :: path :: arguments.drop 1) environment)
  | e => return e

/-- Becomes the program with a name in the first of some directories that has it; returns why that
is impossible. -/
def becomeAny (name : Bytes) (arguments : List Bytes) : Errno → List Bytes → Sh Errno
  | e, [] => return e
  | e, directory :: rest => do
    let fault ← become (pathIn directory name) arguments
    becomeAny name arguments
      (if fault = .noEntry || fault = .notDirectory then e else fault) rest

/-- The status of a command that cannot be run. -/
def statusOf (e : Errno) : Nat :=
  if [Errno.tooManyLinks, .nameTooLong, .noEntry, .notDirectory].contains e then 127 else 126

/-- Becomes the program that the first of some words names, looked for from a directory on; the shell
ends if that is impossible. -/
def execute {α : Type} (scope : Scope) (index : Nat) (arguments : List Bytes) : Sh α := do
  let name := arguments.headD []
  let e ← if name.contains 0x2F then become name arguments
    else becomeAny name arguments .noEntry ((directories (← get) scope).drop index)
  failWith (statusOf e) (name ++ ascii ": " ++ reason e) .finish

end SurfaceGuard.Shell.Lookup
