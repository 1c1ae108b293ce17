import Std.Time.DateTime.Timestamp
import SurfaceGuard.CommandLine.Program
import SurfaceGuard.Process.Launch

/-!
# The command

One run of the guard in the current directory.  The files below it are read into the file
tree of a machine, the command-line program runs on that, and what it changed is written
back.  Nothing is decided here.
-/

namespace SurfaceGuard.Main

/-- The bytes of an array. -/
def bytesOf (a : ByteArray) : Bytes := a.toList

/-- The array of bytes. -/
def arrayOf (b : Bytes) : ByteArray := ⟨b.toArray⟩

/-- Bytes as a string. -/
def stringOf (b : Bytes) : String := (String.fromUTF8? (arrayOf b)).getD ""

/-- The bytes of a string. -/
def bytesOfString (s : String) : Bytes := bytesOf s.toUTF8

/-- The path of a location. -/
def pathOf (loc : Location) : String :=
  stringOf (loc.flatMap fun name => FileTree.separator :: name)

/-- A time in nanoseconds. -/
def nanoseconds (t : IO.FS.SystemTime) : Int := t.sec * 1000000000 + t.nsec.toNat

/-- The mode that a file is taken to have: one that names its interpreter can be run. -/
def modeOf : Bytes → Nat
  | 0x23 :: 0x21 :: _ => 0o755
  | _ => FileTree.fileMode

/-- The directory at a location, with the serial number that the next node gets. -/
partial def readDirectory (loc : Location) (serial : Nat) : IO (Node × Nat) := do
  let path ← IO.FS.realPath (pathOf loc)
  let modified := nanoseconds (← path.metadata).modified
  let mut entries := []
  let mut next := serial + 1
  for entry in ← path.readDir do
    let name := bytesOfString entry.fileName
    let data ← entry.path.metadata
    match data.type with
    | .dir =>
      let (node, after) ← readDirectory (loc ++ [name]) next
      entries := entries ++ [(name, node)]
      next := after
    | .file =>
      let content := bytesOf (← IO.FS.readBinFile entry.path)
      entries := entries ++ [(name, .file ⟨next, modeOf content, nanoseconds data.modified⟩ content)]
      next := next + 1
    | _ => pure ()
  return (.directory ⟨serial, FileTree.directoryMode, modified⟩ entries, next)

/-- Removes what is at a location before, and no longer after. -/
partial def removeLost (loc : Location) (before after : Node) : IO Unit := do
  for (name, old) in before.entries do
    let inner := loc ++ [name]
    match after.entry? name with
    | some new => if old.isDirectory && new.isDirectory then removeLost inner old new
    | none =>
      if old.isDirectory then IO.FS.removeDirAll (pathOf inner) else IO.FS.removeFile (pathOf inner)

/-- Writes what is below a location and was changed from a point in time on. -/
partial def writeChanged (since : Int) (loc : Location) (n : Node) : IO Unit := do
  match n with
  | .directory _ entries =>
    if since ≤ n.modified then IO.FS.createDirAll (pathOf loc)
    for (name, child) in entries do writeChanged since (loc ++ [name]) child
  | .file _ content =>
    if since ≤ n.modified then IO.FS.writeBinFile (pathOf loc) (arrayOf content)
  | _ => pure ()

/-- Prints what a program leaves behind, and returns its code. -/
def leave (e : Exit) : IO UInt32 := do
  (← IO.getStdout).write (arrayOf (Utf8.encode e.streams.stdout))
  (← IO.getStderr).write (arrayOf (Utf8.encode e.streams.stderr))
  return e.code.toUInt32

/-- A world with the current directory in it. -/
def world (loc : Location) (now : Int) : IO World := do
  let system := Programs.Installation.files
  let serial := system.next
  let (node, next) ← readDirectory loc serial
  return {
    files := ⟨Node.withNode node ⟨0, FileTree.directoryMode, 0⟩ loc system.root, next⟩
    time := 0
    epoch := now * 1000000
    processes := []
    descriptions := []
    pipes := []
    nextProcess := 2
    nextOpen := 0
    written := []
    directory := ⟨loc, serial⟩
    clock := Number.ofInt now
    processId := 1
    environment := [ascii "PATH=" ++ Programs.Installation.searchPath]
    log := [] }

/-- One run with the given options. -/
def run (o : CliOptions) : IO UInt32 := do
  let cwd := (← IO.currentDir).toString
  let loc := (Ascii.splitOn FileTree.separator (bytesOfString cwd)).filter (· ≠ [])
  let now := (← Std.Time.Timestamp.now).toMillisecondsSinceUnixEpoch.toInt
  let before ← world loc now
  match CommandLine.program (Launch.launcher 1) o (Text.ofString cwd) before with
  | (result, after) =>
    removeLost [] before.files.root after.files.root
    writeChanged before.epoch [] after.files.root
    match result with
    | .ok e => leave e
    | .error noText => leave ⟨1, .err noText.message⟩

/-- The end of a run whose options have another shape than they should. -/
def refusal (issues : List Issue) : Exit :=
  ⟨1, .err ("apiguard error: " ++ GuardError.listIssues (Issue.report issues) ++ Text.newline)⟩

end SurfaceGuard.Main

/-- Runs the guard with the arguments of the command line. -/
def main (args : List String) : IO UInt32 :=
  match SurfaceGuard.CommandLine.parse (args.map SurfaceGuard.Text.ofString) with
  | .ok (.valid o) => SurfaceGuard.Main.run o
  | .ok (.invalid issues) => SurfaceGuard.Main.leave (SurfaceGuard.Main.refusal issues)
  | .error stop => SurfaceGuard.Main.leave ⟨stop.exitCode, stop.streams⟩
