import SurfaceGuard.Failure
import SurfaceGuard.Log
import SurfaceGuard.Machine.Process
import SurfaceGuard.Number.Basic
import SurfaceGuard.Text.Inspected
import SurfaceGuard.Text.Utf8

/-!
# Tasks

A task is a computation on the surroundings of the guard: it reads and changes the files of
a machine, records what happens, and ends with a result or is ended by something thrown.
What it changed before it was ended stays changed.

Each operation on files fails with a message that names the operation and the paths as
they were passed.  No operation takes a path with a zero in it.  One that changes files may
also fail because the host does; which ones do so is part of the surroundings.
-/

namespace SurfaceGuard

/-- A failure of the host in an operation that changes files, for which the files give no reason: a
full disk, say. -/
structure Fault where
  errno : Errno
  /-- How many bytes of a content were written before it; none if the file was not even opened. -/
  written : Option Nat
  deriving DecidableEq, Repr

/-- What a task works on: a machine, and what the guard knows about itself. -/
structure World extends Machine where
  /-- The directory that relative paths start from. -/
  directory : Place
  /-- The time of the clock, in milliseconds. -/
  clock : Number
  processId : Nat
  /-- The variables that the guard was given. -/
  environment : List Bytes
  log : List Entry
  /-- In which of the coming operations that change files the host fails; in none after these. -/
  faults : List (Option Fault) := []
  /-- The random bytes that the host gives out from now on; zeros if nobody asks for them. -/
  random : Nat → UInt8 := fun _ => 0

/-- A computation on the surroundings. -/
def Task (α : Type) := World → Except Thrown α × World

namespace Task

variable {α β : Type}

/-- The task that does nothing. -/
def done (a : α) : Task α := fun w => (.ok a, w)

/-- The task that is ended at once. -/
def fail (e : Thrown) : Task α := fun w => (.error e, w)

/-- One task and then another that depends on its result. -/
def andThen (t : Task α) (next : α → Task β) : Task β := fun w =>
  match t w with
  | (.ok a, w) => next a w
  | (.error e, w) => (.error e, w)

instance : Monad Task where
  pure := done
  bind := andThen

/-- The task, with its end as its result. -/
def outcome (t : Task α) : Task (Except Thrown α) := fun w =>
  match t w with
  | (end_, w) => (.ok end_, w)

/-- A result, or what ends the task. -/
def ofExcept : Except Thrown α → Task α
  | .ok a => done a
  | .error e => fail e

/-- A result, or a failure that the guard reports itself. -/
def ofGuard : Except GuardError α → Task α
  | .ok a => done a
  | .error e => fail (.guard e)

/-- A result, or an error with a message if there is none. -/
def ofOption (message : Text) : Option α → Task α
  | some a => done a
  | none => fail (.error message)

/-- Something read off the surroundings. -/
def look (f : World → α) : Task α := fun w => (.ok (f w), w)

/-! ## Recording -/

/-- Records an entry. -/
def record (e : Entry) : Task Unit := fun w => (.ok (), { w with log := w.log ++ [e] })

/-- Records entries in order. -/
def recordAll (es : List Entry) : Task Unit := fun w => (.ok (), { w with log := w.log ++ es })

/-- Records a message. -/
def say (level : Level) (text : Text) : Task Unit := record (.message level text)

/-- The task inside a group of entries, which ends however the task ends. -/
def group (title : Text) (t : Task α) : Task α := do
  record (.openGroup title)
  let end_ ← outcome t
  record .closeGroup
  ofExcept end_

/-! ## Files -/

/-- How long an operation on files takes, in microseconds. -/
def duration : Nat := 60

/-- The message of a failed operation on a path, which it names as the system knows it. -/
def systemError (e : Errno) (operation path : Text) : Thrown :=
  .error (e.text ++ ", " ++ operation ++ " '" ++ Text.wellFormed path ++ "'")

/-- The message of a failed operation from one path to another. -/
def transferError (e : Errno) (operation source target : Text) : Thrown :=
  .error (e.text ++ ", " ++ operation ++ " '" ++ Text.wellFormed source ++ "' -> '"
    ++ Text.wellFormed target ++ "'")

/-- The bytes of a path, as the argument of an operation. -/
def pathFor (argument path : Text) : Task Bytes :=
  if path.contains 0 then
    fail (.badArgument (Inspected.pathWithoutZeros ("argument '" ++ argument ++ "'") path))
  else done (Utf8.encode path)

/-- The bytes of the only path of an operation. -/
def pathOf (path : Text) : Task Bytes := pathFor "path" path

/-- A change of the files, which takes some time and may fail after a part of it was made. -/
def changeWith (f : World → Option Thrown × FileTree) : Task Unit := fun w =>
  match f w with
  | (none, files) => (.ok (), { w with files := files, time := w.time + duration })
  | (some e, files) => (.error e, { w with files := files, time := w.time + duration })

/-- A change of the files that is made as a whole, or fails with a message. -/
def change (f : World → Except Thrown FileTree) : Task Unit :=
  changeWith fun w =>
    match f w with
    | .ok files => (none, files)
    | .error e => (some e, w.files)

/-- An operation that changes files, unless the host fails in it: then `broken` is what is left of it. -/
def attempt (broken : Fault → Task Unit) (operation : Task Unit) : Task Unit := fun w =>
  match w.faults with
  | [] => operation w
  | none :: faults => operation { w with faults := faults }
  | some fault :: faults => broken fault { w with faults := faults }

/-- Does a path lead to a file or a directory? -/
def pathExists (path : Text) : Task Bool :=
  look fun w => !path.contains 0 && w.files.hasPath w.directory (Utf8.encode path)

/-- The message for a file that cannot be read.  A directory is only found out when its content is
asked for, and that message names no path. -/
def readError (path : Text) : Errno → Thrown
  | .isDirectory => .error (Errno.isDirectory.text ++ ", read")
  | e => systemError e "open" path

/-- The content of a file. -/
def readBytes (path : Text) : Task Bytes := do
  let bytes ← pathOf path
  ofExcept ((← look fun w => w.files.readFile w.directory bytes).mapError (readError path))

/-- The text of a file. -/
def readText (path : Text) : Task Text := do
  return Utf8.decode (← readBytes path)

/-- A content put into a file.  Where the host fails, a part of it is there if the file was opened. -/
def putBytes (path : Text) (put : Bytes → Task Unit) (content : Bytes) : Task Unit :=
  attempt (fun fault =>
    match fault.written with
    | none => fail (systemError fault.errno "open" path)
    | some count => do
      put (content.take count)
      fail (.error (fault.errno.text ++ ", write"))) (put content)

/-- Gives a file a content. -/
def writeBytes (path : Text) (content : Bytes) : Task Unit := do
  let bytes ← pathOf path
  putBytes path (fun part => change fun w =>
    (w.files.writeFile w.directory bytes part w.stamp).mapError (systemError · "open" path)) content

/-- Adds a content to the end of a file. -/
def appendBytes (path : Text) (content : Bytes) : Task Unit := do
  let bytes ← pathOf path
  putBytes path (fun part => change fun w =>
    (w.files.appendFile w.directory bytes part w.stamp).mapError (systemError · "open" path)) content

/-- May a path be both read and written? -/
def isAccessible (path : Text) : Task Bool :=
  look fun w =>
    match w.files.find w.directory (Utf8.encode path) with
    | .ok s => s.node.allows .read && s.node.allows .write
    | .error _ => false

/-- Makes a directory and those above it. -/
def makeDirectories (path : Text) : Task Unit := do
  let bytes ← pathOf path
  attempt (fun fault => fail (systemError fault.errno "mkdir" path)) <| changeWith fun w =>
    match w.files.makeDirectories w.directory bytes w.stamp with
    | (e?, files) => (e?.map (systemError · "mkdir" path), files)

/-- Puts a file in the place of another path. -/
def rename (source target : Text) : Task Unit := do
  let old ← pathFor "oldPath" source
  let new ← pathFor "newPath" target
  attempt (fun fault => fail (transferError fault.errno "rename" source target)) <| change fun w =>
    (w.files.rename w.directory old new w.stamp).mapError (transferError · "rename" source target)

/-- Removes whatever a path leads to. -/
def removePath (path : Text) : Task Unit := do
  let bytes ← pathOf path
  attempt (fun fault => fail (systemError fault.errno "rm" path)) <| changeWith fun w =>
    match w.files.removeAll w.directory bytes w.stamp with
    | (none, files) => (none, files)
    | (some e, files) => (some (systemError e.errno e.operation (Utf8.decode e.path)), files)

/-- Removes the file that a path leads to, if there is one. -/
def removeFile (path : Text) : Task Unit := do
  let bytes ← pathOf path
  attempt (fun fault => fail (systemError fault.errno "unlink" path)) <| changeWith fun w =>
    match w.files.find w.directory bytes with
    | .error .noEntry => (none, w.files)
    | .error e => (some (systemError e "lstat" path), w.files)
    | .ok s =>
      if s.node.isDirectory then
        (some (.error ("Path is a directory: rm returned EISDIR (is a directory) " ++ path)), w.files)
      else match w.files.removeEntry s w.stamp with
        | .ok files => (none, files)
        | .error e => (some (systemError e "unlink" path), w.files)

/-- The names in a directory. -/
def listDirectory (path : Text) : Task (List Text) := do
  let bytes ← pathOf path
  let names ← ofExcept ((← look fun w => w.files.list w.directory bytes).mapError
    (systemError · "scandir" path))
  return names.map Utf8.decode

/-- When a path was last changed. -/
def modifiedAt (path : Text) : Task Int := do
  let bytes ← pathOf path
  ofExcept ((← look fun w => (w.files.find w.directory bytes).map fun s => s.node.modified).mapError
    (systemError · "stat" path))

/-- Copies a file. -/
def copyFile (source target : Text) : Task Unit := do
  let old ← pathFor "src" source
  let new ← pathFor "dest" target
  attempt (fun fault => fail (transferError fault.errno "copyfile" source target)) <|
    changeWith fun w =>
    match w.files.copyFile w.directory old new w.stamp with
    | (e?, files) => (e?.map (transferError · "copyfile" source target), files)

/-! ## Time -/

/-- The time of the clock. -/
def now : Task Number := look World.clock

/-! ## Chance -/

/-- The next random bytes, which are not given out again. -/
def randomBytes (count : Nat) : Task Bytes := fun w =>
  (.ok ((List.range count).map w.random), { w with random := fun n => w.random (n + count) })

end Task

end SurfaceGuard
