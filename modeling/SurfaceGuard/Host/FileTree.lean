import SurfaceGuard.Host.Node

/-!
# File trees

A file system as a value.  A path is looked up name by name from the root or from a
directory; every name on the way must be that of a directory that may be searched, and `..`
leads back to the directory above.  The last name need not be there, so that a node can be
made in its place.

A directory that is remembered is known by its location and its serial number: once it was
removed, no path leads on from it, even if another directory took its place.
-/

namespace SurfaceGuard

/-- A directory that is remembered. -/
structure Place where
  location : Location
  serial : Nat
  deriving DecidableEq, Repr

/-- A node with the way that leads to it: the names from the innermost to the outermost, each with
the directory in which it was found. -/
structure Spot where
  node : Node
  way : List (Bytes × Node)

namespace Spot

/-- The location of a spot. -/
def location (s : Spot) : Location := (s.way.map Prod.fst).reverse

/-- The place of a spot. -/
def place (s : Spot) : Place := ⟨s.location, s.node.attributes.serial⟩

/-- The spot of an entry. -/
def below (s : Spot) (name : Bytes) (child : Node) : Spot := ⟨child, (name, s.node) :: s.way⟩

/-- The spot of the directory above; the root is above itself. -/
def above (s : Spot) : Spot :=
  match s.way with
  | [] => s
  | (_, directory) :: way => ⟨directory, way⟩

end Spot

/-- What a path leads to. -/
inductive Found where
  | spot (s : Spot)
  /-- A name that is missing in a directory. -/
  | missing (directory : Spot) (name : Bytes)

/-- How a file is opened. -/
structure Access where
  reading : Bool := false
  writing : Bool := false
  appending : Bool := false
  create : Bool := false
  /-- Is a file that is there already refused? -/
  exclusive : Bool := false
  truncate : Bool := false
  deriving DecidableEq, Repr

namespace Access

/-- To read a file. -/
def toRead : Access := { reading := true }

/-- To give a file a new content. -/
def toWrite : Access := { writing := true, create := true, truncate := true }

/-- To add to the end of a file. -/
def toAppend : Access := { writing := true, appending := true, create := true }

end Access

/-- A file system. -/
structure FileTree where
  root : Node
  /-- The serial number of the next node. -/
  next : Nat

namespace FileTree

/-- The mode of directories that are made without asking for one. -/
def directoryMode : Nat := 0o755

/-- The mode of files that are made without asking for one. -/
def fileMode : Nat := 0o644

/-- A file system with nothing below its root. -/
def empty : FileTree := ⟨.directory ⟨0, directoryMode, 0⟩ [], 1⟩

/-- The node at a location. -/
def node? (t : FileTree) (loc : Location) : Option Node := t.root.find? loc

/-- The tree with a change made to the node at a location. -/
def change (t : FileTree) (loc : Location) (f : Node → Node) : FileTree :=
  { t with root := t.root.change f loc }

/-! ## Looking up paths -/

/-- How many bytes a name may have. -/
def nameLimit : Nat := 255

/-- How many bytes a path may have, with the zero that ends it. -/
def pathLimit : Nat := 4096

/-- The byte between the names of a path. -/
def separator : UInt8 := 0x2F

/-- The name of the same directory. -/
def here : Bytes := "."

/-- The name of the directory above. -/
def above : Bytes := ".."

/-- The spot of the root. -/
def rootSpot (t : FileTree) : Spot := ⟨t.root, []⟩

/-- The spot at a location below another one. -/
def spotFrom : Spot → Location → Option Spot
  | s, [] => some s
  | s, name :: rest => (s.node.entry? name).bind fun child => spotFrom (s.below name child) rest

/-- The spot of a remembered directory, unless it was removed. -/
def spotOf (t : FileTree) (p : Place) : Except Errno Spot :=
  match spotFrom t.rootSpot p.location with
  | some s => if s.node.attributes.serial = p.serial then .ok s else .error .noEntry
  | none => .error .noEntry

/-- What names lead to from a spot. -/
def walk : Spot → List Bytes → Except Errno Found
  | s, [] => .ok (.spot s)
  | s, name :: rest =>
    if !s.node.isDirectory then .error .notDirectory
    else if !s.node.allows .search then .error .accessDenied
    else if name = here then walk s rest
    else if name = above then walk s.above rest
    else if nameLimit < name.length then .error .nameTooLong
    else match s.node.entry? name with
      | some child => walk (s.below name child) rest
      | none => if rest.isEmpty then .ok (.missing s name) else .error .noEntry

/-- Does a path ask for a directory by a separator at its end? -/
def asksDirectory (path : Bytes) : Bool := path.getLast? == some separator

/-- What a path leads to, read from a directory if it does not start at the root. -/
def locate (t : FileTree) (base : Place) (path : Bytes) : Except Errno Found :=
  if path.isEmpty then .error .noEntry
  else if pathLimit ≤ path.length then .error .nameTooLong
  else do
    let start ← if path.head? = some separator then pure t.rootSpot else t.spotOf base
    walk start ((Ascii.splitOn separator path).filter (· ≠ []))

/-- The spot that a path leads to. -/
def find (t : FileTree) (base : Place) (path : Bytes) : Except Errno Spot := do
  match ← t.locate base path with
  | .missing .. => .error .noEntry
  | .spot s =>
    if asksDirectory path && !s.node.isDirectory then .error .notDirectory else .ok s

/-- Does a path lead to a node? -/
def hasPath (t : FileTree) (base : Place) (path : Bytes) : Bool :=
  match t.find base path with
  | .ok _ => true
  | .error _ => false

/-- The directory that a path leads to, as a place to look up other paths from. -/
def findDirectory (t : FileTree) (base : Place) (path : Bytes) : Except Errno Place := do
  let s ← t.find base path
  if !s.node.isDirectory then .error .notDirectory
  else if !s.node.allows .search then .error .accessDenied
  else .ok s.place

/-! ## Making and removing nodes -/

/-- The tree with a new node in a directory, and the spot of the new node. -/
def addEntry (t : FileTree) (directory : Spot) (name : Bytes) (make : Nat → Node) (time : Int) :
    Except Errno (Spot × FileTree) :=
  if directory.node.allows .write then
    let child := make t.next
    .ok (directory.below name child,
      { t.change directory.location (Node.withEntry name child time) with next := t.next + 1 })
  else .error .accessDenied

/-- The tree after a directory was made. -/
def makeDirectory (t : FileTree) (base : Place) (path : Bytes) (mode : Nat) (time : Int) :
    Except Errno FileTree := do
  match ← t.locate base path with
  | .spot _ => .error .alreadyThere
  | .missing directory name =>
    (·.2) <$> t.addEntry directory name (fun serial => .directory ⟨serial, mode, time⟩ []) time

/-- May a node be opened in a way? -/
def mayOpen (n : Node) (a : Access) : Bool :=
  (!a.reading || n.allows .read) && (!(a.writing || a.truncate) || n.allows .write)

/-- The content of a file cut off, if it is asked for. -/
def cutOff (t : FileTree) (s : Spot) (a : Access) (time : Int) : FileTree :=
  match s.node with
  | .file attributes _ =>
    if a.truncate then t.change s.location fun _ => .file { attributes with modified := time } []
    else t
  | _ => t

/-- The spot of the file that a path leads to, opened in some way, and the tree after that. -/
def openFile (t : FileTree) (base : Place) (path : Bytes) (a : Access) (mode : Nat) (time : Int) :
    Except Errno (Spot × FileTree) := do
  match ← t.locate base path with
  | .spot s =>
    if a.create && a.exclusive then .error .alreadyThere
    else if (a.create || a.writing) && s.node.isDirectory then .error .isDirectory
    else if asksDirectory path && !s.node.isDirectory then
      .error (if a.create then .isDirectory else .notDirectory)
    else if !mayOpen s.node a then .error .accessDenied
    else .ok (s, t.cutOff s a time)
  | .missing directory name =>
    if !a.create then .error .noEntry
    else if asksDirectory path then .error .isDirectory
    else t.addEntry directory name (fun serial => .file ⟨serial, mode, time⟩ []) time

/-- The content of a file that was opened, while it is still there. -/
def contentAt? (t : FileTree) (file : Place) : Option Bytes :=
  match t.node? file.location with
  | some (.file a content) => if a.serial = file.serial then some content else none
  | _ => none

/-- The tree with another content of a file that was opened, while it is still there. -/
def setContentAt (t : FileTree) (file : Place) (content : Bytes) (time : Int) : FileTree :=
  t.change file.location fun n =>
    match n with
    | .file a _ =>
      if a.serial = file.serial then .file { a with modified := time } content else n
    | n => n

/-- The tree without the entry that leads to a spot. -/
def removeEntry (t : FileTree) (s : Spot) (time : Int) : Except Errno FileTree :=
  match s.way with
  | [] => .error .busy
  | (name, directory) :: _ =>
    if directory.allows .write then
      .ok (t.change s.above.location (Node.withoutEntry name time))
    else .error .accessDenied

/-! ## Whole operations -/

/-- The content of a file; a directory is opened and then cannot be read. -/
def readFile (t : FileTree) (base : Place) (path : Bytes) : Except Errno Bytes := do
  let (s, _) ← t.openFile base path .toRead 0 0
  match s.node with
  | .file _ content => .ok content
  | .directory .. => .error .isDirectory
  | _ => .ok []

/-- The tree after a file was given a content; the file keeps the mode that it has. -/
def writeFile (t : FileTree) (base : Place) (path content : Bytes) (time : Int) :
    Except Errno FileTree := do
  let (s, t) ← t.openFile base path .toWrite fileMode time
  .ok (t.setContentAt s.place content time)

/-- The tree after a content was added to the end of a file. -/
def appendFile (t : FileTree) (base : Place) (path content : Bytes) (time : Int) :
    Except Errno FileTree := do
  let (s, t) ← t.openFile base path .toAppend fileMode time
  .ok (t.setContentAt s.place (((t.contentAt? s.place).getD []) ++ content) time)

/-- The tree after a file was copied with its mode.  What cannot be copied leaves no copy behind. -/
def copyFile (t : FileTree) (base : Place) (source target : Bytes) (time : Int) :
    Option Errno × FileTree :=
  let copied : Except Errno (Spot × Spot × FileTree) := do
    let (s, _) ← t.openFile base source .toRead 0 time
    let access : Access := { Access.toWrite with truncate := false }
    let (copy, t) ← t.openFile base target access s.node.attributes.mode time
    .ok (s, copy, t)
  match copied with
  | .error e => (some e, t)
  | .ok (s, copy, after) =>
    if s.place = copy.place then (none, t)
    else match s.node with
      | .file a content =>
        (none, after.change copy.location fun _ =>
          .file { a with serial := copy.node.attributes.serial, modified := time } content)
      | _ => (some .isDirectory, (after.removeEntry copy time).toOption.getD after)

/-- The names in the directory that a path leads to. -/
def list (t : FileTree) (base : Place) (path : Bytes) : Except Errno (List Bytes) := do
  let s ← t.find base path
  if !s.node.isDirectory then .error .notDirectory
  else if !s.node.allows .read then .error .accessDenied
  else .ok s.node.names

/-- The tree after a file took the place of another path. -/
def rename (t : FileTree) (base : Place) (source target : Bytes) (time : Int) :
    Except Errno FileTree := do
  let s ← t.find base source
  let move (directory : Spot) (name : Bytes) : Except Errno FileTree := do
    let t ← t.removeEntry s time
    if directory.node.allows .write then
      .ok (t.change directory.location (Node.withEntry name s.node time))
    else .error .accessDenied
  match ← t.locate base target with
  | .missing directory name =>
    if asksDirectory target && !s.node.isDirectory then .error .notDirectory
    else move directory name
  | .spot old =>
    if old.node.isDirectory && !s.node.isDirectory then .error .isDirectory
    else if s.node.isDirectory && !old.node.isDirectory then .error .notDirectory
    else if asksDirectory target && !old.node.isDirectory then .error .notDirectory
    else if !old.node.entries.isEmpty then .error .notEmpty
    else match old.way with
      | [] => .error .busy
      | (name, _) :: _ => move old.above name

/-! ### Directories with those above them -/

/-- The path of the directory in which the last name of a path is; the root and an empty path have
none above them. -/
def parentPath (path : Bytes) : Bytes :=
  let front := (path.reverse.dropWhile (· != separator))
  let front := (front.dropWhile (· == separator)).reverse
  if front.isEmpty && path.head? = some separator then [separator] else front

/-- The tree after the directories on a stack of paths were made, the topmost first, up to the one that
cannot be made.  Where the directory above is missing, it is put on the stack as well. -/
def makeStacked (base : Place) (time : Int) : Nat → List Bytes → FileTree → Option Errno × FileTree
  | 0, _, t => (some .noEntry, t)
  | _, [], t => (none, t)
  | fuel + 1, path :: rest, t =>
    match t.makeDirectory base path directoryMode time with
    | .ok t => makeStacked base time fuel rest t
    | .error .noEntry =>
      let parent := parentPath path
      if parent.isEmpty then
        if rest.isEmpty then (some .noEntry, t) else makeStacked base time fuel rest t
      else if parent = path then (some .alreadyThere, t)
      else makeStacked base time fuel (parent :: path :: rest) t
    | .error .accessDenied => (some .accessDenied, t)
    | .error .notDirectory => (some .notDirectory, t)
    | .error .notPermitted => (some .notPermitted, t)
    | .error e =>
      match t.find base path with
      | .error e => (some e, t)
      | .ok s =>
        if s.node.isDirectory then makeStacked base time fuel rest t
        else (some (if e = .alreadyThere && !rest.isEmpty then .notDirectory else .alreadyThere), t)

/-- The tree after a directory and all those above it were made, where they were missing. -/
def makeDirectories (t : FileTree) (base : Place) (path : Bytes) (time : Int) :
    Option Errno × FileTree :=
  makeStacked base time (2 * pathLimit + 2) [path] t

/-! ### Removing whatever is there -/

/-- Which step of a removal failed, and at which path. -/
structure RemoveError where
  errno : Errno
  operation : Text
  path : Bytes

/-- Folds a step that can fail over a list; the state is kept up to the failure. -/
def foldSteps {α ε : Type} (step : FileTree → α → Option ε × FileTree) :
    FileTree → List α → Option ε × FileTree
  | t, [] => (none, t)
  | t, a :: rest =>
    match step t a with
    | (none, t) => foldSteps step t rest
    | (some e, t) => (some e, t)

/-- Removes whatever a path leads to, with everything below it; the tree stays as it is where the
removal is refused. -/
def removeBelow (base : Place) (time : Int) : Nat → FileTree → Bytes → Option RemoveError × FileTree
  | 0, t, path => (some ⟨.nameTooLong, "rmdir", path⟩, t)
  | fuel + 1, t, path =>
    let remove (t : FileTree) (operation : Text) : Option RemoveError × FileTree :=
      match (t.find base path).bind (t.removeEntry · time) with
      | .ok t => (none, t)
      | .error .noEntry => (none, t)
      | .error e => (some ⟨e, operation, path⟩, t)
    match t.find base path with
    | .error .noEntry => (none, t)
    | .error e => (some ⟨e, "unlink", path⟩, t)
    | .ok s =>
      if !s.node.isDirectory then remove t "unlink"
      else if s.node.entries.isEmpty || (t.removeEntry s time).toOption.isNone then remove t "rmdir"
      else if !s.node.allows .read then (some ⟨.accessDenied, "scandir", path⟩, t)
      else
        match foldSteps (removeBelow base time fuel) t
            (s.node.names.map fun name => path ++ separator :: name) with
        | (none, t) => remove t "rmdir"
        | failed => failed

/-- Removes whatever a path leads to, with everything below it. -/
def removeAll (t : FileTree) (base : Place) (path : Bytes) (time : Int) :
    Option RemoveError × FileTree :=
  removeBelow base time pathLimit t path

end FileTree

end SurfaceGuard
