import SurfaceGuard.Machine.Process

/-!
# Requests about files and descriptors

How a machine answers the requests of a process that have to do with files, descriptors and
pipes.  A request either is answered, or has to wait until something happens.
-/

namespace SurfaceGuard.Machine

/-- What becomes of a request. -/
inductive Outcome (α : Type) where
  /-- It is answered, and the process has worked for some time. -/
  | reply (answer : α) (cost : Nat) (m : Machine)
  /-- It has to wait until something happens, or at most until a time. -/
  | wait (until? : Option Nat) (m : Machine)
  /-- The process does not go on in this way. -/
  | gone (m : Machine)

/-! ## Opening files -/

/-- A new descriptor of a process that leads to a channel. -/
def install (m : Machine) (p : Process) (c : Channel) : Nat × Machine :=
  let (id, m) := m.addDescription c
  let number := p.freeNumber 0
  (number, m.withProcess (p.withDescriptor ⟨number, id, false⟩))

/-- The channel to a node that was opened. -/
def channelOf (s : Spot) (a : Access) : Channel :=
  match s.node with
  | .directory .. => .directory s.place
  | .device _ kind => .device kind
  | _ => .file s.place a

/-- The channel that opening the descriptor of a process once more leads to; a stream of the guard
cannot be opened. -/
def reopen (m : Machine) (p : Process) (number : Nat) (a : Access) :
    Except Errno (Channel × Machine) :=
  match m.opened? p number with
  | none => .error .noEntry
  | some d =>
    match d.channel with
    | .output _ => .error .noDevice
    | .reader pipe => .ok (if a.writing then .writer pipe else .reader pipe, m)
    | .writer pipe => .ok (if a.writing then .writer pipe else .reader pipe, m)
    | .directory place => if a.writing then .error .isDirectory else .ok (.directory place, m)
    | .device kind => .ok (.device kind, m)
    | .file place _ =>
      match FileTree.spotFrom m.files.rootSpot place.location with
      | none => .error .noEntry
      | some s =>
        if FileTree.mayOpen s.node a then
          .ok (.file place a, { m with files := m.files.cutOff s a m.stamp })
        else .error .accessDenied

/-- A descriptor for the file that a path leads to. -/
def openFile (m : Machine) (p : Process) (path : Bytes) (a : Access) (mode : Nat) :
    Except Errno Nat × Machine :=
  match m.files.openFile p.directory path a (mode - (mode &&& p.mask)) m.stamp with
  | .error e => (.error e, m)
  | .ok (s, files) =>
    match s.node with
    | .device _ (.descriptor number) =>
      match m.reopen p number a with
      | .error e => (.error e, m)
      | .ok (c, m) => let (number, m) := m.install p c; (.ok number, m)
    | .device _ .terminal => (.error .noDevice, m)
    | _ => let (number, m) := { m with files := files }.install p (channelOf s a); (.ok number, m)

/-! ## Descriptors -/

/-- The machine after a process closed a descriptor. -/
def close (m : Machine) (p : Process) (number : Nat) : Except Errno Unit × Machine :=
  if (p.descriptor? number).isSome then
    (.ok (), (m.withProcess (p.withoutDescriptor number)).tidy.wakeAll)
  else (.error .badDescriptor, m)

/-- A second descriptor for the same description. -/
def duplicate (m : Machine) (p : Process) (number least : Nat) : Except Errno Nat × Machine :=
  match p.descriptor? number with
  | none => (.error .badDescriptor, m)
  | some d =>
    let free := p.freeNumber least
    (.ok free, m.withProcess (p.withDescriptor ⟨free, d.description, true⟩))

/-- One descriptor made to lead to where another one leads. -/
def redirect (m : Machine) (p : Process) (source target : Nat) : Except Errno Unit × Machine :=
  match p.descriptor? source with
  | none => (.error .badDescriptor, m)
  | some d =>
    if source = target then (.ok (), m)
    else (.ok (), (m.withProcess (p.withDescriptor ⟨target, d.description, false⟩)).tidy.wakeAll)

/-- A new pipe, and the descriptors of its two ends. -/
def makePipe (m : Machine) (p : Process) : (Nat × Nat) × Machine :=
  let id := m.nextOpen
  let m := { m with nextOpen := id + 1, pipes := ⟨id, [], [], 0⟩ :: m.pipes }
  let (reader, m) := m.install p (.reader id)
  let (writer, m) := m.install ((m.process? p.id).getD p) (.writer id)
  ((reader, writer), m)

/-! ## Reading and writing -/

/-- Bytes read from a descriptor; none at the end of a file, and of a pipe that nobody writes to. -/
def read (m : Machine) (p : Process) (number count : Nat) : Outcome (Except Errno Bytes) :=
  match m.opened? p number with
  | none => .reply (.error .badDescriptor) 1 m
  | some d =>
    match d.channel with
    | .file place a =>
      if !a.reading then .reply (.error .badDescriptor) 1 m
      else
        let bytes := (((m.files.contentAt? place).getD []).drop d.offset).take count
        .reply (.ok bytes) 2 (m.setOffset d.id (d.offset + bytes.length))
    | .directory _ => .reply (.error .isDirectory) 1 m
    | .device .zero => .reply (.ok (List.replicate count 0)) 2 m
    | .device .full => .reply (.ok (List.replicate count 0)) 2 m
    | .device _ => .reply (.ok []) 1 m
    | .writer _ => .reply (.error .badDescriptor) 1 m
    | .output _ => .reply (.ok []) 1 m
    | .reader id =>
      match m.pipe? id with
      | none => .reply (.ok []) 1 m
      | some pipe =>
        if pipe.size = 0 then
          if m.hasChannel (.writer id) then
            if p.isDisturbed then .reply (.error .interrupted) 1 m else .wait none m
          else .reply (.ok []) 1 m
        else
          let (bytes, pipe) := pipe.pop count
          .reply (.ok bytes) 2 (m.withPipe pipe).wakeAll

/-- Bytes put into a content at an offset; a gap before them is filled with zeros. -/
def overwrite (content : Bytes) (offset : Nat) (bytes : Bytes) : Bytes :=
  let front := content.take offset
  front ++ List.replicate (offset - front.length) 0 ++ bytes ++ content.drop (offset + bytes.length)

/-- How many bytes were written to a descriptor.  A pipe that nobody reads refuses them. -/
def write (m : Machine) (p : Process) (number : Nat) (bytes : Bytes) : Outcome (Except Errno Nat) :=
  match m.opened? p number with
  | none => .reply (.error .badDescriptor) 1 m
  | some d =>
    match d.channel with
    | .file place a =>
      if !a.writing then .reply (.error .badDescriptor) 1 m
      else
        let content := (m.files.contentAt? place).getD []
        let offset := if a.appending then content.length else d.offset
        let files := m.files.setContentAt place (overwrite content offset bytes) m.stamp
        .reply (.ok bytes.length) 2 ({ m with files := files }.setOffset d.id (offset + bytes.length))
    | .directory _ => .reply (.error .badDescriptor) 1 m
    | .device .full => .reply (.error .noSpace) 1 m
    | .device _ => .reply (.ok bytes.length) 1 m
    | .reader _ => .reply (.error .badDescriptor) 1 m
    | .output stream =>
      .reply (.ok bytes.length) 2 { m with written := (m.time, stream, bytes) :: m.written }
    | .writer id =>
      match m.pipe? id with
      | none => .reply (.error .brokenPipe) 1 m
      | some pipe =>
        if !m.hasChannel (.reader id) then .reply (.error .brokenPipe) 1 m
        else if pipe.room = 0 || (pipe.room < bytes.length && bytes.length ≤ Pipe.whole) then
          if p.isDisturbed then .reply (.error .interrupted) 1 m else .wait none m
        else
          let part := bytes.take pipe.room
          .reply (.ok part.length) 2 (m.withPipe (pipe.push part)).wakeAll

/-! ## Looking at files -/

/-- What is told about the thing that a channel leads to. -/
def infoOf (m : Machine) : Channel → Info
  | .file place _ => infoAt place
  | .directory place => infoAt place
  | .device _ => ⟨.device, 0, 0o666, 0, 0⟩
  | .reader id => ⟨.pipe, id, 0o600, 0, 0⟩
  | .writer id => ⟨.pipe, id, 0o600, 0, 0⟩
  | .output _ => ⟨.socket, 0, 0o777, 0, 0⟩
where
  /-- What is told about the node at a place. -/
  infoAt (place : Place) : Info :=
    match m.files.node? place.location with
    | some n => Info.ofNode n
    | none => ⟨.file, place.serial, 0o644, 0, 0⟩

/-- What is told about the node that a path leads to. -/
def inspect (m : Machine) (p : Process) (path : Bytes) : Except Errno Info := do
  let s ← m.files.find p.directory path
  match s.node with
  | .device _ (.descriptor number) =>
    match m.opened? p number with
    | some d => .ok (m.infoOf d.channel)
    | none => .error .noEntry
  | n => .ok (Info.ofNode n)

/-- What is told about the thing that a descriptor leads to. -/
def inspectOpen (m : Machine) (p : Process) (number : Nat) : Except Errno Info :=
  match m.opened? p number with
  | some d => .ok (m.infoOf d.channel)
  | none => .error .badDescriptor

/-- How far the thing that a descriptor leads to was read or written. -/
def position (m : Machine) (p : Process) (number : Nat) : Except Errno Nat :=
  match m.opened? p number with
  | some d => .ok d.offset
  | none => .error .badDescriptor

/-- May the process use what a path leads to in a way? -/
def mayUse (m : Machine) (p : Process) (path : Bytes) (permission : Permission) : Bool :=
  match m.files.find p.directory path with
  | .ok s => s.node.allows permission
  | .error _ => false

/-- The path of a location. -/
def pathOf (loc : Location) : Bytes :=
  FileTree.separator :: Ascii.join [FileTree.separator] loc

/-- The path of the directory of a process. -/
def currentDirectory (m : Machine) (p : Process) : Except Errno Bytes :=
  (fun s => pathOf s.location) <$> m.files.spotOf p.directory

/-- The machine after a directory was made. -/
def makeDirectory (m : Machine) (p : Process) (path : Bytes) (mode : Nat) :
    Except Errno Unit × Machine :=
  match m.files.makeDirectory p.directory path (mode - (mode &&& p.mask)) m.stamp with
  | .ok files => (.ok (), { m with files := files })
  | .error e => (.error e, m)

/-- The machine after the permissions of a node were changed. -/
def changeMode (m : Machine) (p : Process) (path : Bytes) (mode : Nat) :
    Except Errno Unit × Machine :=
  match m.files.find p.directory path with
  | .ok s =>
    (.ok (), { m with files := m.files.change s.location fun n =>
      n.withAttributes { n.attributes with mode := mode } })
  | .error e => (.error e, m)

/-- The machine after a process went to another directory. -/
def changeDirectory (m : Machine) (p : Process) (path : Bytes) : Except Errno Unit × Machine :=
  match m.files.findDirectory p.directory path with
  | .ok place => (.ok (), m.withProcess { p with directory := place })
  | .error e => (.error e, m)

end SurfaceGuard.Machine
