import SurfaceGuard.Machine.Behaviour

/-!
# Processes and what they share

A machine has files, a clock, a table of processes, and the open descriptions through which
the descriptors of processes lead to files, pipes and the two streams of the guard.  Each
process is ready for its next step at a time of its own.
-/

namespace SurfaceGuard

/-- The two output streams of a command. -/
inductive OutputStream where
  | stdout
  | stderr
  deriving DecidableEq, Repr

/-- What an open description leads to. -/
inductive Channel where
  | file (place : Place) (access : Access)
  | directory (place : Place)
  | device (kind : Device)
  | reader (pipe : Nat)
  | writer (pipe : Nat)
  /-- A stream that the guard reads. -/
  | output (stream : OutputStream)
  deriving DecidableEq, Repr

/-- An open description: where it leads, and how far a file was read or written. -/
structure Description where
  id : Nat
  channel : Channel
  offset : Nat
  deriving DecidableEq, Repr

/-- A descriptor of a process. -/
structure Descriptor where
  number : Nat
  description : Nat
  /-- Is it closed when the process becomes another program? -/
  isPrivate : Bool
  deriving DecidableEq, Repr

/-- The bytes in a pipe: the pieces to be read first, and those written last, the last one first. -/
structure Pipe where
  id : Nat
  front : List Bytes
  back : List Bytes
  size : Nat
  deriving DecidableEq, Repr

namespace Pipe

/-- How many bytes a pipe holds. -/
def capacity : Nat := 65536

/-- Up to how many bytes a write is not torn apart. -/
def whole : Nat := 4096

/-- How many bytes have room in the pipe. -/
def room (p : Pipe) : Nat := capacity - p.size

/-- The pipe with bytes written to it. -/
def push (p : Pipe) (bytes : Bytes) : Pipe :=
  { p with back := bytes :: p.back, size := p.size + bytes.length }

/-- The first bytes of pieces, at most so many, and the pieces without them. -/
def takeFront : Nat → List Bytes → Bytes × List Bytes
  | _, [] => ([], [])
  | 0, pieces => ([], pieces)
  | n, piece :: rest =>
    if piece.length ≤ n then
      let (bytes, rest) := takeFront (n - piece.length) rest
      (piece ++ bytes, rest)
    else (piece.take n, piece.drop n :: rest)
termination_by _ pieces => pieces.length

/-- The first bytes of the pipe, at most so many, and the pipe without them. -/
def pop (p : Pipe) (count : Nat) : Bytes × Pipe :=
  let pieces := if p.front.isEmpty then p.back.reverse else p.front
  let back := if p.front.isEmpty then [] else p.back
  let (bytes, front) := takeFront count pieces
  (bytes, { p with front := front, back := back, size := p.size - bytes.length })

end Pipe

/-- What a process is doing. -/
inductive Activity where
  | running
  /-- Its request cannot be answered yet. -/
  | waiting
  /-- It waits for a time. -/
  | sleeping
  /-- It was stopped by a signal. -/
  | stopped
  /-- It has ended, and nobody has asked how. -/
  | ended (status : Status)
  deriving DecidableEq, Repr

/-- A process. -/
structure Process where
  id : Nat
  parent : Nat
  group : Nat
  behaviour : Behaviour
  activity : Activity
  /-- When the process takes its next step. -/
  ready : Nat
  descriptors : List Descriptor
  directory : Place
  /-- The permissions that are withheld from new files. -/
  mask : Nat
  /-- What is done with the signals that are not left to the system. -/
  dispositions : List (Signal × Disposition)
  /-- The signals that were caught and not looked at yet. -/
  caught : List Signal
  /-- The signals that wait until the process goes on. -/
  held : List Signal
  /-- Was a signal caught while the process waited? -/
  isDisturbed : Bool
  /-- The signal that ends the process as soon as it takes its next step. -/
  doom? : Option Signal

namespace Process

/-- Has the process not ended? -/
def isAlive (p : Process) : Bool :=
  match p.activity with
  | .ended _ => false
  | _ => true

/-- What the process does with a signal. -/
def disposition (p : Process) (s : Signal) : Disposition := (p.dispositions.lookup s).getD .default

/-- The descriptor with a number. -/
def descriptor? (p : Process) (number : Nat) : Option Descriptor :=
  p.descriptors.find? (·.number == number)

/-- The process without a descriptor. -/
def withoutDescriptor (p : Process) (number : Nat) : Process :=
  { p with descriptors := p.descriptors.filter (·.number ≠ number) }

/-- The process with a descriptor, in the place of the one with its number. -/
def withDescriptor (p : Process) (d : Descriptor) : Process :=
  { p with descriptors := d :: (p.withoutDescriptor d.number).descriptors }

/-- The least number from one on that no descriptor has. -/
def freeFrom (p : Process) : Nat → Nat → Nat
  | 0, least => least
  | fuel + 1, least =>
    if (p.descriptor? least).isSome then freeFrom p fuel (least + 1) else least

/-- The least number from one on that no descriptor has. -/
def freeNumber (p : Process) (least : Nat) : Nat := p.freeFrom p.descriptors.length least

end Process

/-- A machine. -/
structure Machine where
  files : FileTree
  /-- The time in microseconds since the machine was started. -/
  time : Nat
  /-- The time of the world when the machine was started, in nanoseconds. -/
  epoch : Int
  processes : List Process
  descriptions : List Description
  pipes : List Pipe
  nextProcess : Nat
  nextOpen : Nat
  /-- What was written to the guard, the last first. -/
  written : List (Nat × OutputStream × Bytes)

namespace Machine

/-- How finely the times of changes are told apart, in microseconds. -/
def tick : Nat := 4000

/-- The time that a change is stamped with. -/
def stamp (m : Machine) : Int := m.epoch + (m.time / tick * tick * 1000 : Nat)

/-- The machine after some time. -/
def later (m : Machine) (duration : Nat) : Machine := { m with time := m.time + duration }

/-! ## Processes -/

/-- The process with a number. -/
def process? (m : Machine) (id : Nat) : Option Process := m.processes.find? (·.id == id)

/-- The machine with a changed process. -/
def withProcess (m : Machine) (p : Process) : Machine :=
  { m with processes := m.processes.map fun q => if q.id = p.id then p else q }

/-- The machine with a process changed in some way. -/
def changeProcess (m : Machine) (id : Nat) (f : Process → Process) : Machine :=
  { m with processes := m.processes.map fun q => if q.id = id then f q else q }

/-! ## Descriptions -/

/-- The description with a number. -/
def description? (m : Machine) (id : Nat) : Option Description :=
  m.descriptions.find? (·.id == id)

/-- The description that a descriptor of a process leads to. -/
def opened? (m : Machine) (p : Process) (number : Nat) : Option Description :=
  (p.descriptor? number).bind fun d => m.description? d.description

/-- The machine with another offset in a description. -/
def setOffset (m : Machine) (id offset : Nat) : Machine :=
  { m with descriptions := m.descriptions.map fun d =>
      if d.id = id then { d with offset := offset } else d }

/-- Does a descriptor of a living process lead to the description? -/
def isUsed (m : Machine) (id : Nat) : Bool :=
  m.processes.any fun p => p.isAlive && p.descriptors.any (·.description == id)

/-- Does a description with such a channel still lead somewhere? -/
def hasChannel (m : Machine) (c : Channel) : Bool :=
  m.descriptions.any fun d => d.channel == c && m.isUsed d.id

/-- The machine with a new description. -/
def addDescription (m : Machine) (c : Channel) : Nat × Machine :=
  (m.nextOpen, { m with
    nextOpen := m.nextOpen + 1
    descriptions := ⟨m.nextOpen, c, 0⟩ :: m.descriptions })

/-- Is the channel an end of the pipe? -/
def isEndOf (pipe : Nat) (c : Channel) : Bool := c == .reader pipe || c == .writer pipe

/-- The machine without the descriptions that no process uses, and without the pipes that have no
ends any more. -/
def tidy (m : Machine) : Machine :=
  let used := m.descriptions.filter fun d => m.isUsed d.id
  { m with
    descriptions := used
    pipes := m.pipes.filter fun p => used.any fun d => isEndOf p.id d.channel }

/-- The pipe with a number. -/
def pipe? (m : Machine) (id : Nat) : Option Pipe := m.pipes.find? (·.id == id)

/-- The machine with a changed pipe. -/
def withPipe (m : Machine) (p : Pipe) : Machine :=
  { m with pipes := m.pipes.map fun q => if q.id = p.id then p else q }

/-! ## Waiting -/

/-- How long it takes a process to notice that it need not wait any more, in microseconds. -/
def wakeUp : Nat := 30

/-- How long it takes to end a process, in microseconds. -/
def endDuration : Nat := 60

/-- The machine after something happened that a waiting process may wait for. -/
def wakeAll (m : Machine) : Machine :=
  { m with processes := m.processes.map fun p =>
      if p.activity = .waiting then { p with activity := .running, ready := m.time + wakeUp } else p }

end Machine

end SurfaceGuard
