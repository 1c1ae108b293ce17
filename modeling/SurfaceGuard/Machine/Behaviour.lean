import SurfaceGuard.Host.FileTree
import SurfaceGuard.Machine.Signal

/-!
# Behaviours

What a process does is a tree: it ends, or asks the system for something and goes on in a
way that depends on the reply, or splits into two.  Nothing else of a program is visible to
the machine that it runs on, and the machine decides when each process takes its next step.
-/

namespace SurfaceGuard

/-- How a process has ended. -/
inductive Status where
  | exited (code : Nat)
  | killed (signal : Signal)
  deriving DecidableEq, Repr

/-- What a process wants to be done with a signal. -/
inductive Disposition where
  | default
  | ignore
  | catch
  deriving DecidableEq, Repr

/-- How long a process waits for the end of a child. -/
inductive Patience where
  /-- Not at all. -/
  | none
  /-- Until a child ends. -/
  | untilEnd
  /-- Until a child ends or a signal is caught. -/
  | untilSignal
  deriving DecidableEq, Repr

/-- The kinds of things that a path or a descriptor leads to. -/
inductive Kind where
  | file
  | directory
  | device
  | pipe
  | socket
  deriving DecidableEq, Repr

/-- What a process is told about a node. -/
structure Info where
  kind : Kind
  serial : Nat
  mode : Nat
  size : Nat
  modified : Int
  deriving DecidableEq, Repr

/-- What is told about a node of the files. -/
def Info.ofNode (n : Node) : Info where
  kind := match n with
    | .directory .. => .directory
    | .device .. => .device
    | _ => .file
  serial := n.attributes.serial
  mode := n.attributes.mode
  size := n.size
  modified := n.modified

/-- What a process can ask the system for. -/
inductive Request where
  /-- To let time pass while the process works. -/
  | work (duration : Nat)
  /-- What time it is. -/
  | clock
  | openFile (path : Bytes) (access : Access) (mode : Nat)
  | close (descriptor : Nat)
  /-- A second descriptor for the same thing, not below the least one, that no program inherits. -/
  | duplicate (descriptor least : Nat)
  /-- To let one descriptor lead to where another one leads. -/
  | redirect (source target : Nat)
  | pipe
  | read (descriptor count : Nat)
  | write (descriptor : Nat) (bytes : Bytes)
  | inspect (path : Bytes)
  | inspectOpen (descriptor : Nat)
  /-- How far the thing that a descriptor leads to was read or written. -/
  | position (descriptor : Nat)
  | mayUse (path : Bytes) (permission : Permission)
  | listDirectory (path : Bytes)
  | makeDirectory (path : Bytes) (mode : Nat)
  | changeMode (path : Bytes) (mode : Nat)
  | changeDirectory (path : Bytes)
  | currentDirectory
  /-- To set which permissions are withheld from new files, which replies with the former ones. -/
  | setMask (mask : Nat)
  /-- The number of the process and of the one that made it. -/
  | identify
  /-- To send a signal to a process, or to a group if the number is negative or zero. -/
  | sendSignal (target : Int) (number : Nat)
  /-- To choose what is done with a signal, which replies with the former choice. -/
  | handle (signal : Signal) (disposition : Disposition)
  /-- The signals that were caught since this was last asked. -/
  | takeCaught
  /-- To wait for the end of a child. -/
  | await (patience : Patience)
  | sleepUntil (time : Nat)
  /-- To become another program. -/
  | execute (path : Bytes) (arguments environment : List Bytes)

/-- What the system replies to a request. -/
def Request.Reply : Request → Type
  | work _ => Unit
  | clock => Nat
  | openFile .. => Except Errno Nat
  | close _ => Except Errno Unit
  | duplicate .. => Except Errno Nat
  | redirect .. => Except Errno Unit
  | pipe => Nat × Nat
  | read .. => Except Errno Bytes
  | write .. => Except Errno Nat
  | inspect _ => Except Errno Info
  | inspectOpen _ => Except Errno Info
  | position _ => Except Errno Nat
  | mayUse .. => Bool
  | listDirectory _ => Except Errno (List Bytes)
  | makeDirectory .. => Except Errno Unit
  | changeMode .. => Except Errno Unit
  | changeDirectory _ => Except Errno Unit
  | currentDirectory => Except Errno Bytes
  | setMask _ => Nat
  | identify => Nat × Nat
  | sendSignal .. => Except Errno Unit
  | handle .. => Disposition
  | takeCaught => List Signal
  | await _ => Except Errno (Option (Nat × Status))
  | sleepUntil _ => Except Errno Unit
  | execute .. => Errno

/-- What a process does from now on. -/
inductive Behaviour where
  | exit (code : Nat)
  | call (request : Request) (next : request.Reply → Behaviour)
  /-- The process goes on with the number of a child that behaves in its own way. -/
  | fork (child : Behaviour) (next : Nat → Behaviour)

/-- A part of a program: what it does depends on what is done with its result. -/
def Act (α : Type) := (α → Behaviour) → Behaviour

namespace Act

variable {α β : Type}

/-- Nothing is done. -/
def done (a : α) : Act α := fun next => next a

/-- One part after the other. -/
def andThen (a : Act α) (f : α → Act β) : Act β := fun next => a fun x => f x next

instance : Monad Act where
  pure := done
  bind := andThen

/-- The reply to a request. -/
def ask (r : Request) : Act r.Reply := fun next => .call r next

/-- The process ends, whatever was to be done next. -/
def exit (code : Nat) : Act α := fun _ => .exit code

/-- The whole behaviour of a program that ends with a code. -/
def toBehaviour (a : Act Nat) : Behaviour := a fun code => .exit code

/-- Writes bytes until all are written, or a write fails. -/
def writeAll (descriptor : Nat) : Nat → Bytes → Act (Except Errno Unit)
  | 0, _ => done (.ok ())
  | fuel + 1, bytes =>
    if bytes.isEmpty then done (.ok ())
    else do
      match ← ask (.write descriptor bytes) with
      | .error e => done (.error e)
      | .ok n => writeAll descriptor fuel (bytes.drop n)

/-- Writes bytes to a descriptor. -/
def write (descriptor : Nat) (bytes : Bytes) : Act (Except Errno Unit) :=
  writeAll descriptor (bytes.length + 1) bytes

end Act

end SurfaceGuard
