import SurfaceGuard.Machine.Behaviour
import SurfaceGuard.Shell.Syntax

/-!
# The state of a shell

A shell has variables, arguments, functions, aliases, traps and options, knows the jobs that
it has started, and remembers the status of the last command.

`Sh` is a part of what a shell does: it may change the state, ask the system for something,
and end with a result or by something raised, which is caught where a command was started
that may fail, and otherwise ends the shell.  It is written in terms of what is done next,
so that a shell is a behaviour like that of any program.
-/

namespace SurfaceGuard.Shell

/-! ## The parts of the state -/

/-- A variable; one without a value may still be exported or protected. -/
structure Variable where
  value? : Option Bytes
  isExported : Bool := false
  isReadOnly : Bool := false
  deriving DecidableEq, Repr

/-- What is kept about a variable that is changed for the duration of a command. -/
structure SavedVariable where
  name : Bytes
  former? : Option Variable

/-- The options of a shell. -/
inductive Flag where
  | stopOnError
  | noPathnames
  | ignoreEnd
  | interactive
  | monitor
  | noExecution
  | standardInput
  | traceCommands
  | traceInput
  | viLine
  | emacsLine
  | noClobber
  | exportAll
  | notify
  | refuseUnset
  | privileged
  | noLog
  | debug
  deriving DecidableEq, Repr

namespace Flag

/-- The options in order, each with its name and its letter. -/
def table : List (Flag × Bytes × Option UInt8) :=
  [(stopOnError, "errexit", some 0x65), (noPathnames, "noglob", some 0x66),
    (ignoreEnd, "ignoreeof", some 0x49), (interactive, "interactive", some 0x69),
    (monitor, "monitor", some 0x6D), (noExecution, "noexec", some 0x6E),
    (standardInput, "stdin", some 0x73), (traceCommands, "xtrace", some 0x78),
    (traceInput, "verbose", some 0x76), (viLine, "vi", some 0x56), (emacsLine, "emacs", some 0x45),
    (noClobber, "noclobber", some 0x43), (exportAll, "allexport", some 0x61),
    (notify, "notify", some 0x62), (refuseUnset, "nounset", some 0x75),
    (privileged, "privileged", some 0x70), (noLog, "nolog", none), (debug, "debug", none)]

/-- The option with a letter. -/
def ofLetter? (b : UInt8) : Option Flag := (table.find? fun e => e.2.2 == some b).map Prod.fst

/-- The option with a name. -/
def ofName? (name : Bytes) : Option Flag := (table.find? fun e => e.2.1 == name).map Prod.fst

end Flag

/-- What makes the shell pass over commands. -/
inductive Skip where
  | none
  | break_ (count : Nat)
  | continue_ (count : Nat)
  /-- The function ends with the status it was given. -/
  | function
  /-- The function ends with the status of its last command. -/
  | functionAsIs
  deriving DecidableEq, Repr

/-- A process of a job. -/
structure Member where
  id : Nat
  status? : Option Status
  deriving DecidableEq, Repr

/-- A job. -/
structure Job where
  number : Nat
  members : List Member
  /-- Did its state change since it was last shown? -/
  isChanged : Bool := false
  /-- Was it waited for? -/
  isWaited : Bool := false
  deriving DecidableEq, Repr

namespace Job

/-- Have all processes of the job ended? -/
def isDone (j : Job) : Bool := j.members.all (·.status?.isSome)

end Job

/-- Where a command was found. -/
structure Remembered where
  /-- Which of the directories that were looked through it is in. -/
  index : Nat
  /-- Has the shell changed its directory since? -/
  isStale : Bool
  deriving DecidableEq, Repr

/-- What the shell has told the system about a signal. -/
inductive SignalMode where
  | default
  | caught
  | ignored
  /-- The signal was ignored before the shell started, and stays so. -/
  | refused
  deriving DecidableEq, Repr

end Shell

/-- A shell. -/
structure Shell where
  /-- The name of the shell or of its script. -/
  name : Bytes
  /-- The line of the command that is run. -/
  line : Nat
  /-- The command that messages come from. -/
  command? : Option Bytes
  /-- The number of the first shell. -/
  processId : Nat
  arguments : List Bytes
  /-- Which argument is looked at for options next, and how far within it. -/
  optionIndex : Nat
  optionOffset : Option Nat
  bindings : List (Bytes × Shell.Variable)
  /-- The variables that get their former values back, by the command that changed them. -/
  saved : List (List Shell.SavedVariable)
  /-- The functions by their names. -/
  functions : List (Bytes × Shell.Tree)
  aliases : List (Bytes × Bytes)
  /-- What is done on signals, by their numbers; on the end of the shell under zero. -/
  traps : List (Nat × Bytes)
  modes : List (Signal × Shell.SignalMode)
  /-- The signals that were caught and not acted upon yet. -/
  pending : List Signal
  flags : List Shell.Flag
  status : Nat
  /-- The status of the last command substitution. -/
  substituted : Nat
  /-- The status with which the shell ends, whatever is done until then. -/
  final? : Option Nat
  skip : Shell.Skip
  loops : Nat
  jobs : List Shell.Job
  lastBackground? : Option Nat
  documents : Array Shell.Word
  /-- How many shells this one is inside of. -/
  level : Nat
  /-- How many functions are being run. -/
  depth : Nat
  /-- The directory as the user got to it, and as the system knows it. -/
  directory? : Option Bytes
  physical? : Option Bytes
  /-- Output that is not written yet, the last piece first. -/
  unwritten : List Bytes
  /-- Is the trace of a command being written? -/
  isTracing : Bool
  /-- The descriptors that get back what they led to, by the command that changed them: each with
  its copy, or without one if it was closed. -/
  redirected : List (List (Nat × Option Nat))
  /-- The commands that were found. -/
  remembered : List (Bytes × Shell.Remembered)

namespace Shell

/-- What is raised to end a command, or the shell. -/
inductive Raise where
  /-- A command failed in a way that ends a shell that is not interactive. -/
  | error
  /-- The shell was asked to end. -/
  | exit
  /-- The shell has come to its end. -/
  | finish
  deriving DecidableEq, Repr

/-- A part of what a shell does. -/
def Sh (α : Type) :=
  Shell → (α → Shell → Behaviour) → (Raise → Shell → Behaviour) → Behaviour

namespace Sh

variable {α β : Type}

/-- Nothing is done. -/
def done (a : α) : Sh α := fun s next _ => next a s

/-- One part after the other. -/
def andThen (p : Sh α) (f : α → Sh β) : Sh β := fun s next raised =>
  p s (fun a s => f a s next raised) raised

instance : Monad Sh where
  pure := done
  bind := andThen

/-- The state. -/
def get : Sh Shell := fun s next _ => next s s

/-- Changes the state. -/
def modify (f : Shell → Shell) : Sh Unit := fun s next _ => next () (f s)

/-- Something read off the state. -/
def look (f : Shell → α) : Sh α := fun s next _ => next (f s) s

/-- Ends a command, or the shell. -/
def raise (r : Raise) : Sh α := fun s _ raised => raised r s

/-- The part with its end as its result. -/
def attempt (p : Sh α) : Sh (Except Raise α) := fun s next _ =>
  p s (fun a s => next (.ok a) s) (fun r s => next (.error r) s)

/-- The reply to a request. -/
def ask (r : Request) : Sh r.Reply := fun s next _ => .call r fun a => next a s

/-- What a program does besides. -/
def lift (a : Act α) : Sh α := fun s next _ => a fun x => next x s

/-- The process ends. -/
def exitProcess (code : Nat) : Sh α := fun _ _ _ => .exit code

/-- Starts a process that does something else, and returns its number. -/
def fork (child : Sh Unit) : Sh Nat := fun s next _ =>
  .fork (child s (fun _ s => .exit s.status) fun _ s => .exit s.status) fun id => next id s

/-- Does something if a condition holds. -/
def whenever (c : Bool) (p : Sh Unit) : Sh Unit := if c then p else done ()

/-- Does something for each item, in order. -/
def each (f : α → Sh Unit) : List α → Sh Unit
  | [] => done ()
  | a :: rest => andThen (f a) fun _ => each f rest

/-- The results for the items, in order. -/
def mapList (f : α → Sh β) : List α → Sh (List β)
  | [] => done []
  | a :: rest => andThen (f a) fun b => andThen (mapList f rest) fun bs => done (b :: bs)

/-! ## Output and messages -/

/-- Writes bytes to a descriptor at once. -/
def writeTo (descriptor : Nat) (bytes : Bytes) : Sh (Except Errno Unit) :=
  lift (Act.write descriptor bytes)

/-- Adds bytes to the output of the command. -/
def print (bytes : Bytes) : Sh Unit := modify fun s =>
  if bytes.isEmpty then s else { s with unwritten := bytes :: s.unwritten }

/-- Writes the output of the command; says whether that worked. -/
def flush : Sh Bool := do
  let pieces ← look Shell.unwritten
  if pieces.isEmpty then return true
  else
    modify fun s => { s with unwritten := [] }
    match ← writeTo 1 pieces.reverse.flatten with
    | .ok () => return true
    | .error _ => return false

/-- A message with the place that it comes from in front. -/
def placed (s : Shell) (message : Bytes) : Bytes :=
  let command := match s.command? with
    | some c => c ++ ascii ": "
    | none => []
  s.name ++ ascii ": " ++ Ascii.ofNat s.line ++ ascii ": " ++ command ++ message
    ++ Ascii.newline

/-- Writes a message. -/
def warn (message : Bytes) : Sh Unit := do
  let _ ← writeTo 2 (placed (← get) message)

/-- Writes a message and fails with a status. -/
def failWith (status : Nat) (message : Bytes) (r : Raise) : Sh α := do
  modify fun s => { s with status }
  warn message
  let _ ← flush
  raise r

/-- Writes a message and fails. -/
def fail (message : Bytes) : Sh α := failWith 2 message .error

/-- Fails because a text is no number. -/
def badNumber (t : Bytes) : Sh α := fail (ascii "Illegal number: " ++ t)

/-! ## Options -/

/-- Is an option set? -/
def hasFlag (f : Flag) : Sh Bool := look fun s => s.flags.contains f

end Sh

/-- The shell with an option set or not. -/
def setFlag (f : Flag) (isOn : Bool) (s : Shell) : Shell :=
  { s with flags := (if isOn then [f] else []) ++ s.flags.filter (· ≠ f) }

end Shell

end SurfaceGuard
