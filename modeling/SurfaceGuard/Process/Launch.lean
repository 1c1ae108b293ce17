import SurfaceGuard.Process.Supervisor
import SurfaceGuard.Programs.Installation

/-!
# Launching commands

A command is looked up as the system does it: a bare name in the directories of programs, a
path where it leads to.  It is then started on the machine with nothing on its input, and
the machine runs until the command has ended and nothing that it started holds one of its
output streams.  What happened meanwhile is told to the supervisor, event by event, in the
order of time.

The time limit decides how long that may take: at the limit the command and what it started
are asked to terminate, and after the grace period they are killed.
-/

namespace SurfaceGuard.Launch

/-! ## Refused calls -/

/-- What is wrong with a call, if the system is not even asked. -/
def refusal? (argv : List Text) (cwd : Text) : Option Text :=
  match argv with
  | [] => some "The \"file\" argument must be of type string. Received undefined"
  | command :: args =>
    let zero (what t : Text) : Option Text :=
      if t.contains 0 then some (Inspected.withoutZeros what "a string" t) else none
    let empty : Option Text :=
      if command.isEmpty then some "The argument 'file' cannot be empty. Received ''" else none
    let badArgument := args.zipIdx.findSome? fun a =>
      zero ("argument 'args[" ++ Text.ofNat a.2 ++ "]'") a.1
    let badDirectory := if cwd.contains 0 then
      some (Inspected.pathWithoutZeros "property 'options.cwd'" cwd) else none
    zero "argument 'file'" command <|> empty <|> badArgument <|> badDirectory

/-- The message for a command that the system does not start. -/
def spawnError (command : Text) (e : Errno) : Text :=
  if e = .noEntry || e = .accessDenied then "spawn " ++ command ++ " " ++ e.code
  else "spawn " ++ e.code

/-! ## Looking up commands -/

/-- The name of the variable for the directories in which commands are looked for. -/
def pathName : Bytes := "PATH"

/-- The directories in which commands are looked for. -/
def directories (environment : List Bytes) : List Bytes :=
  let path? := environment.findSome? fun e =>
    if e.takeWhile (· != 0x3D) = pathName then some (e.drop (pathName.length + 1)) else none
  Ascii.splitOn 0x3A (path?.getD Programs.Installation.searchPath)

/-- What the file at a path stands for; one that is no program is a script of the shell. -/
def invocationAt (w : World) (directory : Place) (arguments : List Bytes) (path : Bytes) :
    Except Errno Machine.Invocation :=
  match w.resolve directory path arguments w.environment with
  | .error .notExecutable =>
    let shell := Shell.Lookup.shellPath
    w.resolve directory shell (shell :: path :: arguments.drop 1) w.environment
  | r => r

/-- What a name stands for in the first directory that has it. -/
def invocationIn (w : World) (directory : Place) (arguments : List Bytes) (name : Bytes) :
    Errno → List Bytes → Except Errno Machine.Invocation
  | e, [] => .error e
  | e, front :: rest =>
    match invocationAt w directory arguments (Shell.Lookup.pathIn front name) with
    | .error .noEntry => invocationIn w directory arguments name e rest
    | .error .notDirectory => invocationIn w directory arguments name e rest
    | .error .accessDenied => invocationIn w directory arguments name .accessDenied rest
    | r => r

/-- What a command stands for in a directory. -/
def invocation (w : World) (directory : Place) (command : Bytes) (args : List Bytes) :
    Except Errno Machine.Invocation :=
  if command.contains FileTree.separator then invocationAt w directory (command :: args) command
  else if FileTree.nameLimit < command.length then .error .nameTooLong
  else invocationIn w directory (command :: args) command .noEntry (directories w.environment)

/-- The directory in which a command is to run; an empty path is the current one. -/
def directoryAt (w : World) (cwd : Text) : Except Errno Place :=
  if cwd.isEmpty then .ok w.directory else w.files.findDirectory w.directory (Utf8.encode cwd)

/-! ## Running -/

/-- How many steps a machine may take for a command. -/
def fuel : Nat := Nat.pow 2 40

/-- How long it takes until a command does something, in microseconds. -/
def startUp : Nat := 2000

/-- The permissions that are withheld from the files of commands. -/
def mask : Nat := 0o022

/-- A command that was started. -/
structure Started where
  process : Nat
  /-- The descriptions of its output streams. -/
  stdout : Nat
  stderr : Nat
  /-- When it was started. -/
  time : Nat

/-- Starts a command. -/
def start (w : World) (directory : Place) (call : Machine.Invocation) : Started × Machine :=
  let time := (w.time + Machine.tick - 1) / Machine.tick * Machine.tick
  let m : Machine := { w.toMachine with time := time, written := [] }
  let (stdin, m) := m.addDescription (.device .null)
  let (stdout, m) := m.addDescription (.output .stdout)
  let (stderr, m) := m.addDescription (.output .stderr)
  let id := m.nextProcess
  let p : Process :=
    { id, parent := w.processId, group := id
      behaviour := Programs.Installation.load call.program call.arguments w.environment
      activity := .running, ready := time + startUp
      descriptors := [⟨0, stdin, false⟩, ⟨1, stdout, false⟩, ⟨2, stderr, false⟩]
      directory, mask, dispositions := [], caught := [], held := [], isDisturbed := false
      doom? := none }
  (⟨id, stdout, stderr, time⟩, { m with nextProcess := id + 1, processes := m.processes ++ [p] })

/-- Has a command ended, with its streams closed? -/
def hasClosed (s : Started) (m : Machine) : Bool :=
  (m.process? s.process).all (!·.isAlive) && !m.isUsed s.stdout && !m.isUsed s.stderr

/-- The exit code of a command; one that was ended by a signal has none. -/
def exitCode? (s : Started) (m : Machine) : Option Nat :=
  match (m.process? s.process).map Process.activity with
  | some (.ended (.exited code)) => some code
  | _ => none

/-- The machine without a command that has ended. -/
def reap (s : Started) (m : Machine) : Machine :=
  { m with processes := m.processes.filter (·.id ≠ s.process), written := [] }

/-! ## Events -/

/-- How long output is collected before it is looked at, in microseconds. -/
def pollDuration : Nat := 10000

/-- The pieces of output that arrive together: those that follow the first one soon. -/
def gather : Option (Nat × Bytes) → List (Nat × Bytes) → List (Nat × Bytes)
  | none, [] => []
  | some chunk, [] => [chunk]
  | none, e :: rest => gather (some e) rest
  | some (time, bytes), e :: rest =>
    if e.1 ≤ time + pollDuration then gather (some (time, bytes ++ e.2)) rest
    else (time, bytes) :: gather (some e) rest

/-- What happened on one stream, with the time. -/
def outputOn (stream : OutputStream) (m : Machine) : List (Nat × ProcessEvent) :=
  let pieces := m.written.reverse.filterMap fun e => if e.2.1 = stream then some (e.1, e.2.2) else none
  (gather none pieces).map fun e => (e.1, .output stream e.2)

/-- What happened in the life of a command, in the order of time. -/
def events (s : Started) (m : Machine) (termAt killAt : Nat) : List ProcessEvent :=
  let timers := [(termAt, .timeout), (killAt, .graceOver)].filter fun (e : Nat × ProcessEvent) =>
    e.1 ≤ m.time
  let all := timers ++ outputOn .stdout m ++ outputOn .stderr m
  (all.mergeSort fun a b => a.1 ≤ b.1).map Prod.snd ++ [.closed (exitCode? s m)]

/-- How a command that cannot be started ends. -/
def refuse (message : Text) : Ending :=
  ((Supervisor.start false).step (.failed message)).ending?.getD (.failed message)

/-- How a command ends, and the world after it.  Timers run `pace` times as fast as they should,
which does not change what they are said to wait for. -/
def run (pace : Nat) (command : Text) (args : List Text) (cwd : Text) (timeoutMs : Number)
    (w : World) : Ending × World :=
  let found := do
    let directory ← directoryAt w cwd
    return (directory, ← invocation w directory (Utf8.encode command) (args.map Utf8.encode))
  match found with
  | .error e => (refuse (spawnError command e), w)
  | .ok (directory, call) =>
    let (s, m) := start w directory call
    let termAt := s.time + max 1000 (timerDelay timeoutMs * 1000 / pace)
    let killAt := termAt + gracePeriod * 1000 / pace
    let m := m.runUntil Programs.Installation.load (hasClosed s) fuel
      [⟨termAt, s.process, .terminate⟩, ⟨killAt, s.process, .kill⟩]
    let watch := (Supervisor.start true).run (events s m termAt killAt)
    (watch.ending?.getD (.failed []), { w with toMachine := reap s m })

/-- The launcher that runs commands on the machine of the world. -/
def launcher (pace : Nat) : Launcher := fun argv cwd timeoutMs w =>
  match refusal? argv cwd, argv with
  | some message, _ => (.error message, w)
  | none, [] => (.error [], w)
  | none, command :: args =>
    let (ending, w) := run pace command args cwd timeoutMs w
    (ending.result timeoutMs, w)

end SurfaceGuard.Launch
