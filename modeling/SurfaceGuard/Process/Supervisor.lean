import SurfaceGuard.Export
import SurfaceGuard.Machine.Process
import SurfaceGuard.Text.Utf8

/-!
# Supervising a command

A command that was started is watched by a machine that knows two timers.  When the
first one, the time limit, fires, the command is asked to terminate and the second one,
the grace period, is set; when that fires too, the command is killed.  The first `failed`
or `closed` event settles the run and clears both timers; output that arrives later is
still collected, and changes nothing.

Output is decoded as it arrives, chunk by chunk.
-/

namespace SurfaceGuard

/-- What can happen while a command is watched. -/
inductive ProcessEvent where
  /-- Bytes arrive on a stream. -/
  | output (stream : OutputStream) (bytes : Bytes)
  /-- The time limit is reached. -/
  | timeout
  /-- The grace period is over. -/
  | graceOver
  /-- The command cannot be run. -/
  | failed (message : Text)
  /-- The command has ended and its streams are closed; a command ended by a signal has no code. -/
  | closed (code? : Option Nat)
  deriving DecidableEq, Repr

/-- The state of a timer. -/
inductive TimerState where
  | unset
  | armed
  | fired
  | cleared
  deriving DecidableEq, Repr

/-- A timer that will not fire any more. -/
def TimerState.clear : TimerState → TimerState
  | .armed => .cleared
  | timer => timer

/-- How a run ends. -/
inductive Ending where
  | exited (output : ExecOutput)
  | exceeded
  | failed (message : Text)
  deriving DecidableEq, Repr

/-- The state of the watch over a command. -/
structure Supervisor where
  /-- Was a process made at all? -/
  hasProcess : Bool
  stdout : Text
  stderr : Text
  limit : TimerState
  grace : TimerState
  /-- The signals that were sent to the command and everything it has started. -/
  signals : List Signal
  ending? : Option Ending
  deriving DecidableEq, Repr

namespace Supervisor

/-- The watch at the start: the time limit is set. -/
def start (hasProcess : Bool) : Supervisor :=
  { hasProcess, stdout := [], stderr := [], limit := .armed, grace := .unset, signals := [],
    ending? := none }

/-- The watch after a signal was sent, if there is a process to send it to. -/
def send (s : Supervisor) (signal : Signal) : Supervisor :=
  if s.hasProcess then { s with signals := s.signals ++ [signal] } else s

/-- The watch after the run was settled, unless it was before. -/
def settle (s : Supervisor) (ending : Ending) : Supervisor :=
  match s.ending? with
  | some _ => s
  | none => { s with ending? := some ending, limit := s.limit.clear, grace := s.grace.clear }

/-- How a command that has closed ends. -/
def endingOf (s : Supervisor) (code? : Option Nat) : Ending :=
  if s.limit = .fired then .exceeded else .exited ⟨code?.getD 1, s.stdout, s.stderr⟩

/-- The watch after an event.  A timer that is not armed does not fire. -/
def step (s : Supervisor) : ProcessEvent → Supervisor
  | .output .stdout bytes => { s with stdout := s.stdout ++ Utf8.decode bytes }
  | .output .stderr bytes => { s with stderr := s.stderr ++ Utf8.decode bytes }
  | .timeout =>
    if s.limit = .armed then { s.send .terminate with limit := .fired, grace := .armed } else s
  | .graceOver => if s.grace = .armed then { s.send .kill with grace := .fired } else s
  | .failed message => s.settle (.failed message)
  | .closed code? => s.settle (s.endingOf code?)

/-- The watch after a list of events. -/
def run (s : Supervisor) (events : List ProcessEvent) : Supervisor := events.foldl step s

end Supervisor

/-! ## Time limits -/

/-- The longest delay that a timer can wait for, in milliseconds. -/
def longestDelay : Nat := 2147483647

/-- How many milliseconds a timer waits for a delay.  Delays below one millisecond or beyond the
longest are taken as one; fractions of a millisecond do not count. -/
def timerDelay (delay : Number) : Nat :=
  if delay.ltNat 1 || !delay.ltNat (longestDelay + 1) then 1 else delay.toInt.toNat

/-- How many milliseconds a command has to end after it was asked to. -/
def gracePeriod : Nat := 5000

/-- How a time limit is named in messages: in milliseconds below a second, in whole seconds, rounded
up, from there on. -/
def limitText (timeoutMs : Number) : Text :=
  if timeoutMs.ltNat 1000 then timeoutMs.toText ++ "ms"
  else (Number.ofNat timeoutMs.ceilThousandths).toText ++ "s"

/-- What a launcher returns for an ending. -/
def Ending.result (timeoutMs : Number) : Ending → Except Text ExecOutput
  | exited output => .ok output
  | exceeded => .error ("Process exceeded " ++ limitText timeoutMs ++ " timeout")
  | failed message => .error message

end SurfaceGuard
