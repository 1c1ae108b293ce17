import SurfaceGuard.Shell.Variables

/-!
# Signals of a shell

A shell tells the system which signals it wants to catch or to ignore.  It takes note of a
signal that was caught between two commands, where the action that was chosen for it runs.
A signal that was ignored when the shell started stays so.
-/

namespace SurfaceGuard

namespace Shell

/-- The action for a signal, or for the end of the shell under zero. -/
def trap? (s : Shell) (number : Nat) : Option Bytes := s.traps.lookup number

/-- Is there an action that does anything? -/
def hasActions (s : Shell) : Bool := s.traps.any (!·.2.isEmpty)

/-- The shell with an action for a signal, or without one. -/
def withTrap (number : Nat) (action? : Option Bytes) (s : Shell) : Shell :=
  let others := s.traps.filter (·.1 ≠ number)
  { s with traps := match action? with
      | some action => (number, action) :: others
      | none => others }

/-- Does the shell catch interruptions even where no action is chosen for them?  The first one does,
to end in its own time. -/
def catchesInterrupt (s : Shell) : Bool := s.level = 0 && !s.flags.contains .standardInput

/-- What the shell wants to be done with a signal. -/
def wantedMode (s : Shell) (signal : Signal) : SignalMode :=
  match s.trap? signal.number with
  | some [] => if signal = .child then .default else .ignored
  | some _ => .caught
  | none =>
    if signal = .interrupt && s.catchesInterrupt then .caught
    else if signal = .terminate && s.level = 0 && s.flags.contains .interactive then .ignored
    else .default

/-- What the system is told for a mode. -/
def SignalMode.disposition : SignalMode → Disposition
  | default => .default
  | caught => .catch
  | ignored => .ignore
  | refused => .ignore

end Shell

namespace Shell.Sh

/-- Notes what the system was told about a signal. -/
def noteMode (signal : Signal) (mode : SignalMode) : Sh Unit := modify fun s =>
  { s with modes := (signal, mode) :: s.modes.filter (·.1 ≠ signal) }

/-- Tells the system what the shell wants to be done with a signal. -/
def applySignal (signal : Signal) : Sh Unit := do
  let s ← get
  let wanted := s.wantedMode signal
  let known? := s.modes.lookup signal
  if known? ≠ some .refused && known? ≠ some wanted then
    match ← ask (.handle signal wanted.disposition), known? with
    | .ignore, none =>
      let _ ← ask (.handle signal .ignore)
      noteMode signal .refused
    | _, _ => noteMode signal wanted

/-- Lets a signal do to the shell what it does to programs that do not expect it. -/
def surrenderTo (signal : Signal) : Sh Unit := do
  let _ ← ask (.handle signal .default)
  let (id, _) ← ask .identify
  let _ ← ask (.sendSignal id signal.number)

/-- Takes note of the signals that were caught. -/
def noticeSignals : Sh Unit := do
  let caught : List Signal ← ask .takeCaught
  if !caught.isEmpty then
    modify fun s => { s with pending := s.pending.filter (!caught.contains ·) ++ caught }
    if caught.contains .interrupt && ((← get).trap? Signal.interrupt.number).isNone then
      surrenderTo .interrupt

end Shell.Sh

end SurfaceGuard
