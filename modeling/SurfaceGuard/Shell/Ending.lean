import SurfaceGuard.Shell.Redirect
import SurfaceGuard.Shell.Signals

/-!
# Traps and the end of a shell

The actions for signals run between two commands, the least signal first, and leave the
status as it was.  The action for the end of the shell runs last; what it changes is not
undone, but the shell ends with the status that it had before, unless the action says
otherwise.
-/

namespace SurfaceGuard.Shell.Ending

open Sh

/-- Runs the actions for signals; those that are not reached wait for their turn. -/
def runActions (ev : Evaluator) (status : Nat) : List Signal → Sh Unit
  | [] => return
  | signal :: rest => do
    if (← look Shell.skip) ≠ .none then
      modify fun s => { s with pending := signal :: rest ++ s.pending }
    else
      match ← look (·.trap? signal.number) with
      | none => pure ()
      | some action =>
        let _ ← ev.text action {}
        if (← look Shell.skip) ≠ .function then modify fun s => { s with status := status }
      runActions ev status rest

/-- Runs the actions for the signals that were caught. -/
def runTraps (ev : Evaluator) : Sh Unit := do
  noticeSignals
  let pending ← look Shell.pending
  if !pending.isEmpty then
    let s ← get
    let status := s.final?.getD s.status
    modify fun s => { s with pending := [], final? := some status }
    runActions ev status (pending.mergeSort fun a b => a.number ≤ b.number)
    modify fun after => { after with final? := s.final? }

/-- Clears what is left of the commands that were being run. -/
def reset (reason : Raise) : Sh Unit := do
  modify fun s =>
    let asIs := reason = .exit || s.skip = .functionAsIs
    { s with
      status := match s.final? with
        | some status => if asIs then status else s.status
        | none => s.status
      final? := none
      skip := .none
      loops := 0 }
  Redirect.unwindTo 0

/-- Runs the action for the end of the shell; the reason of the end after that. -/
def runLastAction (ev : Evaluator) (reason : Raise) : Sh Raise := do
  match ← look (·.trap? 0) with
  | none => return reason
  | some action =>
    modify (withTrap 0 none)
    match ← attempt (ev.text action {}) with
    | .error other => return other
    | .ok _ =>
      modify fun s => { s with skip := .functionAsIs }
      return reason

/-- Ends the shell. -/
def leave (ev : Evaluator) (reason : Raise) : Sh Unit := do
  reset reason
  modify fun s => { s with final? := some s.status }
  reset (← runLastAction ev reason)
  let _ ← flush
  exitProcess (← look Shell.status)

end SurfaceGuard.Shell.Ending
