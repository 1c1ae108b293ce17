import SurfaceGuard.Shell.Builtin.Output
import SurfaceGuard.Shell.Signals

/-!
# Control

The commands that leave loops, functions and the shell, and those that choose what is done
when a signal is caught.
-/

namespace SurfaceGuard.Shell.Builtin

open Sh

/-! ## Leaving -/

/-- `break` and `continue`: so many of the loops that are run, at most all. -/
def leaveLoops (isBreak : Bool) (args : List Bytes) : Sh Nat := do
  let count ← match args with
    | [] => pure 1
    | a :: _ => natOf a
  if count = 0 then badNumber (args.headD [])
  else
    let count := min count (← look Shell.loops)
    if count ≠ 0 then
      modify fun s => { s with skip := if isBreak then .break_ count else .continue_ count }
    return 0

/-- `return`. -/
def return_ (args : List Bytes) : Sh Nat := do
  match args with
  | a :: _ =>
    let status ← natOf a
    modify fun s => { s with skip := .function }
    return status
  | [] =>
    modify fun s => { s with skip := .functionAsIs }
    look Shell.status

/-- `exit`. -/
def exit (args : List Bytes) : Sh Nat := do
  match args with
  | a :: _ =>
    let status ← natOf a
    modify fun s => { s with status, final? := s.final?.map fun _ => status }
  | [] => pure ()
  raise .exit

/-! ## Traps -/

/-- The name of a signal, or of the end of the shell. -/
def trapName (number : Nat) : Bytes := if number = 0 then "EXIT" else Signal.name ⟨number⟩

/-- The number that a word writes for a signal. -/
def signalNumber? (w : Bytes) : Option Nat :=
  if Ascii.isNumeral w && Ascii.toNat w ≤ Signal.count then some (Ascii.toNat w) else none

/-- The number of the signal that a word names; zero is the end of the shell. -/
def trapNumber? (w : Bytes) : Option Nat :=
  if Ascii.isNumeral w then signalNumber? w
  else if w.map Ascii.upper == ascii "EXIT" then some 0
  else (Signal.ofName? w).map Signal.number

/-- Shows the actions. -/
def showTraps : Sh Unit := do
  let traps ← look Shell.traps
  each (fun t => print (ascii "trap -- " ++ quoteWord t.2 ++ 0x20 :: trapName t.1 ++ Ascii.newline))
    (traps.mergeSort fun a b => a.1 ≤ b.1)

/-- Chooses an action for signals; says whether all of them are known. -/
def setTraps (action? : Option Bytes) : List Bytes → Sh Bool
  | [] => return true
  | w :: rest => do
    match trapNumber? w with
    | none =>
      let _ ← writeTo 2 (ascii "trap: " ++ w ++ ascii ": bad trap\n")
      return false
    | some number =>
      modify (withTrap number (action?.filter (· ≠ ascii "-")))
      whenever (number ≠ 0) (applySignal ⟨number⟩)
      setTraps action? rest

/-- `trap`. -/
def trap (args : List Bytes) : Sh Nat := do
  match ← operandsOf args with
  | [] =>
    showTraps
    return 0
  | first :: rest =>
    let isReset := rest.isEmpty || (signalNumber? first).isSome
    let areKnown ← if isReset then setTraps none (first :: rest) else setTraps (some first) rest
    return if areKnown then 0 else 1

end SurfaceGuard.Shell.Builtin
