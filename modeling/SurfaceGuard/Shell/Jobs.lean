import SurfaceGuard.Shell.Evaluator
import SurfaceGuard.Shell.Variables

/-!
# Jobs

A job is a list of processes that were started together.  Waiting for a job takes note of
every child that has ended meanwhile, and reports a process of the job that a signal has
ended.
-/

namespace SurfaceGuard.Shell

/-- The status of a command for the status of a process. -/
def statusOf : Status → Nat
  | .exited code => code
  | .killed signal => signal.number + 128

namespace Job

/-- The status of a job: that of its last process. -/
def status (j : Job) : Nat :=
  match j.members.getLast?.bind Member.status? with
  | some status => statusOf status
  | none => 0

/-- The job with the end of a process noted. -/
def note (id : Nat) (status : Status) (j : Job) : Job :=
  if j.isDone || j.members.all (·.id ≠ id) then j
  else
    let members := j.members.map fun m => if m.id = id then { m with status? := some status } else m
    { j with members := members, isChanged := members.all (·.status?.isSome) }

end Job

namespace Sh

/-- How often a loop of the shell may be repeated; none is repeated as often. -/
def limit : Nat := Nat.pow 2 40

/-! ## Children -/

/-- The shell inside a process of its own: it has no traps, but may still show those of the shell
that started it if that is all it does. -/
def inChild (showsTraps : Bool) (s : Shell) : Shell :=
  { s with
    level := s.level + 1
    jobs := []
    pending := []
    unwritten := []
    redirected := []
    modes := s.modes.filter fun m => m.2 ≠ .caught
    traps := if showsTraps then s.traps else s.traps.filter (·.2.isEmpty) }

/-- Does a command do nothing but show the traps? -/
def showsTraps : Option Tree → Bool
  | some (.simple _ _ (w :: _) _) => Word.plain? w == some (ascii "trap")
  | _ => false

/-- The signals that the shell catches are left to the system again. -/
def releaseSignals : Sh Unit := do
  for m in ← look Shell.modes do
    if m.2 = .caught then
      let _ ← ask (.handle m.1 .default)

/-- A child of the shell that runs a command, and does what is to be done at its end. -/
def startChild (ev : Evaluator) (tree? : Option Tree) (body : Sh Unit) : Sh Nat :=
  fork do
    releaseSignals
    modify (inChild (showsTraps tree?))
    match ← attempt body with
    | .ok () => ev.leave .finish
    | .error r => ev.leave r

/-- A process in the background does not listen to the keyboard; the first of a job has no input. -/
def enterBackground (isFirst : Bool) : Sh Unit := do
  for signal in [Signal.interrupt, Signal.quit] do
    let _ ← ask (.handle signal .ignore)
    modify fun s => { s with modes := (signal, .refused) :: s.modes.filter (·.1 ≠ signal) }
  if isFirst then
    let _ ← ask (.close 0)
    match ← ask (.openFile "/dev/null" .toRead 0) with
    | .ok _ => return
    | .error _ => fail "Can't open /dev/null"

/-- Adds a job without processes, and returns its number: that of a job that was waited for, or the
next one. -/
def addJob : Sh Nat := do
  let jobs ← look Shell.jobs
  let free := jobs.find? fun j => j.isDone && j.isWaited
  let number := match free with
    | some j => j.number
    | none => ((List.range (jobs.length + 1)).find? fun n => jobs.all (·.number ≠ n + 1)).getD 0 + 1
  modify fun s => { s with
    jobs := s.jobs.filter (·.number ≠ number) ++ [{ number := number, members := [] }] }
  return number

/-- Adds a process to a job. -/
def addMember (number id : Nat) : Sh Unit := modify fun s =>
  { s with jobs := s.jobs.map fun j =>
      if j.number = number then { j with members := j.members ++ [⟨id, none⟩] } else j }

/-- The job with a number. -/
def job? (number : Nat) : Sh (Option Job) := look fun s => s.jobs.find? (·.number == number)

/-- Forgets a job. -/
def dropJob (number : Nat) : Sh Unit := modify fun s =>
  { s with jobs := s.jobs.filter (·.number ≠ number) }

/-! ## Waiting -/

/-- What waiting for one child came to. -/
inductive Awaited where
  | ended
  | disturbed
  /-- No child, or none that has ended. -/
  | nothing
  deriving DecidableEq, Repr

/-- What is reported about a process that a signal has ended. -/
def report? : Status → Option Bytes
  | .exited _ => none
  | .killed s => if s = .interrupt || s = .brokenPipe then none else some (s.description.take 32)

/-- Waits for one child. -/
def awaitOne (patience : Patience) (job? : Option Nat) : Sh Awaited := do
  match ← ask (.await patience) with
  | .error .interrupted => return .disturbed
  | .error _ => return .nothing
  | .ok none => return .nothing
  | .ok (some (id, status)) =>
    let jobs ← look Shell.jobs
    let mine := jobs.any fun j => some j.number == job? && j.members.any fun m =>
      m.id == id && m.status?.isNone
    modify fun s => { s with jobs := s.jobs.map (Job.note id status) }
    match if mine then report? status else none with
    | some text =>
      let _ ← writeTo 2 (text ++ Ascii.newline)
    | none => pure ()
    return .ended

/-- Waits for children until a job is done; says whether that was not disturbed. -/
def awaitAll (job? : Option Nat) : Nat → Patience → Sh Bool
  | 0, _ => return true
  | fuel + 1, patience => do
    match ← awaitOne patience job? with
    | .nothing => return true
    | .disturbed =>
      let _ ← awaitAll job? fuel .none
      return false
    | .ended =>
      let jobs ← look Shell.jobs
      let isDone := jobs.any fun j => some j.number == job? && j.isDone
      awaitAll job? fuel (if isDone then .none else patience)

/-- Waits for a job and forgets it; its status. -/
def awaitJob (number : Nat) : Sh Nat := do
  let isDone := ((← job? number).map Job.isDone).getD true
  let _ ← awaitAll (some number) limit (if isDone then .none else .untilEnd)
  let status := ((← job? number).map Job.status).getD 0
  dropJob number
  return status

end Sh

end SurfaceGuard.Shell
