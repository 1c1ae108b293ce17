import SurfaceGuard.Machine.Control

/-!
# Running a machine

The process that is ready first takes the next step: the machine answers its request, and
the process is ready again after the time that the answer took.  A request that cannot be
answered yet is asked again when something has happened.
-/

namespace SurfaceGuard.Machine

/-- How long a process that splits into two is busy with that, in microseconds. -/
def forkDuration : Nat := 80

/-- How long it takes until a new process does something, in microseconds. -/
def forkDelay : Nat := 130

/-- A request answered by what the machine is changed to. -/
def changing {α : Type} (cost : Nat) (r : α × Machine) : Outcome α := .reply r.1 cost r.2

/-- What becomes of the request of a process. -/
def perform (load : Loader) (m : Machine) (p : Process) : (r : Request) → Outcome r.Reply
  | .work duration => .reply () duration m
  | .clock => .reply m.time 0 m
  | .openFile path access mode => changing 4 (m.openFile p path access mode)
  | .close descriptor => changing 1 (m.close p descriptor)
  | .duplicate descriptor least => changing 1 (m.duplicate p descriptor least)
  | .redirect source target => changing 1 (m.redirect p source target)
  | .pipe => changing 3 (m.makePipe p)
  | .read descriptor count => m.read p descriptor count
  | .write descriptor bytes =>
    match m.write p descriptor bytes with
    | .reply (.error .brokenPipe) cost m =>
      (m.deliver p.id .brokenPipe).resumeUnlessDoomed p.id (.error .brokenPipe) cost
    | outcome => outcome
  | .inspect path => .reply (m.inspect p path) 2 m
  | .inspectOpen descriptor => .reply (m.inspectOpen p descriptor) 1 m
  | .position descriptor => .reply (m.position p descriptor) 1 m
  | .mayUse path permission => .reply (m.mayUse p path permission) 2 m
  | .listDirectory path => .reply (m.files.list p.directory path) 8 m
  | .makeDirectory path mode => changing 10 (m.makeDirectory p path mode)
  | .changeMode path mode => changing 3 (m.changeMode p path mode)
  | .changeDirectory path => changing 2 (m.changeDirectory p path)
  | .currentDirectory => .reply (m.currentDirectory p) 2 m
  | .setMask mask => .reply p.mask 1 (m.withProcess { p with mask := mask })
  | .identify => .reply (p.id, p.parent) 0 m
  | .sendSignal target number => m.sendSignal p target number
  | .handle signal disposition => .reply (p.disposition signal) 1 (m.handle p signal disposition)
  | .takeCaught => .reply p.caught 0 (if p.caught.isEmpty then m else m.withProcess { p with caught := [] })
  | .await patience => m.await p patience
  | .sleepUntil time => m.sleepUntil p time
  | .execute path arguments environment => m.execute load p path arguments environment

/-- How long it takes a process to do what it does next, beside the answer to a request. -/
def delay : Behaviour → Nat
  | .exit _ => endDuration
  | _ => 0

/-- The machine after a process got an answer. -/
def resume (m : Machine) (id : Nat) (b : Behaviour) (cost : Nat) : Machine :=
  m.changeProcess id fun p =>
    { p with
      behaviour := b, ready := m.time + cost + delay b, isDisturbed := false
      activity := if p.activity = .sleeping then .running else p.activity }

/-- The machine after a process took its next step. -/
def stepProcess (load : Loader) (m : Machine) (p : Process) : Machine :=
  let m := { m with time := max m.time p.ready }
  match p.doom?, p.behaviour with
  | some s, _ => m.leave p (.killed s)
  | none, .exit code => m.leave p (.exited (code % 256))
  | none, .fork child next =>
    let (id, m) := m.fork p child (m.time + forkDelay)
    m.resume p.id (next id) forkDuration
  | none, .call r next =>
    match perform load m p r with
    | .reply answer cost m => m.resume p.id (next answer) cost
    | .wait until? m =>
      m.changeProcess p.id fun p =>
        match until? with
        | some time => { p with activity := .sleeping, ready := time }
        | none => { p with activity := .waiting }
    | .gone m => m

/-- The process that is ready first. -/
def first? (m : Machine) : Option Process :=
  m.processes.foldl (fun best? p =>
    if p.activity = .running || p.activity = .sleeping then
      match best? with
      | some best => if p.ready < best.ready then some p else best?
      | none => some p
    else best?) none

/-- A signal that is sent to a group at a time. -/
structure Alarm where
  time : Nat
  group : Nat
  signal : Signal
  deriving DecidableEq, Repr

/-- The machine after it ran until it reached a goal, with signals sent at their times.  It stops too
when nothing can happen any more. -/
def runUntil (load : Loader) (goal : Machine → Bool) : Nat → List Alarm → Machine → Machine
  | 0, _, m => m
  | fuel + 1, alarms, m =>
    if goal m then m
    else match m.first?, alarms with
      | none, [] => m
      | some p, [] => runUntil load goal fuel [] (m.stepProcess load p)
      | p?, alarm :: rest =>
        match p?.filter (·.ready < alarm.time) with
        | some p => runUntil load goal fuel (alarm :: rest) (m.stepProcess load p)
        | none =>
          let m := { m with time := max m.time alarm.time }
          runUntil load goal fuel rest (m.deliverGroup alarm.group alarm.signal)

end SurfaceGuard.Machine
