import SurfaceGuard.Machine.Files

/-!
# Requests about processes

How processes are made and ended, how they send each other signals, how a parent learns of
the end of a child, and which program a file stands for.

A process that has ended stays in the table until its parent asks for it.  Its children are
left to the system, which forgets them when they end.
-/

namespace SurfaceGuard.Machine

/-! ## The end of a process -/

/-- The parent of processes whose own parent has ended. -/
def system : Nat := 0

/-- The machine after a process ended. -/
def finish (m : Machine) (id : Nat) (status : Status) : Machine :=
  let m := m.changeProcess id fun p =>
    { p with activity := .ended status, descriptors := [], caught := [], held := [] }
  let orphaned := m.processes.map fun p : Process =>
    if p.parent = id then { p with parent := system } else p
  let m := { m with processes := orphaned.filter fun p => p.isAlive || p.parent ≠ system }
  m.tidy.wakeAll

/-! ## Signals -/

/-- A process after it caught a signal. -/
def afterCatching (p : Process) (s : Signal) (time : Nat) : Process :=
  let p := { p with caught := if p.caught.contains s then p.caught else p.caught ++ [s] }
  if p.activity = .waiting || p.activity = .sleeping then
    { p with activity := .running, isDisturbed := true, ready := time + wakeUp }
  else p

/-- The machine after a signal reached a process that is not stopped. -/
def deliverNow (m : Machine) (id : Nat) (s : Signal) : Machine :=
  match m.process? id with
  | none => m
  | some p =>
    if !p.isAlive || p.doom?.isSome then m
    else
      match if s.isFirm then .default else p.disposition s with
      | .ignore => m
      | .catch => m.changeProcess id fun p => afterCatching p s m.time
      | .default =>
        match s.defaultAction with
        | .ignore => m
        | .resume => m
        | .stop => m.changeProcess id fun p => { p with activity := .stopped }
        | .terminate => m.changeProcess id fun p =>
          { p with
            doom? := some s, activity := .running, ready := m.time + wakeUp + endDuration }

/-- The machine after a signal was sent to a process.  A stopped process takes note of it when it
goes on. -/
def deliver (m : Machine) (id : Nat) (s : Signal) : Machine :=
  match m.process? id with
  | none => m
  | some p =>
    if p.activity = .stopped && s ≠ .kill then
      if s = .resume then
        let m := m.changeProcess id fun p =>
          { p with activity := .running, held := [], ready := m.time + wakeUp }
        (p.held ++ [s]).foldl (fun m s => m.deliverNow id s) m
      else m.changeProcess id fun p => { p with held := p.held ++ [s] }
    else m.deliverNow id s

/-- The machine after a signal was sent to the processes of a group. -/
def deliverGroup (m : Machine) (group : Nat) (s : Signal) : Machine :=
  (m.processes.filter (·.group == group)).foldl (fun m p => m.deliver p.id s) m

/-- The machine after the parent of a process was told that the process ended. -/
def tellParent (m : Machine) (parent : Nat) : Machine :=
  match m.process? parent with
  | some p => if p.disposition .child = .catch then m.deliver parent .child else m
  | none => m

/-- The machine after a process ended, with its parent told. -/
def leave (m : Machine) (p : Process) (status : Status) : Machine :=
  (m.finish p.id status).tellParent p.parent

/-- A reply to a process, unless a signal that it has sent ends it. -/
def resumeUnlessDoomed {α : Type} (m : Machine) (id : Nat) (answer : α) (cost : Nat) : Outcome α :=
  match m.process? id with
  | none => .gone m
  | some p =>
    match p.doom? with
    | some s => .gone (m.leave p (.killed s))
    | none => .reply answer cost m

/-- The processes that a process means by a target. -/
def targets (m : Machine) (p : Process) (target : Int) : List Process :=
  if 0 < target then m.processes.filter fun q => (q.id : Int) = target
  else if target = 0 then m.processes.filter (·.group == p.group)
  else if target = -1 then m.processes.filter (·.id ≠ p.id)
  else m.processes.filter fun q => (q.group : Int) = -target

/-- The machine after a process sent a signal. -/
def sendSignal (m : Machine) (p : Process) (target : Int) (number : Nat) :
    Outcome (Except Errno Unit) :=
  if Signal.count < number then .reply (.error .invalid) 1 m
  else
    let found := m.targets p target
    if found.isEmpty then
      .reply (.error (if target = 1 then .notPermitted else .noProcess)) 1 m
    else if number = 0 then .reply (.ok ()) 1 m
    else
      (found.foldl (fun m q => m.deliver q.id ⟨number⟩) m).resumeUnlessDoomed p.id (.ok ()) 2

/-- The machine after a process chose what is done with a signal. -/
def handle (m : Machine) (p : Process) (s : Signal) (d : Disposition) : Machine :=
  m.withProcess { p with dispositions := (s, d) :: p.dispositions.filter (·.1 ≠ s) }

/-! ## Parents and children -/

/-- The machine after a process split into two, and the number of the child. -/
def fork (m : Machine) (p : Process) (behaviour : Behaviour) (start : Nat) : Nat × Machine :=
  let id := m.nextProcess
  (id, { m with
    nextProcess := id + 1
    processes := m.processes ++ [{ p with
      id := id, parent := p.id, behaviour := behaviour, activity := .running, ready := start
      caught := [], held := [], isDisturbed := false }] })

/-- How a child of a process has ended. -/
def await (m : Machine) (p : Process) (patience : Patience) :
    Outcome (Except Errno (Option (Nat × Status))) :=
  let children := m.processes.filter (·.parent == p.id)
  let ended := children.findSome? fun q =>
    match q.activity with
    | .ended status => some (q.id, status)
    | _ => none
  match ended with
  | some (id, status) =>
    .reply (.ok (some (id, status))) 5 { m with processes := m.processes.filter (·.id ≠ id) }
  | none =>
    if children.isEmpty then .reply (.error .noChild) 1 m
    else match patience with
      | .none => .reply (.ok none) 1 m
      | .untilEnd => .wait none m
      | .untilSignal =>
        if p.isDisturbed || !p.caught.isEmpty then .reply (.error .interrupted) 1 m else .wait none m

/-- Waiting until a time, or until a signal is caught. -/
def sleepUntil (m : Machine) (p : Process) (time : Nat) : Outcome (Except Errno Unit) :=
  if time ≤ m.time then .reply (.ok ()) 1 m
  else if p.isDisturbed then .reply (.error .interrupted) 1 m
  else .wait (some time) m

/-! ## Programs -/

/-- How many bytes of a file decide how it is run. -/
def headSize : Nat := 256

/-- How many scripts may name each other as interpreters. -/
def scriptDepth : Nat := 5

/-- Is the byte a blank in the first line of a script? -/
def isBlank (b : UInt8) : Bool := b == 0x20 || b == 0x09

/-- The interpreter that the first line of a script names, and an argument for it. -/
def interpreter? (content : Bytes) : Option (Bytes × Option Bytes) :=
  match content.take headSize with
  | 0x23 :: 0x21 :: head =>
    let line := (head.takeWhile (· != 0x0A)).takeWhile (· != 0)
    let line := ((line.dropWhile isBlank).reverse.dropWhile isBlank).reverse
    let name := line.takeWhile (!isBlank ·)
    let rest := (line.drop name.length).dropWhile isBlank
    let isCut := headSize ≤ content.length && !head.contains 0x0A && rest.isEmpty
    if name.isEmpty || isCut then none
    else some (name, if rest.isEmpty then none else some rest)
  | _ => none

/-- A program with its arguments, the name by which it was called first. -/
structure Invocation where
  program : Bytes
  arguments : List Bytes
  deriving DecidableEq, Repr

/-- What a file with arguments stands for. -/
def invocation (files : FileTree) (directory : Place) :
    Nat → Bytes → List Bytes → Except Errno Invocation
  | 0, _, _ => .error .tooManyLinks
  | fuel + 1, path, arguments => do
    let s ← files.find directory path
    if !s.node.isFile || !s.node.allows .search then .error .accessDenied
    else match s.node with
      | .program _ name => .ok ⟨name, arguments⟩
      | .file _ content =>
        match interpreter? content with
        | none => .error .notExecutable
        | some (name, argument?) =>
          invocation files directory fuel name
            (name :: argument?.toList ++ path :: arguments.drop 1)
      | _ => .error .accessDenied

/-- How long a single argument may be, with the zero that ends it. -/
def argumentLimit : Nat := 131072

/-- How long all arguments may be together. -/
def argumentsLimit : Nat := 2097152

/-- Are arguments too long for a program? -/
def isTooMuch (words : List Bytes) : Bool :=
  words.any (fun w => argumentLimit ≤ w.length)
    || argumentsLimit < words.foldr (fun w n => w.length + 9 + n) 0

/-- What a file with arguments stands for, where the arguments are not too long. -/
def resolve (m : Machine) (directory : Place) (path : Bytes) (arguments environment : List Bytes) :
    Except Errno Invocation := do
  let call ← invocation m.files directory (scriptDepth + 1) path arguments
  if isTooMuch (arguments ++ environment) then .error .tooMuch else .ok call

/-- Starts a program with arguments and an environment. -/
abbrev Loader := (name : Bytes) → (arguments environment : List Bytes) → Behaviour

/-- A process that becomes another program. -/
def become (p : Process) (b : Behaviour) (ready : Nat) : Process :=
  { p with
    behaviour := b
    ready := ready
    activity := .running
    descriptors := p.descriptors.filter (!·.isPrivate)
    dispositions := p.dispositions.filter fun d => d.2 == .ignore
    caught := []
    isDisturbed := false }

/-- How long it takes to start a program, in microseconds. -/
def startDuration : Nat := 400

/-- The machine after a process became another program. -/
def execute (load : Loader) (m : Machine) (p : Process) (path : Bytes)
    (arguments environment : List Bytes) : Outcome Errno :=
  match m.resolve p.directory path arguments environment with
  | .error e => .reply e 3 m
  | .ok call =>
    .gone (m.withProcess (become p (load call.program call.arguments environment)
      (m.time + startDuration))).tidy.wakeAll

end SurfaceGuard.Machine
