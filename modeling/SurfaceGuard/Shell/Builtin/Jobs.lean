import SurfaceGuard.Shell.Builtin.Control
import SurfaceGuard.Shell.Jobs

/-!
# Jobs and limits

The commands that show jobs, wait for them and send signals.  The last job that was started
is the current one.
-/

namespace SurfaceGuard.Shell.Builtin

open Sh

/-! ## Naming jobs -/

/-- The job that a word names: by its number, or as the current one or the one before. -/
def namedJob (w? : Option Bytes) : Sh Job := do
  let jobs := (← look Shell.jobs).reverse
  let found (job? : Option Job) (message : Bytes) : Sh Job :=
    match job? with
    | some j => pure j
    | none => fail message
  let name := (w?.getD []).drop 1
  if w?.any (·.head? != some 0x25) then fail (ascii "No such job: " ++ w?.getD [])
  else if name.isEmpty || name = ascii "+" || name = ascii "%" then
    found jobs.head? "No current job"
  else if name = ascii "-" then found (jobs.drop 1).head? "No previous job"
  else
    let number? := if Ascii.isNumeral name then some (Ascii.toNat name) else none
    found (jobs.find? fun j => some j.number == number?) (ascii "No such job: " ++ w?.getD [])

/-! ## Showing jobs -/

/-- What a job is doing, in words. -/
def jobText (j : Job) : Bytes :=
  match if j.isDone then j.members.getLast?.bind Member.status? else none with
  | none => "Running"
  | some (.exited 0) => "Done"
  | some (.exited code) => ascii "Done(" ++ Ascii.ofNat code ++ ascii ")"
  | some (.killed signal) => signal.description.take 32

/-- Blanks up to the column in which commands are shown, at least one. -/
def padding (column : Nat) : Bytes := List.replicate (max 1 (33 - column)) 0x20

/-- A job with the numbers of its processes, a line for each. -/
def longText (front : Bytes) (j : Job) : Bytes :=
  match j.members with
  | [] => front
  | m :: rest =>
    let first := front ++ Ascii.ofNat m.id ++ 0x20 :: jobText j
    let more := rest.flatMap fun m =>
      let number := Ascii.ofNat m.id
      ascii " |\n" ++ List.replicate front.length 0x20 ++ number ++ 0x20
        :: padding (front.length + number.length + 1)
    first ++ padding first.length ++ more ++ Ascii.newline

/-- A job without them. -/
def shortText (front : Bytes) (j : Job) : Bytes :=
  let first := front ++ jobText j
  first ++ padding first.length ++ (j.members.drop 1).flatMap (fun _ => ascii " | ") ++ Ascii.newline

/-- Shows a job, and forgets it if it is done. -/
def showJob (letter? : Option UInt8) (j : Job) : Sh Unit := do
  let jobs := (← look Shell.jobs).reverse
  let isNumber (job? : Option Job) : Bool := job?.any (·.number == j.number)
  let sign := if isNumber jobs.head? then ascii "+ "
    else if isNumber (jobs.drop 1).head? then ascii "- " else ascii "  "
  let front := ascii "[" ++ Ascii.ofNat j.number ++ ascii "] " ++ sign
  match letter? with
  | some 0x70 => print (Ascii.ofNat ((j.members.head?.map Member.id).getD 0) ++ Ascii.newline)
  | some _ =>
    print (longText front j)
    whenever j.isDone (dropJob j.number)
  | none =>
    print (shortText front j)
    whenever j.isDone (dropJob j.number)

/-- `jobs`. -/
def jobs (args : List Bytes) : Sh Nat := do
  let (given, words) ← optionsOf { plain := "lp" } args
  let letter? := given.getLast?.map Prod.fst
  if words.isEmpty then
    let _ ← awaitAll none limit .none
    each (showJob letter?) (← look Shell.jobs).reverse
  else each (fun w => do showJob letter? (← namedJob (some w))) words
  return 0

/-- `fg` and `bg`, which refuse every job, as the shell does not watch over jobs. -/
def resumeJob (args : List Bytes) : Sh Nat := do
  let words ← operandsOf args
  let _ ← namedJob words.head?
  fail (ascii "job " ++ words.head?.getD (ascii "(null)") ++ ascii " not created under job control")

/-! ## Waiting -/

/-- The status after waiting was disturbed by a signal. -/
def disturbed : Sh Nat := do
  noticeSignals
  return 128 + ((← look Shell.pending).getLast?.map Signal.number).getD 0

/-- Notes that a job was waited for. -/
def markWaited (number : Nat) : Sh Unit := modify fun s =>
  { s with jobs := s.jobs.map fun j => if j.number = number then { j with isWaited := true } else j }

/-- Waits until all jobs are done. -/
def waitForAll : Nat → Sh Nat
  | 0 => return 0
  | fuel + 1 => do
    let jobs ← look Shell.jobs
    each (fun j => whenever j.isDone (markWaited j.number)) jobs
    if jobs.all Job.isDone then return 0
    else
      match ← awaitOne .untilSignal none with
      | .disturbed => disturbed
      | .nothing => return 0
      | .ended =>
        let _ ← awaitAll none limit .none
        waitForAll fuel

/-- The job that a word means; none if no job has a last process of that number. -/
def waitedJob (w : Bytes) : Sh (Option Job) := do
  if w.head? == some 0x25 then return some (← namedJob (some w))
  else
    let id ← natOf w
    return (← look Shell.jobs).reverse.find? fun j => j.members.getLast?.any (·.id == id)

/-- Waits for the jobs that words mean; the status of the last one. -/
def waitForEach : Nat → List Bytes → Sh Nat
  | status, [] => return status
  | status, w :: rest => do
    match ← waitedJob w with
    | none => waitForEach status rest
    | some j =>
      if ← awaitAll (some j.number) limit (if j.isDone then .none else .untilSignal) then
        markWaited j.number
        waitForEach (((← job? j.number).map Job.status).getD 0) rest
      else disturbed

/-- `wait`. -/
def wait (args : List Bytes) : Sh Nat := do
  match ← operandsOf args with
  | [] => waitForAll limit
  | words => waitForEach 127 words

/-! ## Sending signals -/

/-- How `kill` is used. -/
def killUsage : Bytes :=
  "Usage: kill [-s sigspec | -signum | -sigspec] [pid | job]... or\nkill -l [exitstatus]"

/-- The number of the signal that a word names. -/
def signalNamed? (w : Bytes) : Option Nat :=
  if Ascii.isNumeral w then signalNumber? w else (Signal.ofName? w).map Signal.number

/-- The names of signals: all, or the one of a number or of the status of a process that it ended. -/
def listSignals (words : List Bytes) : Sh Nat := do
  match words with
  | [] => print (ascii "0\n" ++ Signal.all.flatMap fun s => s.name ++ Ascii.newline)
  | w :: _ =>
    let n ← natOf w
    let n := if 128 < n then n - 128 else n
    if 0 < n && n ≤ Signal.count then print (Signal.name ⟨n⟩ ++ Ascii.newline)
    else fail (ascii "invalid signal number or exit status: " ++ w)
  return 0

/-- Whom a word of `kill` means. -/
def killTarget (w : Bytes) : Sh Int := do
  match w with
  | 0x25 :: _ =>
    let j ← namedJob (some w)
    return -(((j.members.head?.map Member.id).getD 0 : Nat) : Int)
  | 0x2D :: digits => return -((← natOf digits : Nat) : Int)
  | _ => return ((← natOf w : Nat) : Int)

/-- Sends a signal to those whom words mean; says whether that was always possible. -/
def sendTo (number : Nat) : Bool → List Bytes → Sh Bool
  | isFine, [] => return isFine
  | isFine, w :: rest => do
    match ← ask (.sendSignal (← killTarget w) number) with
    | .ok () => sendTo number isFine rest
    | .error e =>
      warn (e.reason ++ Ascii.newline)
      sendTo number false rest

/-- The signal that options ask for. -/
def chosenSignal : Option Nat → List (UInt8 × Bytes) → Sh (Option Nat)
  | number?, [] => return number?
  | number?, (letter, value) :: rest => do
    if letter == 0x73 then
      match signalNamed? value with
      | some number => chosenSignal (some number) rest
      | none => fail (ascii "invalid signal number or name: " ++ value)
    else chosenSignal number? rest

/-- `kill`. -/
def kill (args : List Bytes) : Sh Nat := do
  let direct? := match args with
    | (0x2D :: name) :: _ => signalNamed? name
    | _ => none
  let (given, words) ←
    if direct?.isSome then pure ([], args.drop 1)
    else if (args.headD []).head? == some 0x2D then optionsOf { plain := "l", valued := "s" } args
    else pure ([], args)
  let isList := given.any (·.1 == 0x6C)
  let number? ← chosenSignal direct? given
  if args.isEmpty || (isList && number?.isSome && !words.isEmpty) || (!isList && words.isEmpty) then
    fail killUsage
  else if isList then listSignals words
  else return if ← sendTo (number?.getD Signal.terminate.number) true words then 0 else 1

/-! ## Limits -/

/-- The limits that are known: their letters, and their values, which are not set by default. -/
def limits : List (UInt8 × Option Nat) :=
  [(0x74, none), (0x66, none), (0x64, none), (0x73, some 8192), (0x63, some 0), (0x6D, none),
    (0x6C, some 8192), (0x70, none), (0x6E, some 1048576), (0x76, none), (0x77, none), (0x72, some 0)]

/-- `ulimit`, which shows a limit; other ones that are set have no effect. -/
def ulimit (args : List Bytes) : Sh Nat := do
  let (given, words) ← optionsOf { plain := ascii "HSa" ++ limits.map Prod.fst } args
  let letter := ((given.filter fun g => (limits.lookup g.1).isSome).getLast?.map Prod.fst).getD 0x66
  match words with
  | [] =>
    let value := match (limits.lookup letter).join with
      | some n => Ascii.ofNat n
      | none => ascii "unlimited"
    print (value ++ Ascii.newline)
    return 0
  | [w] =>
    if w = ascii "unlimited" || Ascii.isNumeral w then return 0 else fail "bad number"
  | _ => fail "too many arguments"

/-- `times`. -/
def times : Sh Nat := do
  print "0m0.000000s 0m0.000000s\n0m0.000000s 0m0.000000s\n"
  return 0

end SurfaceGuard.Shell.Builtin
