import SurfaceGuard.Programs.Format
import SurfaceGuard.Programs.Options

/-!
# Small programs

`sleep` waits, `printf` writes formatted output, and `env` becomes another program in a
changed environment.
-/

namespace SurfaceGuard.Programs

/-! ## Sleeping -/

namespace Sleep

/-- How many seconds the unit of a duration has. -/
def unit? : Bytes → Option Nat
  | [] => some 1
  | [0x73] => some 1
  | [0x6D] => some 60
  | [0x68] => some 3600
  | [0x64] => some 86400
  | _ => none

/-- The longest time that anything sleeps, in microseconds. -/
def longest : Nat := Nat.pow 10 18

/-- How many microseconds a duration has: seconds, or other units with their letters. -/
def duration? (t : Bytes) : Option Nat :=
  let r := Floating.read .extended t
  if !r.hasDigits then none
  else (unit? r.rest).bind fun unit =>
    match r.value with
    | .finite isNegative units exponent =>
      if isNegative && units ≠ 0 then none
      else
        let (n, d) := Floating.quotient units exponent
        some (min longest ((n * unit * 1000000 + d - 1) / d))
    | .infinite false => some longest
    | _ => none

/-- The options of `sleep`. -/
def table : List ProgramOption := [⟨0, some "help", .none⟩, ⟨0, some "version", .none⟩]

/-- Complains about the operands that are no durations. -/
def refuseAll (program : Bytes) : List Bytes → Act Unit
  | [] => return
  | t :: rest => do
    if (duration? t).isNone then
      complain program (ascii "invalid time interval " ++ Quoting.plain t)
    refuseAll program rest

/-- Waits until a time, however often that is disturbed. -/
def waitUntil (time : Nat) : Nat → Act Unit
  | 0 => return
  | fuel + 1 => do
    match ← Act.ask (.sleepUntil time) with
    | .ok () => return
    | .error _ => waitUntil time fuel

/-- `sleep`. -/
def sleep (program : Bytes) (arguments : List Bytes) : Act Nat := do
  match Options.ofArguments table false arguments with
  | .error message => misuse program message 1
  | .ok given =>
    if given.operands.isEmpty then misuse program "missing operand" 1
    else if given.operands.any fun t => (duration? t).isNone then
      refuseAll program given.operands
      suggestHelp program
      return 1
    else
      let now : Nat ← Act.ask .clock
      waitUntil (now + (given.operands.filterMap duration?).foldr (· + ·) 0) (Nat.pow 2 40)
      return 0

end Sleep

/-! ## Formatted output -/

/-- `printf`. -/
def printf (program : Bytes) (arguments : List Bytes) : Act Nat := do
  let arguments := if arguments.head? == some (ascii "--") then arguments.drop 1 else arguments
  match arguments with
  | [] => misuse program "missing operand" 1
  | format :: rest =>
    let p := Format.print .program format rest
    for message in p.complaints do
      complain program message
    finish program p.bytes p.status 1

/-! ## Environments -/

namespace Env

/-- The options of `env`. -/
def table : List ProgramOption :=
  [⟨0x69, some "ignore-environment", .none⟩, ⟨0x30, some "null", .none⟩,
    ⟨0x75, some "unset", .required⟩, ⟨0x53, some "split-string", .required⟩,
    ⟨0, some "help", .none⟩, ⟨0, some "version", .none⟩]

/-- The name of a variable in an environment. -/
def nameOf (entry : Bytes) : Bytes := entry.takeWhile (· != 0x3D)

/-- An environment with an entry, in the place of the one with its name. -/
def withEntry (environment : List Bytes) (entry : Bytes) : List Bytes :=
  if environment.any fun e => nameOf e == nameOf entry then
    environment.map fun e => if nameOf e == nameOf entry then entry else e
  else environment ++ [entry]

/-- The directories in which programs are looked for where the environment names none. -/
def defaultPath : Bytes := "/bin:/usr/bin"

/-- Becomes a program; returns why that is impossible. -/
def become (path : Bytes) (arguments environment : List Bytes) : Act Errno := do
  match ← Act.ask (.execute path arguments environment) with
  | .notExecutable =>
    Act.ask (.execute "/bin/sh" (ascii "/bin/sh" :: path :: arguments.drop 1) environment)
  | e => return e

/-- Becomes the first program with a name in directories; returns why that is impossible. -/
def becomeAny (name : Bytes) (arguments environment : List Bytes) : Errno → List Bytes → Act Errno
  | e, [] => return e
  | e, directory :: rest => do
    let path := if directory.isEmpty then name else directory ++ 0x2F :: name
    match ← become path arguments environment with
    | .accessDenied => becomeAny name arguments environment .accessDenied rest
    | .noEntry => becomeAny name arguments environment e rest
    | .notDirectory => becomeAny name arguments environment e rest
    | e => return e

/-- Becomes the program that arguments name. -/
def run (program : Bytes) (arguments environment : List Bytes) : Act Nat := do
  let name := arguments.headD []
  let path := (environment.find? fun e => nameOf e == ascii "PATH").map (·.drop 5)
  let e ← if name.contains 0x2F || name.isEmpty then become name arguments environment
    else becomeAny name arguments environment .noEntry (Ascii.splitOn 0x3A (path.getD defaultPath))
  complain program (Quoting.plain name ++ ascii ": " ++ e.reason)
  return if e = .noEntry then 127 else 126

/-- The arguments with the one that is to be split in pieces. -/
def splitArguments : List Bytes → List Bytes
  | a :: rest =>
    if a.take 2 == ascii "-S" then
      (((a.drop 2).map fun b => if b == 0x09 then 0x20 else b) |> Ascii.splitOn 0x20).filter (· ≠ [])
        ++ rest
    else a :: rest
  | [] => []

/-- `env`. -/
def env (program : Bytes) (arguments environment : List Bytes) : Act Nat := do
  match Options.ofArguments table true (splitArguments arguments) with
  | .error message => misuse program message 125
  | .ok given =>
    let isEmptied := given.has 0x69 || given.operands.head? == some (ascii "-")
    let operands := if given.operands.head? == some (ascii "-") then given.operands.drop 1
      else given.operands
    let unset := given.options.filterMap fun o => if o.1 == 0x75 then some o.2 else none
    match unset.find? fun n => n.isEmpty || n.contains 0x3D with
    | some name =>
      complain program (ascii "cannot unset " ++ Quoting.plain name ++ ascii ": Invalid argument")
      return 125
    | none =>
      let entries := operands.takeWhile (·.contains 0x3D)
      let start := if isEmptied then [] else environment.filter fun e => !unset.contains (nameOf e)
      let environment := entries.foldl withEntry start
      match operands.drop entries.length with
      | [] =>
        let end_ : UInt8 := if given.has 0x30 then 0 else 0x0A
        finish program (environment.flatMap (· ++ [end_])) 0 125
      | words => run program words environment

end Env

end SurfaceGuard.Programs
