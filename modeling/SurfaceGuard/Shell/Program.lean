import SurfaceGuard.Shell.Command

/-!
# The shell as a program

A shell is called with options and then with a script: as an argument, as the name of a
file, or on its input.  The arguments after that are those of the script.
-/

namespace SurfaceGuard.Shell.Program

open Sh

/-! ## The start -/

/-- A shell that has not looked at anything yet. -/
def fresh (name : Bytes) : Shell where
  name := name
  line := 0
  command? := none
  processId := 0
  arguments := []
  optionIndex := 1
  optionOffset := none
  bindings := []
  saved := []
  functions := []
  aliases := []
  traps := []
  modes := []
  pending := []
  flags := []
  status := 0
  substituted := 0
  final? := none
  skip := .none
  loops := 0
  jobs := []
  lastBackground? := none
  documents := #[]
  level := 0
  depth := 0
  directory? := none
  physical? := none
  unwritten := []
  isTracing := false
  redirected := []
  remembered := []

/-- The variables that a shell starts with, beside those that it is given. -/
def defaults : List (Bytes × Bytes) :=
  [("PATH", Lookup.defaultPath), ("PS1", "$ "), ("PS2", "> "), ("PS4", "+ ")]

/-- The shell with the variables of an environment. -/
def withEnvironment (environment : List Bytes) (s : Shell) : Shell :=
  environment.foldl (fun s e =>
    match splitAssignment e with
    | (name, some value) =>
      if Ascii.isName name then putVariable name { value? := some value, isExported := true } s else s
    | _ => s) s

/-- The shell with a variable that has a new value, and is exported if it was before. -/
def withValue (name value : Bytes) (s : Shell) : Shell :=
  putVariable name { (s.binding? name).getD { value? := none } with value? := some value } s

/-- The path of the directory that the environment gives, if it is that of the current one. -/
def givenDirectory : Sh (Option Bytes) := do
  match ← look (·.valueOf? "PWD") with
  | none => return none
  | some path =>
    match ← ask (.inspect path), ← ask (.inspect ".") with
    | .ok a, .ok b =>
      let isSame := path.head? == some 0x2F && a.kind = b.kind && a.serial = b.serial
      return if isSame then some path else none
    | _, _ => return none

/-- Sets up the variables. -/
def setUp (environment : List Bytes) : Sh Unit := do
  let (id, parent) ← ask .identify
  modify fun s => defaults.foldl (fun s d => putVariable d.1 { value? := some d.2 } s)
    { s with processId := id }
  modify (withEnvironment environment)
  modify (withValue "IFS" Fields.blanks)
  modify (withValue "OPTIND" (Ascii.ofNat 1))
  modify (withValue "PPID" (Ascii.ofNat parent))
  Builtin.setDirectory (← givenDirectory) false

/-! ## Options -/

/-- Is the letter an option of the program only? -/
def isOwnLetter (b : UInt8) : Bool := b == 0x63 || b == 0x6C

/-- Sets the options in front of arguments; the arguments after them, and whether the first of those is
the script itself. -/
def options : Nat → List Bytes → Sh (Bool × List Bytes)
  | 0, rest => return (false, rest)
  | _, [] => return (false, [])
  | fuel + 1, a :: rest => do
    let word (isOn : Bool) (letters : Bytes) : Sh (Bool × List Bytes) := do
      let (own, rest) ← Builtin.optionWord isOn isOwnLetter letters rest
      let (isCommand, rest) ← options fuel rest
      return (own.contains 0x63 || isCommand, rest)
    match a with
    | [0x2D] => return (false, rest)
    | [0x2D, 0x2D] => return (false, rest)
    | 0x2D :: letters => word true letters
    | 0x2B :: letters => word false letters
    | _ => return (false, a :: rest)

/-- The shell with the name of its script and the arguments. -/
def named (words : List Bytes) (s : Shell) : Shell :=
  { s with name := words.headD s.name, arguments := words.drop 1 }

/-- Does what the options ask for, and tells the system about signals. -/
def settle : Sh Unit := do
  if ← hasFlag .interactive then modify (setFlag .monitor true)
  Builtin.refuseMonitor
  each applySignal [.interrupt, .quit, .terminate]

/-! ## Running -/

/-- Runs the commands that come from a descriptor. -/
def runDescriptor (d : Nat) : Sh Unit := do
  let _ ← evaluator.source ⟨[], some d⟩ {}

/-- What a shell with arguments does until it has come to its end. -/
def body (arguments environment : List Bytes) : Sh Unit := do
  setUp environment
  let (isCommand, words) ← options (arguments.length + 1) arguments
  match isCommand, words with
  | true, [] => fail "-c requires an argument"
  | true, script :: words =>
    modify (named words)
    settle
    let readsInput ← hasFlag .standardInput
    let _ ← evaluator.text script { isLast := !readsInput }
    whenever readsInput (runDescriptor 0)
  | false, words =>
    if words.isEmpty then modify (setFlag .standardInput true)
    if ← hasFlag .standardInput then
      modify fun s => { s with arguments := words }
      settle
      runDescriptor 0
    else
      let script ← Simple.openScript (words.headD [])
      modify (named words)
      settle
      runDescriptor script

/-- The behaviour of a shell that is called by a name. -/
def behaviour (name : Bytes) (arguments environment : List Bytes) : Behaviour :=
  let all : Sh Unit := do
    match ← attempt (body arguments environment) with
    | .ok () => evaluator.leave .exit
    | .error r => evaluator.leave r
  all (fresh name) (fun _ s => .exit s.status) fun _ s => .exit s.status

end SurfaceGuard.Shell.Program
