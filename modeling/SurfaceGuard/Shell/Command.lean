import SurfaceGuard.Shell.Ending
import SurfaceGuard.Shell.Simple

/-!
# Commands

How commands of every kind run, and how the parts of the shell that need each other are tied
together: `Evaluator.ofDepth` runs commands that are nested up to a depth.

Before and after each command the actions for signals run.  Where a failure is to end the
shell, only a command counts that is simple, a pipeline or a shell of its own, and whose
status nobody looks at.
-/

namespace SurfaceGuard.Shell.Command

open Sh

/-- Notes on which line the command is that is run. -/
def markLine (line : Nat) : Sh Unit := modify fun s => { s with line := line }

/-! ## Loops -/

/-- What remains of passing over commands where a loop has ended a round. -/
def skipRound : Sh Skip := do
  match ← look Shell.skip with
  | .break_ (n + 2) =>
    modify fun s => { s with skip := .break_ (n + 1) }
    return .break_ (n + 1)
  | .continue_ (n + 2) =>
    modify fun s => { s with skip := .continue_ (n + 1) }
    return .break_ (n + 1)
  | .break_ n =>
    modify fun s => { s with skip := .none }
    return .break_ n
  | .continue_ n =>
    modify fun s => { s with skip := .none }
    return .continue_ n
  | skip => return skip

/-- Does a loop go on? -/
def goesOn : Skip → Bool
  | .none => true
  | .continue_ _ => true
  | _ => false

/-- Runs a loop that goes on while its test succeeds, or until it does; the status so far. -/
def runLoop (ev : Evaluator) (isWhile : Bool) (test body : Option Tree) (mode : Mode) :
    Nat → Nat → Sh Nat
  | 0, status => return status
  | fuel + 1, status => do
    let tested ← ev.tree test { isTested := true }
    match ← skipRound with
    | .none =>
      if (tested = 0) ≠ isWhile then return status
      else
        let status ← ev.tree body mode
        if goesOn (← skipRound) then runLoop ev isWhile test body mode fuel status
        else return status
    | .continue_ _ => runLoop ev isWhile test body mode fuel status
    | .function => return tested
    | _ => return status

/-- Runs the body of a loop for one word after the other. -/
def runEach (ev : Evaluator) (name : Bytes) (body : Option Tree) (mode : Mode) :
    Nat → List Bytes → Sh Nat
  | status, [] => return status
  | _, w :: rest => do
    setVariable name w
    let status ← ev.tree body mode
    if goesOn (← skipRound) then runEach ev name body mode status rest else return status

/-- Runs a loop, with the number of loops around it known. -/
def inLoop (p : Sh Nat) : Sh Nat := do
  modify fun s => { s with loops := s.loops + 1 }
  let status ← p
  modify fun s => { s with loops := s.loops - 1 }
  return status

/-! ## Choices -/

/-- Does a text fit one of some patterns? -/
def fitsAny (ev : Evaluator) (text : Bytes) : List Word → Sh Bool
  | [] => return false
  | w :: rest => do
    if (← Expansion.pattern ev w).matchesAll text then return true else fitsAny ev text rest

/-- Runs the first of the arms that a text fits. -/
def chooseArm (ev : Evaluator) (mode : Mode) (text : Bytes) :
    List (List Word × Option Tree) → Sh Nat
  | [] => return 0
  | (patterns, body?) :: rest => do
    if ← fitsAny ev text patterns then
      match body? with
      | some body => ev.tree (some body) mode
      | none => return 0
    else chooseArm ev mode text rest

/-! ## Processes -/

/-- Runs a command in a shell of its own. -/
def runSubshell (ev : Evaluator) (mode : Mode) (t body : Tree) (redirections : List Redirection) :
    Sh Nat := do
  let targets ← Redirect.targets ev redirections
  let run : Sh Unit := do
    Redirect.redirect ev targets
    let _ ← ev.tree (some body) { mode with isLast := true }
  if mode.isLast && !(← get).hasActions then
    run
    return 0
  else
    let number ← addJob
    let id ← startChild ev (some t) run
    addMember number id
    awaitJob number

/-- Notes the process in the background that was started last. -/
def noteBackground (id : Nat) : Sh Unit := modify fun s => { s with lastBackground? := some id }

/-- Runs a command in the background. -/
def runBackground (ev : Evaluator) (t body : Tree) (redirections : List Redirection) : Sh Nat := do
  let targets ← Redirect.targets ev redirections
  let number ← addJob
  let id ← startChild ev (some t) do
    enterBackground true
    Redirect.redirect ev targets
    let _ ← ev.tree (some body) { isLast := true }
  addMember number id
  noteBackground id
  return 0

/-- Looks a command up before it runs in a process of its own, so that where it is found is remembered
here. -/
def lookAhead : Tree → Sh Unit
  | .simple _ _ (w :: _) _ => do
    match Word.plain? w with
    | some name => if Ascii.isName name then let _ ← Lookup.find {} name
    | none => return
  | _ => return

/-- In the process of a command of a pipeline: lets its input and its output lead to the pipes. -/
def joinPipes (input? : Option Nat) (output? : Option (Nat × Nat)) : Sh Unit := do
  match output? with
  | some (reader, _) =>
    let _ ← ask (.close reader)
  | none => pure ()
  match input? with
  | some input =>
    if 0 < input then
      let _ ← ask (.redirect input 0)
      let _ ← ask (.close input)
  | none => pure ()
  match output? with
  | some (_, writer) =>
    if 1 < writer then
      let _ ← ask (.redirect writer 1)
      let _ ← ask (.close writer)
  | none => pure ()

/-- Starts the commands of a pipeline, each in a process of its own. -/
def startPipeline (ev : Evaluator) (isTested isBackground : Bool) (number : Nat) :
    Bool → Option Nat → List Tree → Sh Unit
  | _, _, [] => return
  | isFirst, input?, t :: rest => do
    lookAhead t
    let output? ← if rest.isEmpty then pure none else some <$> ask .pipe
    let id ← startChild ev (some t) do
      whenever isBackground (enterBackground isFirst)
      joinPipes input? output?
      let _ ← ev.tree (some t) { isLast := true, isTested }
    addMember number id
    whenever isBackground (noteBackground id)
    match input? with
    | some input =>
      let _ ← ask (.close input)
    | none => pure ()
    match output? with
    | some (_, writer) =>
      let _ ← ask (.close writer)
    | none => pure ()
    startPipeline ev isTested isBackground number false (output?.map Prod.fst) rest

/-- Runs a pipeline. -/
def runPipeline (ev : Evaluator) (mode : Mode) (isBackground : Bool) (commands : List Tree) :
    Sh Nat := do
  let number ← addJob
  startPipeline ev mode.isTested isBackground number true none commands
  if isBackground then return 0 else awaitJob number

/-! ## All commands -/

/-- What a command came to. -/
structure Result where
  /-- The status; the one of the last command stands if there is none. -/
  status? : Option Nat
  /-- Does a failure end the shell? -/
  isChecked : Bool := false

/-- A command whose body runs under redirections that are taken back. -/
def runRedirected (ev : Evaluator) (mode : Mode) (body : Tree) (redirections : List Redirection) :
    Sh Result := do
  let targets ← Redirect.targets ev redirections
  whenever (!targets.isEmpty) Redirect.beginKeeping
  let result : Result ←
    if ← Redirect.redirectKept ev targets then do
      pure ⟨some (← ev.tree (some body) { isTested := mode.isTested }), false⟩
    else pure ⟨some 2, true⟩
  whenever (!targets.isEmpty) (Redirect.endKeeping false)
  return result

/-- Runs a command. -/
def runTree (ev : Evaluator) (mode : Mode) (t : Tree) : Sh Result := do
  let inner : Mode := { isTested := mode.isTested }
  match t with
  | .simple line assignments words redirections =>
    markLine line
    return ⟨some (← Simple.run ev mode assignments words redirections), true⟩
  | .redirected line body redirections =>
    markLine line
    runRedirected ev mode body redirections
  | .pipeline commands isBackground =>
    return ⟨some (← runPipeline ev mode isBackground commands), true⟩
  | .subshell line body redirections =>
    markLine line
    return ⟨some (← runSubshell ev mode t body redirections), true⟩
  | .background line body redirections =>
    markLine line
    return ⟨some (← runBackground ev t body redirections), true⟩
  | .both left right =>
    let status ← ev.tree (some left) { isTested := true }
    if status ≠ 0 || (← look Shell.skip) ≠ .none then return ⟨none, false⟩
    else return ⟨some (← ev.tree (some right) mode), false⟩
  | .either left right =>
    let status ← ev.tree (some left) { isTested := true }
    if status = 0 || (← look Shell.skip) ≠ .none then return ⟨none, false⟩
    else return ⟨some (← ev.tree (some right) mode), false⟩
  | .sequence left right =>
    let _ ← ev.tree (some left) inner
    if (← look Shell.skip) ≠ .none then return ⟨none, false⟩
    else return ⟨some (← ev.tree (some right) mode), false⟩
  | .negation body =>
    let status ← ev.tree (some body) { isTested := true }
    if (← look Shell.skip) ≠ .none then return ⟨some status, false⟩
    else return ⟨some (if status = 0 then 1 else 0), false⟩
  | .branch test yes no? =>
    let status ← ev.tree test { isTested := true }
    if (← look Shell.skip) ≠ .none then return ⟨none, false⟩
    else if status = 0 then return ⟨some (← ev.tree yes mode), false⟩
    else match no? with
      | some no => return ⟨some (← ev.tree (some no) mode), false⟩
      | none => return ⟨some 0, false⟩
  | .loop isWhile test body =>
    return ⟨some (← inLoop (runLoop ev isWhile test body inner limit 0)), false⟩
  | .each line name words body =>
    markLine line
    let fields ← mapList (Expansion.fields ev) words
    return ⟨some (← inLoop (runEach ev name body inner 0 fields.flatten)), false⟩
  | .choose line subject arms =>
    markLine line
    let text ← Expansion.text ev subject
    return ⟨some (← chooseArm ev mode text arms), false⟩
  | .define name body =>
    modify fun s => { s with functions := (name, body) :: s.functions.filter (·.1 ≠ name) }
    return ⟨some 0, false⟩

/-- Runs a command with the actions for signals around it. -/
def run (ev : Evaluator) (tree? : Option Tree) (mode : Mode) : Sh Nat := do
  let failed ← match tree? with
    | none => pure false
    | some t => do
      if ← hasFlag .noExecution then pure false
      else
        Ending.runTraps ev
        let result ← runTree ev mode t
        match result.status? with
        | some status => modify fun s => { s with status := status }
        | none => pure ()
        pure (result.isChecked && result.status? ≠ some 0)
  Ending.runTraps ev
  let endsOnError ← hasFlag .stopOnError
  if mode.isLast || (failed && endsOnError && !mode.isTested) then raise .finish
  else look Shell.status

end Command

/-- The evaluator for commands that are nested up to a depth. -/
def Evaluator.ofDepth : Nat → Evaluator
  | 0 =>
    { tree := fun _ _ => Sh.fail "nested too deeply"
      word := fun _ _ _ => Sh.fail "nested too deeply"
      source := fun _ _ => Sh.fail "nested too deeply"
      leave := fun _ => Sh.exitProcess 2 }
  | depth + 1 =>
    { tree := fun t mode s next raised => Command.run (ofDepth depth) t mode s next raised
      word := fun style isQuoted w s next raised =>
        Expansion.segments (ofDepth depth) style isQuoted w s next raised
      source := fun source mode s next raised =>
        Script.run (ofDepth depth) source mode s next raised
      leave := fun r s next raised => Ending.leave (ofDepth depth) r s next raised }

/-- The evaluator for commands that are nested as deeply as any script nests them. -/
def evaluator : Evaluator := .ofDepth (Nat.pow 2 40)

end SurfaceGuard.Shell
