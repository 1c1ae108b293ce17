import SurfaceGuard.Shell.Builtin.Directory
import SurfaceGuard.Shell.Builtin.Jobs
import SurfaceGuard.Shell.Builtin.Names
import SurfaceGuard.Shell.Builtin.Test
import SurfaceGuard.Shell.Builtin.Variables
import SurfaceGuard.Shell.Script

/-!
# Simple commands

A simple command runs in a fixed order: its words are expanded, then its redirections are
carried out, then its assignments, and only then the command is looked up for good.  What a
redirection changes is taken back afterwards, and so is what an assignment changes, unless
the command is special or there is none.
-/

namespace SurfaceGuard.Shell.Simple

open Sh

/-! ## Words -/

/-- Words of which the first ones are expanded. -/
structure Filling where
  ready : List Bytes
  left : List Word

/-- Expands words until so many fields are ready, if that is possible. -/
def reach (ev : Evaluator) (count : Nat) : List Bytes → List Word → Sh Filling
  | ready, [] => return ⟨ready, []⟩
  | ready, w :: left => do
    if count ≤ ready.length then return ⟨ready, w :: left⟩
    else reach ev count (ready ++ (← Expansion.fields ev w)) left

/-- Where the command starts that follows the word `command` and its options, and whether it is looked
for in the default directories; none if it is only asked about. -/
def afterOptions (ev : Evaluator) :
    Nat → Nat → Bool → Filling → Sh (Filling × Option (Nat × Bool))
  | 0, _, _, f => return (f, none)
  | fuel + 1, start, usesDefault, f => do
    let f ← reach ev (start + 1) f.ready f.left
    match f.ready[start]? with
    | none => return (f, none)
    | some [0x2D, 0x2D] =>
      let f ← reach ev (start + 2) f.ready f.left
      return (f, if start + 1 < f.ready.length then some (start + 1, usesDefault) else none)
    | some (0x2D :: c :: letters) =>
      if (c :: letters).all (· == 0x70) then afterOptions ev fuel (start + 1) true f
      else return (f, none)
    | some _ => return (f, some (start, usesDefault))

/-- A command whose words are expanded. -/
structure Call where
  /-- All words, and how many of them stand in front of the command. -/
  fields : List Bytes
  skipped : Nat
  scope : Lookup.Scope
  /-- Is the first word a special command? -/
  isSpecial : Bool
  /-- Is the command built in? -/
  isBuiltin : Bool

namespace Call

/-- The command and its arguments. -/
def words (c : Call) : List Bytes := c.fields.drop c.skipped

/-- Is it a command that changes the shell for good? -/
def isExec (c : Call) : Bool := c.isBuiltin && c.words.head? == some (ascii "exec")

end Call

/-- The commands whose arguments are expanded like assignments. -/
def assigning : List Bytes := ["export", "readonly", "local", "alias"]

/-- Expands the words of a command, from the one on that names it. -/
def nameFrom (ev : Evaluator) (isSpecial? : Option Bool) (scope : Lookup.Scope) :
    Nat → Nat → Filling → Sh (Filling × Call)
  | 0, start, f => return (f, ⟨[], start, scope, false, false⟩)
  | fuel + 1, start, f => do
    let name := (f.ready[start]?).getD []
    let isFunction := scope.hasFunctions && ((← look Shell.functions).lookup name).isSome
    let isBuiltin := !isFunction && Lookup.isBuiltin name
    let isSpecial := isSpecial?.getD (isBuiltin && specialCommands.contains name)
    let call : Call := ⟨[], start, scope, isSpecial, isBuiltin⟩
    if !(isBuiltin && name = ascii "command") then return (f, call)
    else
      match ← afterOptions ev fuel (start + 1) scope.path?.isSome f with
      | (f, none) => return (f, call)
      | (f, some (next, usesDefault)) =>
        nameFrom ev isSpecial
          ⟨if usesDefault then some Lookup.defaultPath else none, false⟩ fuel next f

/-- Expands the words of a command. -/
def expand (ev : Evaluator) (words : List Word) : Sh Call := do
  let f ← reach ev 1 [] words
  if f.ready.isEmpty then return ⟨[], 0, {}, false, false⟩
  else
    let (f, call) ← nameFrom ev none {} limit 0 f
    let assigns := call.isBuiltin && assigning.contains ((f.ready[call.skipped]?).getD [])
    let others ← mapList (fun (w : Word) => do
      if assigns && w.isAssignment then return [← Expansion.assignment ev w]
      else Expansion.fields ev w) f.left
    return { call with fields := f.ready ++ others.flatten }

/-! ## Commands that run other commands -/

/-- `eval`. -/
def eval (ev : Evaluator) (mode : Mode) (args : List Bytes) : Sh Nat := do
  if args.isEmpty then return 0
  else ev.text (Ascii.join [0x20] args) { isTested := mode.isTested }

/-- The script that a name stands for, looked for where commands are. -/
def findScript (name : Bytes) : List Bytes → Sh Bytes
  | [] => fail (name ++ ascii ": not found")
  | directory :: rest => do
    let path := Lookup.pathIn directory name
    match ← ask (.inspect path) with
    | .ok info => if info.kind = .file then return path else findScript name rest
    | .error _ => findScript name rest

/-- A descriptor for a script, out of the way of those that commands use. -/
def openScript (path : Bytes) : Sh Nat := do
  match ← ask (.openFile path .toRead 0) with
  | .error e =>
    let reason := if e = .noEntry || e = .notDirectory then ascii "No such file" else e.reason
    fail (ascii "cannot open " ++ path ++ ascii ": " ++ reason)
  | .ok opened =>
    match ← ask (.duplicate opened 10) with
    | .ok moved =>
      let _ ← ask (.close opened)
      return moved
    | .error _ => return opened

/-- Lets the shell go on after a function or a script that was left. -/
def endFunction : Sh Unit := modify fun s =>
  match s.skip with
  | .function => { s with skip := .none }
  | .functionAsIs => { s with skip := .none }
  | _ => s

/-- `.`. -/
def dot (ev : Evaluator) (args : List Bytes) : Sh Nat := do
  match ← Builtin.operandsOf args with
  | [] => return 0
  | name :: _ =>
    let path ← if name.contains 0x2F then pure name
      else findScript name (Lookup.directories (← get) {})
    let script ← openScript path
    modify fun s => { s with command? := some path }
    let end_ ← attempt (ev.source ⟨[], some script⟩ {})
    let _ ← ask (.close script)
    match end_ with
    | .ok status =>
      endFunction
      return status
    | .error r => raise r

/-- `exec`. -/
def exec (args : List Bytes) : Sh Nat := do
  match ← Builtin.operandsOf args with
  | [] => return 0
  | words => Lookup.execute {} 0 words

/-- The special commands by their names. -/
def special (ev : Evaluator) (mode : Mode) : List (Bytes × (List Bytes → Sh Nat)) :=
  [(":", fun _ => return 0), (".", dot ev), ("break", Builtin.leaveLoops true),
    ("continue", Builtin.leaveLoops false), ("eval", eval ev mode), ("exec", exec),
    ("exit", Builtin.exit), ("export", Builtin.mark true "export"), ("local", Builtin.makeLocals),
    ("readonly", Builtin.mark false "readonly"), ("return", Builtin.return_), ("set", Builtin.set),
    ("shift", Builtin.shift), ("times", fun _ => Builtin.times), ("trap", Builtin.trap),
    ("unset", Builtin.unset)]

/-- The other commands that are built into the shell, by their names. -/
def regular : List (Bytes × (List Bytes → Sh Nat)) :=
  [("true", fun _ => return 0), ("false", fun _ => return 1), ("alias", Builtin.alias_),
    ("bg", Builtin.resumeJob), ("cd", Builtin.cd), ("chdir", Builtin.cd),
    ("command", Builtin.command), ("echo", Builtin.echo), ("fg", Builtin.resumeJob),
    ("getopts", Builtin.getopts), ("hash", Builtin.hash), ("jobs", Builtin.jobs),
    ("kill", Builtin.kill), ("printf", Builtin.printf), ("pwd", Builtin.pwd), ("read", Builtin.read),
    ("test", Test.command "test"), ("[", Test.command "["), ("type", Builtin.type_),
    ("ulimit", Builtin.ulimit), ("umask", Builtin.umask), ("unalias", Builtin.unalias),
    ("wait", Builtin.wait)]

/-- Runs a command that is built into the shell. -/
def builtin (ev : Evaluator) (mode : Mode) (name : Bytes) (args : List Bytes) : Sh Nat :=
  match (regular.lookup name) <|> ((special ev mode).lookup name) with
  | some run => run args
  | none => return 0

/-- Runs a command that is built into the shell, and writes its output.  A failure of one that is not
special is only a failure of the command. -/
def runBuiltin (ev : Evaluator) (mode : Mode) (isSpecial : Bool) (name : Bytes) (args : List Bytes) :
    Sh Unit := do
  let former? ← look Shell.command?
  modify fun s => { s with command? := some name }
  let end_ ← attempt do
    let status ← builtin ev mode name args
    let isWritten ← flush
    whenever (!isWritten) (warn (name ++ ascii ": I/O error"))
    modify fun s => { s with status := if isWritten then status else status ||| 1 }
  modify fun s => { s with command? := former?, unwritten := [] }
  match end_ with
  | .ok () => return
  | .error r => whenever (r ≠ .error || isSpecial) (raise r)

/-! ## Functions -/

/-- How deeply functions may call each other. -/
def functionLimit : Nat := 1000

/-- Runs a function with arguments. -/
def runFunction (ev : Evaluator) (mode : Mode) (body : Tree) (args : List Bytes) : Sh Unit := do
  let s ← get
  if functionLimit ≤ s.depth then
    fail (ascii "Maximum function recursion depth (" ++ Ascii.ofNat functionLimit
      ++ ascii ") reached")
  else
    modify fun s =>
      { Builtin.withArguments args s with loops := 0, depth := s.depth + 1 }
    let end_ ← attempt (ev.tree (some body) { isTested := mode.isTested })
    modify fun after =>
      { after with
        arguments := s.arguments, optionIndex := s.optionIndex, optionOffset := s.optionOffset
        loops := s.loops, depth := s.depth }
    endFunction
    match end_ with
    | .ok _ => return
    | .error r => raise r

/-! ## Assignments -/

/-- Carries out an assignment, and returns it as a word. -/
def assign (ev : Evaluator) (isLocal isExported : Bool) (w : Word) : Sh Bytes := do
  let text ← Expansion.assignment ev w
  if isLocal then makeLocal text true
  else
    let (name, value?) := splitAssignment text
    setVariableWith name (some (value?.getD [])) isExported false
  return text

/-- Shows a command before it runs, if that is asked for, where messages went before its own
redirections. -/
def trace (ev : Evaluator) (isRedirected : Bool) (words : List Bytes) : Sh Unit := do
  if (← hasFlag .traceCommands) && !(← look Shell.isTracing) then
    modify fun s => { s with isTracing := true }
    let front ← Script.prompt ev ((← get).valueOf "PS4")
    modify fun s => { s with isTracing := false }
    let kept := (← look Shell.redirected).headD []
    let copy? := if isRedirected then (kept.lookup 2).join else none
    let _ ← writeTo (copy?.getD 2) (front ++ Ascii.join [0x20] words ++ Ascii.newline)

/-! ## Running -/

/-- Runs a program in a process of its own, or in this one if that has nothing else to do. -/
def runProgram (mode : Mode) (scope : Lookup.Scope) (index : Nat) (words : List Bytes) : Sh Nat := do
  if mode.isLast && !(← get).hasActions then Lookup.execute scope index words
  else
    let number ← addJob
    let id ← fork (Lookup.execute scope index words)
    addMember number id
    awaitJob number

/-- Takes note of children that have ended; the status of the last command. -/
def status : Sh Nat := do
  if !(← look Shell.jobs).isEmpty then
    let _ ← awaitAll none limit .none
  look Shell.status

/-- Runs a command whose redirections and assignments have been carried out. -/
def runCall (ev : Evaluator) (mode : Mode) (c : Call) : Sh Nat := do
  match c.words with
  | [] =>
    modify fun s => { s with status := s.substituted }
    status
  | name :: args =>
    if c.isBuiltin then
      runBuiltin ev mode c.isSpecial name args
      status
    else
      match ← Lookup.find c.scope name with
      | .function body =>
        runFunction ev mode body args
        status
      | .builtin =>
        runBuiltin ev mode c.isSpecial name args
        status
      | .program index => runProgram mode c.scope index c.words
      | .path => runProgram mode c.scope 0 c.words
      | .missing e =>
        warn (name ++ ascii ": " ++ Lookup.reason e)
        modify fun s => { s with status := 127 }
        return 127

/-- Runs a simple command. -/
def run (ev : Evaluator) (mode : Mode) (assignments words : List Word)
    (redirections : List Redirection) : Sh Nat := do
  modify fun s => { s with substituted := 0 }
  let c ← expand ev words
  let isLocal := !c.fields.isEmpty && !c.isSpecial
  let before ← get
  whenever isLocal beginSaving
  let targets ← Redirect.targets ev redirections
  whenever (!targets.isEmpty) Redirect.beginKeeping
  let result ←
    if !(← Redirect.redirectKept ev targets) then do
      modify fun s => { s with status := 2 }
      whenever c.isSpecial (raise .error)
      pure 2
    else do
      let isExported := c.isExec && 1 < c.words.length
      let assigned ← mapList (assign ev isLocal isExported) assignments
      trace ev (!targets.isEmpty) (assigned ++ c.fields)
      runCall ev mode c
  whenever (!targets.isEmpty) (Redirect.endKeeping c.isExec)
  Redirect.unwindTo before.redirected.length
  endSavingTo before.saved.length (← look Shell.saved).length
  return result

end SurfaceGuard.Shell.Simple
