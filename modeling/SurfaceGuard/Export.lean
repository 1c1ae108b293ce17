import SurfaceGuard.Config
import SurfaceGuard.Host.Task
import SurfaceGuard.Number.Decimal

/-!
# Exporting symbol graphs

An exporter produces the symbol graph of a target and tells where the file is.  The
command exporter empties a directory of the target's own, runs the configured command,
and copies the newest graph of the target to that directory.
-/

namespace SurfaceGuard

/-- Produces the symbol graph of a target and returns the path of the file. -/
abbrev Exporter := Text → Task Text

/-- What a command that was run to its end leaves behind. -/
structure ExecOutput where
  exitCode : Nat
  stdout : Text
  stderr : Text
  deriving DecidableEq, Repr

/-- Runs a command in a directory with a time limit.  A command that cannot be started or exceeds
its limit ends with a message. -/
abbrev Launcher :=
  (argv : List Text) → (cwd : Text) → (timeoutMs : Number) → World → Except Text ExecOutput × World

namespace Export

/-! ## Finding graphs -/

/-- The ending of the name of a symbol graph. -/
def graphEnding : Text := ".symbols.json"

/-- Is it the name of a graph of the target, for any platform? -/
def isGraphName (target name : Text) : Bool :=
  Text.endsWith name graphEnding
    && (Text.startsWith name (target ++ ".") || Text.startsWith name (target ++ "@"))

/-- The last of the files with the greatest time. -/
def newest? (files : List (Text × Int)) : Option Text :=
  (files.foldl (fun (best? : Option (Text × Int)) f =>
    match best? with
    | some best => if f.2 < best.2 then some best else some f
    | none => some f) none).map Prod.fst

/-- Each path with the time of its last change. -/
def stampAll : List Text → Task (List (Text × Int))
  | [] => return []
  | file :: files => do
    let modified ← Task.modifiedAt file
    return (file, modified) :: (← stampAll files)

/-- The newest graph of a target in a directory, if there is one. -/
def findGraph (dir target : Text) : Task (Option Text) := do
  if ← Task.pathExists dir then
    let names ← Task.listDirectory dir
    let files ← stampAll ((names.filter (isGraphName target)).map (Path.join dir))
    return newest? files
  else
    return none

/-- The graph in a file that was exported for a target. -/
def readGraph (target file : Text) : Task Graph := do
  match ← Task.outcome (Task.readText file) with
  | .ok content => Task.ofGuard (Graph.parse content file)
  | .error (.error message) => refuse ("Error: " ++ message)
  | .error (.badArgument message) => refuse ("TypeError [ERR_INVALID_ARG_VALUE]: " ++ message)
  | .error e => Task.fail e
where
  /-- The failure for a file that cannot be read. -/
  refuse (reason : Text) : Task Graph :=
    Task.fail (.guard (.exportUnavailable target
      ("Cannot read symbol graph " ++ file ++ ": " ++ reason) []))

/-! ## The command exporter -/

/-- The settings of the command exporter. -/
structure Settings where
  cwd : Text
  command : List Text
  symbolGraphDir : Text
  outputDir : Text
  timeoutMs : Number
  deriving DecidableEq, Repr

/-- The settings for a configuration. -/
def Settings.ofConfig (c : Config) (cwd : Text) : Settings :=
  ⟨cwd, c.exportCommand, c.symbolGraphDir, c.outputDir, c.exportTimeoutMs⟩

/-- The failure of an export. -/
def unavailable {α : Type} (target reason output : Text) : Task α :=
  Task.fail (.guard (.exportUnavailable target reason output))

/-- Runs the export command to a successful end. -/
def runCommand (launch : Launcher) (settings : Settings) (target : Text) : Task ExecOutput := do
  match ← Task.outcome fun w =>
      match launch settings.command settings.cwd settings.timeoutMs w with
      | (.ok output, w) => (.ok output, w)
      | (.error message, w) => (.error (.error message), w) with
  | .ok output =>
    if output.exitCode = 0 then
      return output
    else
      unavailable target
        (settings.command.headD [] ++ " exited with code " ++ Text.ofNat output.exitCode)
        (Text.trim (output.stdout ++ output.stderr))
  | .error (.error message) =>
    unavailable target ("Symbol graph export failed: " ++ message) []
  | .error e => Task.fail e

/-- The exporter that runs the configured command. -/
def byCommand (launch : Launcher) (settings : Settings) : Exporter := fun target => do
  let own := Path.join settings.outputDir target
  Task.removePath own
  Task.makeDirectories own
  Task.say .debug ("Running: " ++ Text.join " " settings.command)
  let output ← runCommand launch settings target
  let remark := Text.trim output.stderr
  if !remark.isEmpty then Task.say .debug remark
  match ← findGraph settings.symbolGraphDir target with
  | none =>
    unavailable target ("No .symbols.json produced for target " ++ target ++ " in "
      ++ settings.symbolGraphDir) []
  | some produced =>
    let copy := Path.join own (target ++ graphEnding)
    Task.copyFile produced copy
    Task.say .debug ("Symbol graph for " ++ target ++ ": " ++ produced)
    return copy

end Export

end SurfaceGuard
