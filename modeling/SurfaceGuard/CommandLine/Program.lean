import SurfaceGuard.CommandLine.Help
import SurfaceGuard.Guard
import SurfaceGuard.Report.Store

/-!
# The command-line program

One run of the guard from the command line.  The output stream has the report of a run
that passes and nothing else; whatever is logged, and the report of a run that fails, go
to the error stream.
-/

namespace SurfaceGuard

/-- What a program leaves behind when it ends. -/
structure Exit where
  code : Nat
  streams : Streams
  deriving DecidableEq, Repr

/-- The configuration in a file. -/
def Config.load (path cwd : Text) : Task Config := do
  let file := Path.resolve cwd path
  if ← Task.pathExists file then
    let content ← Task.readText file
    Task.ofGuard (Config.parse content file cwd)
  else
    Task.fail (.guard (.configNotFound file))

namespace CommandLine

/-- The logger that the options ask for. -/
def logger (o : CliOptions) : Logger := if o.quiet then .quiet else .console o.verbose

/-- The run that the options ask for, with its reports stored. -/
def guarded (launch : Launcher) (o : CliOptions) (cwd : Text) : Task RunResult := do
  let config ← Config.load o.config cwd
  let run ← Guard.run (Guard.context launch config cwd) ⟨o.update, o.mode, o.failOnAdditions⟩
  match o.reportDir with
  | none | some [] => return run
  | some dir =>
    let _ ← Report.save run (Report.markdown run) dir
    return run

/-- The program with the given options. -/
def program (launch : Launcher) (o : CliOptions) (cwd : Text) (w : World) :
    Except NoText Exit × World :=
  match guarded launch o cwd { w with log := [] } with
  | (.ok run, w) =>
    let logged := (logger o).render w.log
    if run.passed then (.ok ⟨0, logged ++ .out (Report.plain run)⟩, w)
    else (.ok ⟨1, logged ++ .err (Report.plain run)⟩, w)
  | (.error e, w) =>
    (e.describe.map fun info =>
      ⟨1, (logger o).render (w.log ++ [.message .error info.message])⟩, w)

end CommandLine

end SurfaceGuard
