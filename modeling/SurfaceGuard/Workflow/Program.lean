import SurfaceGuard.CommandLine.Program
import SurfaceGuard.Workflow.Output

/-!
# The workflow program

One run of the guard as a step of a workflow.  The reports go to the configured output
directory, the verdict and the counts are handed over as outputs of the step, the Markdown report
is added to the job summary, and everything else is written as workflow commands.
-/

namespace SurfaceGuard.Workflow

/-- The outputs of the step. -/
def outputs (run : RunResult) (saved : Report.Saved) : List Output :=
  [⟨"status", if run.passed then "passed" else "failed"⟩,
    ⟨"report_path", saved.markdownPath⟩,
    ⟨"json_report_path", saved.jsonPath⟩,
    ⟨"passed_count", Text.ofNat run.summary.passedCount⟩,
    ⟨"failed_count", Text.ofNat run.summary.failedCount⟩]

/-- The message for a step without a file for its job summary. -/
def noSummary : Text :=
  "Unable to find environment variable for $GITHUB_STEP_SUMMARY. Check if your runtime environment supports job summaries."

/-- The message for a job summary that cannot be read and written. -/
def noAccess (path : Text) : Text :=
  "Unable to access summary file: '" ++ path
    ++ "'. Check if the file has correct read/write permissions."

/-- The name of the variable for the path of the job summary. -/
def summaryName : Text := "GITHUB_STEP_SUMMARY"

/-- Adds a text to the job summary. -/
def appendSummary (given : Variables) (text : Text) : Task Unit := do
  match (Members.get? summaryName given).getD [] with
  | [] => Task.fail (.error noSummary)
  | path =>
    if ← Task.isAccessible path then Task.appendBytes path (Utf8.encode text)
    else Task.fail (.error (noAccess path))

/-- The run that the inputs ask for, with everything published but the verdict. -/
def guarded (launch : Launcher) (given : Variables) (cwd : Text) : Task RunResult := do
  let inputs ← Task.ofGuard (Inputs.read given)
  let config ← Config.load inputs.configPath cwd
  let run ← Guard.run (Guard.context launch config cwd)
    ⟨inputs.update, inputs.mode, inputs.failOnAdditions⟩
  let markdown := Report.markdown run
  let saved ← Report.save run markdown config.outputDir
  setOutputs given (outputs run saved)
  appendSummary given markdown
  Task.say .info (Report.plain run)
  return run

/-- The message of a run that fails. -/
def failure : Text := "API guard failed: see the report for details"

/-- The program with the given variables, which the commands that it runs are given too. -/
def program (launch : Launcher) (given : Variables) (cwd : Text) (w : World) :
    Except NoText Exit × World :=
  let start := { w with log := [], environment := w.environment ++ given.entries }
  let (end_, after) := guarded launch given cwd start
  let after := { after with environment := w.environment }
  match end_ with
  | .ok run =>
    if run.passed then (.ok ⟨0, Logger.workflow.render after.log⟩, after)
    else (.ok ⟨1, Logger.workflow.render (after.log ++ [.message .error failure])⟩, after)
  | .error e =>
    (e.describe.map fun info =>
      ⟨1, Logger.workflow.render (after.log ++ [.message .error info.message])⟩, after)

end SurfaceGuard.Workflow
