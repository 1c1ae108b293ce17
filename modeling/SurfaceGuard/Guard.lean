import SurfaceGuard.Baseline.Store
import SurfaceGuard.Export
import SurfaceGuard.Run

/-!
# The guard

For each target: export its symbol graph, make a snapshot, and store it as the new
baseline or compare it with the stored one.  The failure of one target becomes its
result and does not stop the others.
-/

namespace SurfaceGuard

/-- What the guard works with. -/
structure Context where
  config : Config
  exporter : Exporter
  /-- The time that snapshots are stamped with, if it is not that of the clock. -/
  now? : Option Number := none

/-- What a run is asked to do; an absent setting is taken from the configuration. -/
structure RunOptions where
  update : Bool
  mode : Option Mode
  failOnAdditions : Option Bool
  deriving DecidableEq, Repr

namespace Guard

/-- The context for a configuration with the command exporter. -/
def context (launch : Launcher) (config : Config) (cwd : Text) : Context :=
  { config, exporter := Export.byCommand launch (Export.Settings.ofConfig config cwd) }

/-! ## One target -/

/-- The snapshot of a graph, with its remarks recorded. -/
def snapshotOf (graph : Graph) (target : Text) (now : Number) : Task Snapshot := do
  Task.recordAll (graph.remarks target)
  Task.ofOption Timestamp.invalid (graph.snapshot? target now)

/-- Exports a target and makes a snapshot of it. -/
def produce (ctx : Context) (target : Text) : Task Snapshot := do
  let file ← ctx.exporter target
  let graph ← Export.readGraph target file
  let clock ← Task.now
  snapshotOf graph target (ctx.now?.getD clock)

/-- The time that has passed since a point in time. -/
def elapsedSince (start : Number) : Task Number :=
  Task.look fun w => w.clock.sub start

/-- Stores the current interface of a target as its baseline. -/
def update (ctx : Context) (target : Text) : Task TargetResult := do
  let start ← Task.now
  let snapshot ← produce ctx target
  let file ← Baseline.save snapshot ctx.config.baselineDir
  let count := snapshot.symbols.size
  Task.say .info ("✅ Updated baseline: " ++ target ++ " (" ++ Text.ofNat count ++ " symbols)")
  return .updated target (Number.ofNat count) file (← elapsedSince start)

/-- What is recorded about a decision. -/
def remarkOn (target : Text) (decision : Decision) : Entry :=
  if decision.passed then .message .info ("✅ " ++ target ++ ": no breaking API changes")
  else .message .warning (target ++ ": " ++ decision.outcome.name)

/-- Compares the current interface of a target with its baseline. -/
def check (ctx : Context) (target : Text) (mode : Mode) (failOnAdditions : Bool) :
    Task TargetResult := do
  let start ← Task.now
  let stored ← Baseline.load ctx.config.baselineDir target
  let current ← produce ctx target
  let diff := Diff.between stored current
  let decision := Policy.evaluate diff mode failOnAdditions
  Task.record (remarkOn target decision)
  return .checked target decision (diff.changes stored current) (← elapsedSince start)

/-! ## All targets -/

/-- Updates or checks a target; its failure is recorded and becomes the result. -/
def runTarget (ctx : Context) (isUpdate : Bool) (mode : Mode) (failOnAdditions : Bool)
    (target : Text) : Task TargetResult := do
  let start ← Task.now
  Task.group ("📋 Target: " ++ target) do
    match ← Task.outcome
        (if isUpdate then update ctx target else check ctx target mode failOnAdditions) with
    | .ok result => return result
    | .error e =>
      match e.describe with
      | .error noText => Task.fail (.error noText.message)
      | .ok info =>
        Task.say .error (target ++ ": " ++ info.message)
        return .failed target info (← elapsedSince start)

/-- The results of the targets, one after the other. -/
def runTargets (ctx : Context) (isUpdate : Bool) (mode : Mode) (failOnAdditions : Bool) :
    List Text → Task (List TargetResult)
  | [] => return []
  | target :: targets => do
    let result ← runTarget ctx isUpdate mode failOnAdditions target
    return result :: (← runTargets ctx isUpdate mode failOnAdditions targets)

/-- Updates or checks every configured target. -/
def run (ctx : Context) (options : RunOptions) : Task RunResult := do
  let mode := options.mode.getD ctx.config.mode
  let failOnAdditions := options.failOnAdditions.getD ctx.config.failOnAdditions
  let results ← runTargets ctx options.update mode failOnAdditions ctx.config.targets
  let generatedAt ← Task.ofOption Timestamp.invalid (Timestamp.text? (← Task.now))
  return { generatedAt, update := options.update, mode, failOnAdditions, results,
           passed := results.all TargetResult.isPassing }

end Guard

end SurfaceGuard
