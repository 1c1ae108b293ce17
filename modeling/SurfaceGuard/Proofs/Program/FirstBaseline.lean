import SurfaceGuard.Proofs.Program.Ends
import SurfaceGuard.Proofs.Workflow.Inputs

/-!
# First baselines

A few small worlds in which both programs make the first baseline of a target, for the theorems
about the programs to be applied in.  What a program does in one of them is worked out in parts
(`FirstBaseline.Runs`): the core, the reports, and what is made known of a run.
-/

open SurfaceGuard.Task

namespace SurfaceGuard

/-- Writes the reports with the given texts. -/
def Report.put (jsonText markdownText outputDir : Text) : Task Saved := do
  let dir := Path.join outputDir "apiguard-report"
  Task.makeDirectories dir
  let jsonPath := Path.join dir "apiguard-report.json"
  Task.writeBytes jsonPath (Utf8.encode jsonText)
  Task.say .info ("📄 JSON report saved to: " ++ jsonPath)
  let markdownPath := Path.join dir "API_GUARD_REPORT.md"
  Task.writeBytes markdownPath (Utf8.encode markdownText)
  Task.say .info ("📄 Markdown report saved to: " ++ markdownPath)
  return ⟨jsonPath, markdownPath⟩

theorem Report.save_of_json {run : RunResult} {text : Text} (h : Report.json run = .ok text)
    (markdownText outputDir : Text) :
    Report.save run markdownText outputDir = Report.put text markdownText outputDir := by
  simp only [Report.save, Report.put, h]
  rfl

namespace FirstBaseline

/-- A file with a text. -/
def file (serial : Nat) (text : Text) : Node := .file ⟨serial, 0o644, 0⟩ (Utf8.encode text)

/-- A directory with entries. -/
def directory (serial : Nat) (entries : List (Bytes × Node)) : Node :=
  .directory ⟨serial, 0o755, 0⟩ entries

/-- A configuration for one target, its graph, a file for outputs, a job summary, and what was put
out before. -/
def world (out : List (Bytes × Node)) : World :=
  .quiet ⟨directory 0
    [(".apiguard.json", file 1 "\x7b\"targets\":[\"A\"]\x7d"),
      (".build", directory 2
        [("symbol-graphs", directory 3 [("A.symbols.json", file 4 "\x7b\"symbols\":[]\x7d")]),
          ("apiguard", directory 5 out)]),
      ("outputs", file 6 ""), ("summary", file 7 "")], 10⟩

/-- The directory for the output. -/
def outputDir : Text := "/.build/apiguard"

/-- The options of a command line that makes the baseline. -/
def options : CliOptions := { update := true, reportDir := some outputDir }

/-- The variables of a step that makes it, with paths for its outputs and its summary. -/
def inputs (outputs summary : Text) : Workflow.Variables :=
  [("INPUT_CONFIG", ".apiguard.json"), ("INPUT_UPDATE", " TRUE\t"), (Workflow.outputName, outputs),
    (Workflow.summaryName, summary)]

/-- The export command does nothing. -/
def idle : Launcher := fun _ _ _ w => (.ok ⟨0, [], []⟩, w)

/-- The run with the result for the target. -/
def runWith (result : TargetResult) : RunResult :=
  ⟨"1970-01-01T00:00:00.000Z", true, .semver, false, [result], result.isPassing⟩

/-- The run of a command that succeeds. -/
def updated : RunResult := runWith (.updated "A" (.zero false) "/api-baseline/A.json" (.zero false))

theorem isConfined_idle : idle.IsConfined := ⟨fun _ _ _ w => ⟨w.toMachine, w.clock, rfl, id⟩⟩

theorem ignores_idle (env env' : List Bytes) : idle.Ignores env env' :=
  fun _ _ _ _ _ htwin => ⟨rfl, htwin⟩

theorem spells_inputs (outputs summary : Text) :
    Workflow.Spells (inputs outputs summary) options where
  config := ⟨[], [], Text.isBlank_nil, Text.isBlank_nil, rfl⟩
  trimmed := by decide
  nonempty := by decide
  update := .inl (@Workflow.SpellsFlag.given true "TRUE" _
    (by simp [Text.IsCased, Workflow.flagWord]; decide) ⟨" ", "\t", by decide, by decide, rfl⟩)
  mode := .absent Text.isBlank_nil
  failOnAdditions := .absent Text.isBlank_nil

/-- Where the reports are. -/
def saved : Report.Saved :=
  ⟨outputDir ++ "/apiguard-report/apiguard-report.json",
    outputDir ++ "/apiguard-report/API_GUARD_REPORT.md"⟩

/-- The core of both programs. -/
def core (launch : Launcher) (w : World) : Except Thrown (Config × RunResult) × World :=
  Guard.fromFile launch options.config "/" (CommandLine.asked options) w

/-- What storing the reports of a run comes to. -/
def stored (launch : Launcher) (run : RunResult) (w : World) : Except Thrown Report.Saved × World :=
  Report.put ((Report.json run).toOption.getD []) (Report.markdown run) outputDir (core launch w).2

/-- What the step makes of a run that is stored. -/
def announced (launch : Launcher) (run : RunResult) (given : Workflow.Variables) (w : World) :
    Except Thrown RunResult × World :=
  Workflow.announce given run saved (stored launch run w).2

/-- The core ends with the run, and its reports are stored if the JSON report has a text. -/
abbrev Computes (launch : Launcher) (w : World) (run : RunResult) : Prop :=
  (core launch w).1.toOption.map (fun done => (done.1.outputDir, done.2)) = some (outputDir, run)
    ∧ (stored launch run w).1.toOption = some saved

/-- The core ends with the run, and the reports of the run are stored. -/
structure Runs (launch : Launcher) (w : World) (run : RunResult) : Prop where
  json : (Report.json run).toOption.isSome = true
  computes : Computes launch w run

theorem stored_eq {run : RunResult} (h : (Report.json run).toOption.isSome = true)
    (launch : Launcher) (w : World) :
    stored launch run w
      = Report.save run (Report.markdown run) outputDir (core launch w).2 := by
  obtain ⟨text, htext⟩ := Option.isSome_iff_exists.1 h
  rw [stored, htext, Report.save_of_json (eq_ok_of_toOption htext)]
  rfl

/-- A command that does nothing leaves the same behind, whatever variables it has. -/
theorem stored_twin {run : RunResult} (h : (Report.json run).toOption.isSome = true)
    {env env' : List Bytes} {w w' : World} (htwin : World.Twin env env' w w') :
    (core idle w').1 = (core idle w).1 ∧ (stored idle run w').1 = (stored idle run w).1
      ∧ World.Twin env env' (stored idle run w).2 (stored idle run w').2 := by
  obtain ⟨hcore, hafter⟩ := (Guard.built_fromFile idle options.config "/"
    (CommandLine.asked options)).twins (ignores_idle env env') w w' htwin
  have hstored := (Report.built_save run (Report.markdown run) outputDir).twins
    (Launcher.ignores_none env env') _ _ hafter
  rw [stored_eq h, stored_eq h]
  exact ⟨hcore, hstored⟩

/-- The step starts in the world of the command line, with its variables. -/
theorem twin_start (given : Workflow.Variables) (w : World) :
    World.Twin w.environment (w.environment ++ given.entries) (CommandLine.start w)
      (Workflow.start given w) := ⟨rfl, [], rfl⟩

namespace Runs

variable {launch : Launcher} {given : Workflow.Variables} {run : RunResult} {w : World}

theorem core_eq (h : Runs launch w run) :
    ∃ config, Guard.fromFile launch options.config "/" (CommandLine.asked options) w
        = (.ok (config, run), (core launch w).2) ∧ config.outputDir = outputDir := by
  obtain ⟨done, hdone, heq⟩ := Option.map_eq_some_iff.1 h.computes.1
  obtain ⟨hdir, hrun⟩ := Prod.mk.inj heq
  have hend : (core launch w).1 = .ok (done.1, run) := by rw [eq_ok_of_toOption hdone, ← hrun]
  exact ⟨done.1, Prod.ext hend rfl, hdir⟩

theorem save_eq (h : Runs launch w run) :
    Report.save run (Report.markdown run) outputDir (core launch w).2
      = (.ok saved, (stored launch run w).2) := by
  rw [← stored_eq h.json]
  exact Prod.ext (eq_ok_of_toOption h.computes.2) rfl

/-- The step has the same run as the command line. -/
theorem step (h : Runs idle (CommandLine.start w) run) (given : Workflow.Variables) :
    Runs idle (Workflow.start given w) run := by
  obtain ⟨hends, hstores, -⟩ := stored_twin h.json (twin_start given w)
  refine ⟨h.json, ?_⟩
  rw [Computes, hends, hstores]
  exact h.computes

/-- After the command line stored the reports, a step would make known what it does. -/
theorem announce_stored (h : Runs idle (CommandLine.start w) run) (given : Workflow.Variables) :
    (Workflow.announce given run saved (stored idle run (CommandLine.start w)).2).1
      = (announced idle run given (Workflow.start given w)).1 := by
  obtain ⟨-, -, htwin⟩ := stored_twin h.json (twin_start given w)
  exact (Workflow.mirrors_announce (isKept_twin (Launcher.ignores_none _ _)) given run saved _ _
    htwin).1.symm

/-- The reports are stored in the directory of the configuration. -/
theorem reportDir_eq (h : Runs launch w run) {config : Config}
    (hload : (Config.load options.config "/" w).1 = .ok config) :
    options.reportDir = some config.outputDir := by
  obtain ⟨config', hcore, hdir⟩ := h.core_eq
  rcases bind_cases hcore with ⟨loaded, u, hloaded, hrest⟩ | ⟨e, -, hr⟩
  · rcases bind_cases hrest with ⟨r, u', -, hpure⟩ | ⟨e, -, hr⟩
    · rw [hloaded] at hload
      cases hload
      cases hpure
      rw [hdir]
      rfl
    · cases hr
  · cases hr

theorem guarded_commandLine (h : Runs launch w run) :
    CommandLine.guarded launch options "/" w = (.ok run, (stored launch run w).2) := by
  obtain ⟨config, hcore, -⟩ := h.core_eq
  rw [CommandLine.guarded_eq, bind_of_ok hcore, CommandLine.store_of_dir run rfl (by decide),
    bind_of_ok h.save_eq]
  rfl

theorem guarded_workflow (h : Runs launch w run) (hspells : Workflow.Spells given options) :
    Workflow.guarded launch given "/" w = announced launch run given w := by
  obtain ⟨config, hcore, hdir⟩ := h.core_eq
  have hread : ofGuard (Workflow.Inputs.read given) w
      = (.ok ⟨options.config, options.update, options.mode, options.failOnAdditions⟩, w) := by
    rw [Workflow.Inputs.read_of_spells hspells]
    rfl
  have hsave : Report.save run (Report.markdown run) config.outputDir (core launch w).2
      = (.ok saved, (stored launch run w).2) := by
    rw [hdir]
    exact h.save_eq
  rw [Workflow.guarded_eq, bind_of_ok hread]
  exact (bind_of_ok hcore).trans (bind_of_ok hsave)

/-- The command line ends as the run does. -/
theorem code_commandLine (h : Runs launch (CommandLine.start w) run) :
    (CommandLine.program launch options "/" w).1.map Exit.code
      = .ok (if run.passed then 0 else 1) := by
  obtain ⟨exit, hexit, hcode, -⟩ := CommandLine.program_of_ok h.guarded_commandLine
  rw [hexit, ← hcode]
  rfl

/-- The step ends as the run does, if that was made known. -/
theorem code_workflow (h : Runs launch (Workflow.start given w) run)
    (hspells : Workflow.Spells given options)
    (hknown : (announced launch run given (Workflow.start given w)).1.toOption = some run) :
    (Workflow.program launch given "/" w).1.map Exit.code
      = .ok (if run.passed then 0 else 1) := by
  have hannounced : announced launch run given (Workflow.start given w)
      = (.ok run, (announced launch run given (Workflow.start given w)).2) :=
    Prod.ext (eq_ok_of_toOption hknown) rfl
  have hguarded := (h.guarded_workflow hspells).trans hannounced
  obtain ⟨exit, hexit, hcode, -⟩ := Workflow.program_of_ok hguarded
  rw [hexit, ← hcode]
  rfl

/-- The step ends with 1 if the run was not made known. -/
theorem code_workflow_of_none (h : Runs launch (Workflow.start given w) run)
    (hspells : Workflow.Spells given options)
    (hunknown : (announced launch run given (Workflow.start given w)).1.toOption = none) :
    (Workflow.program launch given "/" w).1.map Exit.code = .ok 1 := by
  obtain ⟨r, u, hannounced⟩ : ∃ r u, announced launch run given (Workflow.start given w) = (r, u) :=
    ⟨_, _, rfl⟩
  rw [hannounced] at hunknown
  cases r with
  | ok _ => cases hunknown
  | error e =>
    have he := Workflow.reports_announce given run saved _ e u hannounced
    obtain ⟨exit, hexit, hcode⟩ :=
      Workflow.program_of_error ((h.guarded_workflow hspells).trans hannounced) he
    rw [hexit, ← hcode]
    rfl

end Runs

theorem json_updated : (Report.json updated).toOption.isSome = true := by cbv

/-- The world in which nothing was put out before. -/
def fresh : World := world []

/-- A step with a file for its outputs and a job summary. -/
def given : Workflow.Variables := inputs "/outputs" "/summary"

/-- The place of the Markdown report. -/
def reportPlace : Location := [".build", "apiguard", "apiguard-report", "API_GUARD_REPORT.md"]

/-- The Markdown report of the run, as it is written. -/
def reportBytes : Bytes := Utf8.encode (Report.markdown updated)

/-- The outputs of the run, as they are in the file for outputs. -/
def outputBytes : Bytes :=
  let delimiter : Text := "ghadelimiter_00000000-0000-4000-8000-000000000000"
  Utf8.encode ((Workflow.outputs updated saved).flatMap fun o => o.block delimiter)

/-- What is in a file at the end. -/
def contentAfter {α : Type} (done : α × World) (loc : Location) : Option Bytes :=
  done.2.files.content? loc

theorem spells_given : Workflow.Spells given options := spells_inputs "/outputs" "/summary"

/-- What both programs come to in that world.  All of it is evaluated at once, since most of the
work is the same. -/
theorem evaluated :
    Computes idle (CommandLine.start fresh) updated
      ∧ (announced idle updated given (Workflow.start given fresh)).1.toOption = some updated
      ∧ (contentAfter (stored idle updated (CommandLine.start fresh)) reportPlace
          = some reportBytes
        ∧ contentAfter (announced idle updated given (Workflow.start given fresh)) ["outputs"]
          = some outputBytes
        ∧ contentAfter (announced idle updated given (Workflow.start given fresh)) ["summary"]
          = some reportBytes)
      ∧ (Report.placed outputDir = saved
        ∧ Workflow.outputPlace given fresh.directory = ["outputs"]
        ∧ Workflow.summaryPlace given fresh.directory = ["summary"])
      ∧ Report.plain updated = "Updated baseline: A\nAPIGuard: baseline updated.\n" := by
  decide +kernel

theorem runs_fresh : Runs idle (CommandLine.start fresh) updated :=
  ⟨json_updated, evaluated.1⟩

end FirstBaseline

end SurfaceGuard
