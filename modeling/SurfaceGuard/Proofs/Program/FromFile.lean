import SurfaceGuard.Proofs.Guard.Isolation
import SurfaceGuard.Proofs.Workflow.Published

/-!
# Runs for a configuration file

Both programs have one core: they load a configuration, and run the guard for it
(`Guard.fromFile`).  They differ in where the settings come from and in what is made of the result
(`CommandLine.guarded_eq`, `Workflow.guarded_eq`).

The core has a result exactly if the configuration loads and the run for it has one
(`Guard.fromFile_eq_ok_iff`).  Such a run has a result for each target, as long as commands are
confined and the clock has a text (`Guard.exists_run`).
-/

open SurfaceGuard.Task

namespace SurfaceGuard

theorem Config.reads_load (path cwd : Text) : Reads (Config.load path cwd) := by
  refine (reads_look _).bind fun isThere => ?_
  cases isThere with
  | true => exact (reads_readText _).bind fun _ => reads_ofGuard _
  | false => exact reads_fail _

namespace Guard

variable {launch : Launcher} {path cwd : Text} {options : RunOptions} {w : World}

/-- A run for the configuration in a file. -/
def fromFile (launch : Launcher) (path cwd : Text) (options : RunOptions) :
    Task (Config × RunResult) := do
  let config ← Config.load path cwd
  let run ← run (context launch config cwd) options
  return (config, run)

theorem built_fromFile (launch : Launcher) (path cwd : Text) (options : RunOptions) :
    Built launch (fromFile launch path cwd options) :=
  .bind (Config.built_load path cwd) fun config =>
    .bind (built_run (isBuilt_context config cwd) options) fun _ => .done _

/-- A run whose exporter runs commands has a result for each target. -/
theorem exists_run (hlaunch : launch.IsConfined) (config : Config)
    (hclock : Timestamp.IsValid w.clock) :
    ∃ r w', run (context launch config cwd) options w = (.ok r, w')
      ∧ r.results.map TargetResult.target = config.targets
      ∧ r.passed = r.results.all TargetResult.isPassing := by
  have hbuilt : Built launch (run (context launch config cwd) options) :=
    built_run (isBuilt_context config cwd) options
  have hreturns : ∃ r, (run (context launch config cwd) options w).1 = .ok r := by
    refine run_ok_iff.2 ⟨fun t ht e hthrown => ?_, (hbuilt.continues hlaunch w).clock hclock⟩
    rw [Turn.thrown?, settings_of_mem_turnsFrom ht] at hthrown
    split at hthrown
    · have hreports := (isBuilt_context config cwd t.target : Built launch _).reports
      split at hthrown
      · cases hthrown
      · next e' he =>
        cases hthrown
        exact hreports t.opened e _ (Prod.ext he rfl)
    · cases hthrown
  obtain ⟨r, hr⟩ := hreturns
  obtain ⟨htargets, -, hpassed⟩ := results_of_run_ok hr
  exact ⟨r, _, Prod.ext hr rfl, htargets, hpassed⟩

/-- The core ends with the result of a run for the configuration that was loaded. -/
theorem fromFile_eq_ok_iff {config : Config} {r : RunResult} {w' : World} :
    fromFile launch path cwd options w = (.ok (config, r), w') ↔
      (Config.load path cwd w).1 = .ok config
        ∧ run (context launch config cwd) options w = (.ok r, w') := by
  rw [fromFile, bind_eq_ok_iff]
  constructor
  · rintro ⟨config', u, hload, hrest⟩
    obtain ⟨r', v, hrun, hpure⟩ := bind_eq_ok_iff.1 hrest
    cases hpure
    -- loading only reads, so the run starts in the same world
    have hsame : (Config.load path cwd w).2 = w := Config.reads_load path cwd w
    rw [hload] at hsame
    obtain rfl : u = w := hsame
    exact ⟨by rw [hload], hrun⟩
  · rintro ⟨hload, hrun⟩
    have hreads := (Config.reads_load path cwd).eq w
    rw [hload] at hreads
    exact ⟨config, w, hreads, bind_eq_ok_iff.2 ⟨r, w', hrun, rfl⟩⟩

end Guard

/-! ## The two programs -/

theorem Task.bind_assoc {α β γ : Type} (t : Task α) (f : α → Task β) (g : β → Task γ) :
    t >>= f >>= g = t >>= fun a => f a >>= g := by
  funext w
  obtain ⟨r, u, h⟩ : ∃ r u, t w = (r, u) := ⟨_, _, rfl⟩
  cases r with
  | ok a =>
    have hfirst : (t >>= f >>= g) w = (f a >>= g) u := by
      change andThen (andThen t f) g w = andThen (f a) g u
      rw [andThen, andThen, andThen, h]
    rw [hfirst, bind_of_ok h]
  | error e => rw [bind_of_error h, bind_of_error (bind_of_error h)]

namespace CommandLine

/-- What the options ask of a run. -/
def asked (o : CliOptions) : RunOptions := ⟨o.update, o.mode, o.failOnAdditions⟩

/-- The reports of a run, stored if there is a directory for them. -/
def store (o : CliOptions) (run : RunResult) : Task RunResult := do
  match o.reportDir with
  | none | some [] => return run
  | some dir =>
    let _ ← Report.save run (Report.markdown run) dir
    return run

theorem store_of_none {o : CliOptions} {w : World} (run : RunResult)
    (h : ∀ dir, o.reportDir = some dir → dir = []) :
    store o run w = (.ok run, w) := by
  rcases hdir : o.reportDir with _ | _ | ⟨u, dir⟩
  · simp only [store, hdir]
    rfl
  · simp only [store, hdir]
    rfl
  · cases h _ hdir

theorem store_of_dir {o : CliOptions} (run : RunResult) {dir : Text}
    (hdir : o.reportDir = some dir) (h : dir ≠ []) :
    store o run = Report.save run (Report.markdown run) dir >>= fun _ => pure run := by
  cases dir with
  | nil => exact absurd rfl h
  | cons u dir =>
    simp only [store, hdir]

theorem guarded_eq (launch : Launcher) (o : CliOptions) (cwd : Text) :
    guarded launch o cwd
      = Guard.fromFile launch o.config cwd (asked o) >>= fun done => store o done.2 := by
  rw [Guard.fromFile, Task.bind_assoc]
  simp only [Task.bind_assoc]
  rfl

theorem built_guarded (launch : Launcher) (o : CliOptions) (cwd : Text) :
    Built launch (guarded launch o cwd) := by
  rw [guarded_eq]
  refine .bind (Guard.built_fromFile launch o.config cwd (asked o)) fun done => ?_
  rw [store]
  split
  · exact .done _
  · exact .done _
  · exact .bind (Report.built_save _ _ _) fun _ => .done _

end CommandLine

namespace Workflow

/-- What the inputs ask of a run. -/
def Inputs.asked (inputs : Inputs) : RunOptions :=
  ⟨inputs.update, inputs.mode, inputs.failOnAdditions⟩

theorem guarded_eq (launch : Launcher) (given : Variables) (cwd : Text) :
    guarded launch given cwd = ofGuard (Inputs.read given) >>= fun inputs =>
      Guard.fromFile launch inputs.configPath cwd inputs.asked >>= fun done =>
        publish given done.1 done.2 := by
  simp only [Guard.fromFile, Task.bind_assoc]
  rfl

end Workflow

end SurfaceGuard
