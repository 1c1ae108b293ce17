import SurfaceGuard.Proofs.Program.FirstBaseline

/-!
# When a program succeeds

Both programs end with 0 exactly if everything that they were asked for was done and every target
passes, and with 1 otherwise (`exit_is_fail_closed`).  What was to be done is said by the steps that
the host has to take for it, and what is left behind by the writes that these come to: each file
holds what they make of what it held after the run.

The verdict that a step publishes is the one that its exit code comes from, whether it is handed
over as a command or in a file: the exit code is never better than a verdict that was published.
-/

open SurfaceGuard.Task

namespace SurfaceGuard

/-! ## Passing -/

/-- The target was updated, or it was checked and the decision passes. -/
inductive TargetResult.Passes : TargetResult → Prop where
  | updated (target : Text) (symbolCount : Number) (baselinePath : Text) (durationMs : Number) :
      Passes (.updated target symbolCount baselinePath durationMs)
  | checked (target : Text) {decision : Decision} (changes : List SignatureChange)
      (durationMs : Number) (h : decision.passed = true) :
      Passes (.checked target decision changes durationMs)

theorem TargetResult.isPassing_iff {r : TargetResult} : r.isPassing = true ↔ r.Passes := by
  constructor
  · intro h
    cases r with
    | updated => exact .updated ..
    | checked => exact .checked _ _ _ h
    | failed => cases h
  · intro h
    cases h with
    | updated => rfl
    | checked _ _ _ h => exact h

/-- The configuration loads, and the run for it ends with a result for each target, all of which
pass. -/
structure Guard.Passes (launch : Launcher) (path cwd : Text) (options : RunOptions) (w : World)
    (config : Config) (run : RunResult) (w' : World) : Prop where
  loads : (Config.load path cwd w).1 = .ok config
  runs : Guard.run (Guard.context launch config cwd) options w = (.ok run, w')
  targets : run.results.map TargetResult.target = config.targets
  passes : ∀ r ∈ run.results, r.Passes

theorem Guard.Passes.passed {launch : Launcher} {path cwd : Text} {options : RunOptions}
    {w w' : World} {config : Config} {run : RunResult}
    (h : Guard.Passes launch path cwd options w config run w') : run.passed = true := by
  have hrun : (Guard.run (Guard.context launch config cwd) options w).1 = .ok run := by rw [h.runs]
  obtain ⟨-, -, hpassed⟩ := Guard.results_of_run_ok hrun
  rw [hpassed, List.all_eq_true]
  exact fun r hr => TargetResult.isPassing_iff.2 (h.passes r hr)

/-- The targets of a run pass exactly if the core of a program ends with the run and it passes. -/
theorem Guard.passes_iff {launch : Launcher} {path cwd : Text} {options : RunOptions}
    {w w' : World} {config : Config} {run : RunResult} :
    Guard.Passes launch path cwd options w config run w' ↔
      Guard.fromFile launch path cwd options w = (.ok (config, run), w') ∧ run.passed = true := by
  rw [Guard.fromFile_eq_ok_iff]
  constructor
  · intro h
    exact ⟨⟨h.loads, h.runs⟩, h.passed⟩
  · rintro ⟨⟨hload, hrun⟩, hpass⟩
    have hend : (Guard.run (Guard.context launch config cwd) options w).1 = .ok run := by rw [hrun]
    obtain ⟨htargets, -, hpassed⟩ := Guard.results_of_run_ok hend
    rw [hpassed, List.all_eq_true] at hpass
    exact ⟨hload, hrun, htargets, fun r hr => TargetResult.isPassing_iff.1 (hpass r hr)⟩

/-! ## The command line -/

namespace CommandLine

variable {launch : Launcher} {o : CliOptions} {cwd : Text} {run : RunResult} {w u w' : World}
  {writes : List Write}

/-- The reports of a run are written if there is a directory for them, and these are the writes for
it. -/
inductive Stores (o : CliOptions) (run : RunResult) (w : World) : List Write → World → Prop
  | nowhere (h : ∀ dir, o.reportDir = some dir → dir = []) : Stores o run w [] w
  | below {dir text : Text} {w' : World} (hdir : o.reportDir = some dir) (hne : dir ≠ [])
      (h : Report.Written run text dir w w') :
      Stores o run w (Report.writes run text dir w.directory) w'

/-- A run is stored exactly if the host takes its reports. -/
theorem store_eq_ok_iff {r : RunResult} : store o run w = (.ok r, w') ↔
    r = run ∧ ∃ writes, Stores o run w writes w' := by
  by_cases hnone : ∀ dir, o.reportDir = some dir → dir = []
  · rw [store_of_none run hnone, Prod.mk.injEq, Except.ok.injEq]
    constructor
    · rintro ⟨rfl, rfl⟩
      exact ⟨rfl, [], .nowhere hnone⟩
    · rintro ⟨rfl, writes, hstores⟩
      cases hstores with
      | nowhere => exact ⟨rfl, rfl⟩
      | below hdir hne => exact absurd (hnone _ hdir) hne
  · push Not at hnone
    obtain ⟨dir, hdir, hne⟩ := hnone
    rw [store_of_dir run hdir hne, bind_eq_ok_iff]
    constructor
    · rintro ⟨saved, u, hsave, hpure⟩
      cases hpure
      obtain ⟨-, text, hwritten⟩ := Report.save_eq_ok_iff.1 hsave
      exact ⟨rfl, _, .below hdir hne hwritten⟩
    · rintro ⟨rfl, writes, hstores⟩
      cases hstores with
      | nowhere h => exact absurd (h dir hdir) hne
      | below hdir' hne' hwritten =>
        rw [hdir, Option.some.injEq] at hdir'
        subst hdir'
        exact ⟨_, w', Report.save_eq_ok_iff.2 ⟨rfl, _, hwritten⟩, rfl⟩

/-- What is stored is written, and nothing else is. -/
theorem Stores.wrote (h : Stores o run w writes w') : w.files.Wrote writes w'.files := by
  cases h with
  | nowhere => exact .refl w.files
  | below _ _ hwritten => exact hwritten.wrote.1

theorem Stores.areStored (h : Stores o run w writes w') {dir : Text}
    (hdir : o.reportDir = some dir) (hne : dir ≠ []) :
    Report.AreStored run dir w.directory w'.files := by
  cases h with
  | nowhere h => exact absurd (h dir hdir) hne
  | below hdir' _ hwritten =>
    rw [hdir, Option.some.injEq] at hdir'
    exact hdir' ▸ hwritten.areStored

/-- Everything that the options ask for is done, and every target passes.  After the run come the
writes for its reports. -/
structure Succeeds (launch : Launcher) (o : CliOptions) (cwd : Text) (w : World) (run : RunResult)
    (u : World) (writes : List Write) (w' : World) : Prop where
  passes : ∃ config, Guard.Passes launch o.config cwd (asked o) w config run u
  stores : Stores o run u writes w'

/-- The program succeeds exactly if its work ends with a run that passes. -/
theorem succeeds_iff : (∃ u writes, Succeeds launch o cwd w run u writes w') ↔
    guarded launch o cwd w = (.ok run, w') ∧ run.passed = true := by
  rw [guarded_eq, bind_eq_ok_iff]
  constructor
  · rintro ⟨u, writes, ⟨config, hpasses⟩, hstores⟩
    obtain ⟨hfrom, hpass⟩ := Guard.passes_iff.1 hpasses
    exact ⟨⟨_, u, hfrom, store_eq_ok_iff.2 ⟨rfl, writes, hstores⟩⟩, hpass⟩
  · rintro ⟨⟨⟨config, r⟩, u, hfrom, hstore⟩, hpass⟩
    obtain ⟨rfl, writes, hstores⟩ := store_eq_ok_iff.1 hstore
    exact ⟨u, writes, ⟨config, Guard.passes_iff.2 ⟨hfrom, hpass⟩⟩, hstores⟩

/-- The run ends in the directory that the program was started in. -/
theorem Succeeds.directory (h : Succeeds launch o cwd w run u writes w')
    (hlaunch : launch.IsConfined) : u.directory = w.directory := by
  obtain ⟨config, hpasses⟩ := h.passes
  have hcontinues := (Guard.built_fromFile launch o.config cwd (asked o)).continues hlaunch w
  rw [(Guard.passes_iff.1 hpasses).1] at hcontinues
  exact hcontinues.directory

/-- The program succeeds and reports the run, or it ends with 1 and reports nothing. -/
theorem exit_cases (launch : Launcher) (o : CliOptions) (cwd : Text) (w : World) :
    ∃ exit, (program launch o cwd w).1 = .ok exit
      ∧ ((exit.code = 0 ∧ ∃ run u writes,
            Succeeds launch o cwd (start w) run u writes (program launch o cwd w).2
              ∧ exit.streams.stdout = Report.plain run)
          ∨ exit.code = 1 ∧ exit.streams.stdout = []
            ∧ ¬∃ run u writes w', Succeeds launch o cwd (start w) run u writes w') := by
  obtain ⟨r, w', hguarded⟩ : ∃ r w', guarded launch o cwd (start w) = (r, w') := ⟨_, _, rfl⟩
  rw [program_snd, hguarded]
  -- whatever succeeds is what the work came to
  have hsucceeds : ∀ run u writes v, Succeeds launch o cwd (start w) run u writes v →
      r = .ok run ∧ run.passed = true := by
    intro run u writes v h
    obtain ⟨hrun, hpass⟩ := succeeds_iff.1 ⟨u, writes, h⟩
    rw [hguarded, Prod.mk.injEq] at hrun
    exact ⟨hrun.1, hpass⟩
  cases r with
  | error e =>
    have he := (built_guarded launch o cwd).reports _ e w' hguarded
    obtain ⟨exit, hexit, hcode, hstdout⟩ := program_of_error hguarded he
    refine ⟨exit, hexit, Or.inr ⟨hcode, hstdout, ?_⟩⟩
    rintro ⟨run, u, writes, v, h⟩
    cases (hsucceeds run u writes v h).1
  | ok run =>
    obtain ⟨exit, hexit, hcode, hstdout⟩ := program_of_ok hguarded
    refine ⟨exit, hexit, ?_⟩
    cases hpass : run.passed with
    | true =>
      rw [hpass] at hcode hstdout
      obtain ⟨u, writes, h⟩ := succeeds_iff.2 ⟨hguarded, hpass⟩
      exact Or.inl ⟨hcode, run, u, writes, h, hstdout⟩
    | false =>
      rw [hpass] at hcode hstdout
      refine Or.inr ⟨hcode, hstdout, ?_⟩
      rintro ⟨run', u, writes, v, h⟩
      obtain ⟨hrun, hpass'⟩ := hsucceeds run' u writes v h
      cases hrun
      rw [hpass] at hpass'
      cases hpass'

end CommandLine

/-! ## The workflow -/

namespace Workflow

variable {launch : Launcher} {given : Variables} {cwd : Text} {config : Config} {run : RunResult}
  {w u w' : World} {writes : List Write}

/-- The output for a run that passes. -/
def passedOutput : Output := ⟨"status", "passed"⟩

/-- The output for a run that does not pass. -/
def failedOutput : Output := ⟨"status", "failed"⟩

theorem outputs_of_passed (h : run.passed = true) (saved : Report.Saved) :
    ∃ rest, outputs run saved = [passedOutput] ++ rest := by
  rw [outputs, h]
  exact ⟨_, rfl⟩

theorem passed_of_mem_outputs {saved : Report.Saved} (h : failedOutput ∈ outputs run saved) :
    run.passed = false := by
  have hnames : ∀ name value, Output.mk name value = failedOutput → name = "status" := by
    intro name value h
    cases h
    rfl
  simp only [outputs, List.mem_cons, List.not_mem_nil, or_false] at h
  rcases h with h | h | h | h | h
  · cases hpassed : run.passed with
    | false => rfl
    | true =>
      rw [hpassed] at h
      cases h
  all_goals exact absurd (hnames _ _ h.symm) (by decide)

/-- The inputs are valid, every target passes, and all that is to be published is.  After the run
come the writes for what is published. -/
structure Succeeds (launch : Launcher) (given : Variables) (cwd : Text) (w : World)
    (config : Config) (run : RunResult) (u : World) (writes : List Write) (w' : World) : Prop where
  passes : ∃ inputs, Inputs.read given = .ok inputs
    ∧ Guard.Passes launch inputs.configPath cwd inputs.asked w config run u
  publishes : Publishes given config run u writes w'

/-- The step publishes an output of its run: the reports are written, the outputs before it are
handed over, and then it is. -/
def Announces (launch : Launcher) (given : Variables) (cwd : Text) (w : World) (o : Output) :
    Prop :=
  ∃ inputs config run u text v before after handed w', Inputs.read given = .ok inputs
    ∧ Guard.fromFile launch inputs.configPath cwd inputs.asked w = (.ok (config, run), u)
    ∧ Report.Written run text config.outputDir u v
    ∧ outputs run (Report.placed config.outputDir) = before ++ o :: after
    ∧ Hands given (before ++ [o]) v handed w'

theorem ofGuard_read_iff {inputs : Inputs} :
    ofGuard (Inputs.read given) w = (.ok inputs, w') ↔
      Inputs.read given = .ok inputs ∧ w = w' := by
  rw [ofGuard_eq, Prod.mk.injEq, mapError_eq_ok_iff]

/-- The work ends with a run exactly if that is the run for the inputs and it is published. -/
theorem guarded_eq_ok_iff : guarded launch given cwd w = (.ok run, w') ↔
    ∃ inputs config u writes, Inputs.read given = .ok inputs
      ∧ Guard.fromFile launch inputs.configPath cwd inputs.asked w = (.ok (config, run), u)
      ∧ Publishes given config run u writes w' := by
  rw [guarded_eq, bind_eq_ok_iff]
  constructor
  · rintro ⟨inputs, v, hread, hrest⟩
    obtain ⟨hvalid, rfl⟩ := ofGuard_read_iff.1 hread
    obtain ⟨⟨config, r⟩, u, hfrom, hpublish⟩ := bind_eq_ok_iff.1 hrest
    obtain ⟨rfl, writes, hpublishes⟩ := publish_eq_ok_iff.1 hpublish
    exact ⟨inputs, config, u, writes, hvalid, hfrom, hpublishes⟩
  · rintro ⟨inputs, config, u, writes, hread, hfrom, hpublishes⟩
    exact ⟨inputs, w, ofGuard_read_iff.2 ⟨hread, rfl⟩, bind_eq_ok_iff.2
      ⟨(config, run), u, hfrom, publish_eq_ok_iff.2 ⟨rfl, writes, hpublishes⟩⟩⟩

/-- The step succeeds exactly if its work ends with a run that passes. -/
theorem succeeds_iff : (∃ config u writes, Succeeds launch given cwd w config run u writes w') ↔
    guarded launch given cwd w = (.ok run, w') ∧ run.passed = true := by
  rw [guarded_eq_ok_iff]
  constructor
  · rintro ⟨config, u, writes, ⟨inputs, hread, hpasses⟩, hpublishes⟩
    obtain ⟨hfrom, hpass⟩ := Guard.passes_iff.1 hpasses
    exact ⟨⟨inputs, config, u, writes, hread, hfrom, hpublishes⟩, hpass⟩
  · rintro ⟨⟨inputs, config, u, writes, hread, hfrom, hpublishes⟩, hpass⟩
    have hpasses := Guard.passes_iff.2 ⟨hfrom, hpass⟩
    exact ⟨config, u, writes, ⟨inputs, hread, hpasses⟩, hpublishes⟩

namespace Succeeds

/-- The run ends in the directory that the step was started in. -/
theorem directory (h : Succeeds launch given cwd w config run u writes w')
    (hlaunch : launch.IsConfined) : u.directory = w.directory := by
  obtain ⟨inputs, -, hpasses⟩ := h.passes
  have hcontinues :=
    (Guard.built_fromFile launch inputs.configPath cwd inputs.asked).continues hlaunch w
  rw [(Guard.passes_iff.1 hpasses).1] at hcontinues
  exact hcontinues.directory

/-- A step that succeeds publishes that its run passes. -/
theorem announces (h : Succeeds launch given cwd w config run u writes w') :
    Announces launch given cwd w passedOutput := by
  obtain ⟨inputs, hread, hpasses⟩ := h.passes
  obtain ⟨hfrom, hpass⟩ := Guard.passes_iff.1 hpasses
  obtain ⟨text, v, handed, _, _, hwritten, hhands, -⟩ := h.publishes.steps
  obtain ⟨rest, houtputs⟩ := outputs_of_passed hpass (Report.placed config.outputDir)
  rw [houtputs] at hhands
  obtain ⟨before, -, w', -, hfirst, -⟩ := hhands.append_inv
  exact ⟨inputs, config, run, u, text, v, [], rest, before, w', hread, hfrom, hwritten, houtputs,
    hfirst⟩

end Succeeds

/-- A step that publishes a failure has a run that does not pass, and no other one. -/
theorem passed_of_announces (h : Announces launch given cwd w failedOutput)
    (hguarded : guarded launch given cwd w = (.ok run, w')) : run.passed = false := by
  obtain ⟨inputs, config, r, u, _, _, before, after, _, _, hread, hfrom, -, houtputs, -⟩ := h
  obtain ⟨inputs', config', u', _, hread', hfrom', -⟩ := guarded_eq_ok_iff.1 hguarded
  rw [hread, Except.ok.injEq] at hread'
  subst hread'
  rw [hfrom, Prod.mk.injEq, Except.ok.injEq, Prod.mk.injEq] at hfrom'
  obtain ⟨⟨-, rfl⟩, -⟩ := hfrom'
  have hmem : failedOutput ∈ before ++ failedOutput :: after :=
    List.mem_append_right before List.mem_cons_self
  exact passed_of_mem_outputs (houtputs ▸ hmem)

/-- A verdict in the log is that of the run. -/
theorem passed_of_mem_log (hlaunch : launch.IsConfined)
    (hguarded : guarded launch given cwd w = (.ok run, w')) (hnew : failedOutput.entry ∉ w.log)
    (hmem : failedOutput.entry ∈ w'.log) : run.passed = false := by
  obtain ⟨inputs, config, u, writes, -, hfrom, hpublishes⟩ := guarded_eq_ok_iff.1 hguarded
  obtain ⟨text, v, handed, v', v'', hwritten, hhands, -, -, happend, rfl, -⟩ := hpublishes.steps
  have hcore := (Guard.built_fromFile launch inputs.configPath cwd inputs.asked).continues hlaunch w
  have hsave := (Report.built_save run (Report.markdown run) config.outputDir).continues
    Launcher.isConfined_none u
  have hadded := (built_appendBytes (summaryPath given)
    (Utf8.encode (Report.markdown run))).continues Launcher.isConfined_none v'
  rw [hfrom] at hcore
  rw [Report.save_eq_ok_iff.2 ⟨rfl, text, hwritten⟩] at hsave
  rw [happend] at hadded
  -- only the handover records outputs
  have hhanded : failedOutput.entry ∈ v'.log := by
    rcases List.mem_append.1 hmem with hbefore | hreport
    · exact (hadded.mem_log_iff rfl).1 hbefore
    · cases List.mem_singleton.1 hreport
  rcases hhands.mem_log rfl hhanded with hbefore | ⟨⟨name, value⟩, ho, hentry⟩
  · exact absurd ((hcore.mem_log_iff rfl).1 ((hsave.mem_log_iff rfl).1 hbefore)) hnew
  · cases hentry
    exact passed_of_mem_outputs ho

theorem reports_guarded (launch : Launcher) (given : Variables) (cwd : Text) :
    Reports (guarded launch given cwd) := by
  rw [guarded_eq]
  exact (built_ofGuard _ : Built .none _).reports.bind fun inputs =>
    (Guard.built_fromFile launch inputs.configPath cwd inputs.asked).reports.bind fun done =>
      reports_publish given done.1 done.2

/-- The step succeeds and does not publish a failure, or it ends with 1. -/
theorem exit_cases (hlaunch : launch.IsConfined) (given : Variables) (cwd : Text) (w : World) :
    ∃ exit, (program launch given cwd w).1 = .ok exit
      ∧ ((exit.code = 0 ∧ failedOutput.entry ∉ (program launch given cwd w).2.log
          ∧ ¬Announces launch given cwd (start given w) failedOutput
          ∧ ∃ config run u writes w',
            Succeeds launch given cwd (start given w) config run u writes w'
              ∧ (program launch given cwd w).2.files = w'.files)
        ∨ exit.code = 1 ∧ ¬∃ config run u writes w',
            Succeeds launch given cwd (start given w) config run u writes w') := by
  obtain ⟨r, w', hguarded⟩ : ∃ r w', guarded launch given cwd (start given w) = (r, w') :=
    ⟨_, _, rfl⟩
  have hsucceeds : ∀ config run u writes v,
      Succeeds launch given cwd (start given w) config run u writes v →
        r = .ok run ∧ run.passed = true := by
    intro config run u writes v h
    obtain ⟨hrun, hpass⟩ := succeeds_iff.1 ⟨config, u, writes, h⟩
    rw [hguarded, Prod.mk.injEq] at hrun
    exact ⟨hrun.1, hpass⟩
  cases r with
  | error e =>
    have he := reports_guarded launch given cwd _ e w' hguarded
    obtain ⟨exit, hexit, hcode⟩ := program_of_error hguarded he
    refine ⟨exit, hexit, Or.inr ⟨hcode, ?_⟩⟩
    rintro ⟨config, run, u, writes, v, h⟩
    cases (hsucceeds config run u writes v h).1
  | ok run =>
    obtain ⟨exit, hexit, hcode, hlog⟩ := program_of_ok hguarded
    refine ⟨exit, hexit, ?_⟩
    cases hpass : run.passed with
    | true =>
      have hnot : ¬run.passed = false := by
        rw [hpass]
        exact Bool.true_eq_false_eq_False
      rw [hpass] at hcode
      rw [hlog, files_program, hguarded]
      obtain ⟨config, u, writes, h⟩ := succeeds_iff.2 ⟨hguarded, hpass⟩
      refine Or.inl ⟨hcode, fun hmem => ?_, fun h => ?_, config, run, u, writes, w', h, rfl⟩
      · exact hnot (passed_of_mem_log hlaunch hguarded List.not_mem_nil hmem)
      · exact hnot (passed_of_announces h hguarded)
    | false =>
      rw [hpass] at hcode
      refine Or.inr ⟨hcode, ?_⟩
      rintro ⟨config, run', u, writes, v, h⟩
      obtain ⟨hrun, hpass'⟩ := hsucceeds config run' u writes v h
      cases hrun
      rw [hpass] at hpass'
      cases hpass'

end Workflow

/-! ## Both programs -/

/-- The exit code is fail-closed.

The command line ends with 0 if and only if everything that was asked for is done and every target
passes, and it ends with 1 otherwise; its output stream has the report of the run in the first case,
and is empty in the second.  After it ended with 0, the files hold what the writes for the reports
make of what they held after the run: if there is a directory for reports, both are in it.

The workflow ends with 0 if and only if its inputs are valid, every target passes, the reports are
written, the outputs are handed over and then the job summary is written, and with 1 otherwise.
After it ended with 0, the files hold what all these writes make of what they held after the run:
the job summary ends with the Markdown report, and both reports are in the configured directory,
unless one of them is the summary or the file for outputs as well.  That the run passes has been
published then.  Whenever a failure has been published, as a command or in the file for outputs, it
ends with 1.

In both, a configuration that loads leads to a result for each of its targets, as long as the clock
has a text. -/
theorem exit_is_fail_closed (launch : Launcher) (hlaunch : launch.IsConfined) (cwd : Text)
    (w : World) :
    (∀ o : CliOptions, ∃ exit, (CommandLine.program launch o cwd w).1 = .ok exit
      ∧ (exit.code = 0 ↔ ∃ run u writes w',
          CommandLine.Succeeds launch o cwd (CommandLine.start w) run u writes w')
      ∧ (exit.code = 0 → ∃ run u writes,
          CommandLine.Succeeds launch o cwd (CommandLine.start w) run u writes
              (CommandLine.program launch o cwd w).2
            ∧ exit.streams.stdout = Report.plain run
            ∧ u.files.Wrote writes (CommandLine.program launch o cwd w).2.files
            ∧ ∀ dir, o.reportDir = some dir → dir ≠ [] →
              Report.AreStored run dir w.directory (CommandLine.program launch o cwd w).2.files)
      ∧ (exit.code ≠ 0 → exit.code = 1 ∧ exit.streams.stdout = []))
    ∧ (∀ given : Workflow.Variables, ∃ exit, (Workflow.program launch given cwd w).1 = .ok exit
      ∧ (exit.code = 0 ↔ ∃ config run u writes w',
          Workflow.Succeeds launch given cwd (Workflow.start given w) config run u writes w')
      ∧ (exit.code = 0 → ∃ config run u writes w',
          Workflow.Succeeds launch given cwd (Workflow.start given w) config run u writes w'
            ∧ (Workflow.program launch given cwd w).2.files = w'.files
            ∧ u.files.Wrote writes (Workflow.program launch given cwd w).2.files
            ∧ (Workflow.program launch given cwd w).2.files.Ends
              (Workflow.summaryPlace given w.directory) (Utf8.encode (Report.markdown run))
            ∧ ((∀ loc ∈ Report.places config.outputDir w.directory,
                loc ≠ Workflow.outputPlace given w.directory
                  ∧ loc ≠ Workflow.summaryPlace given w.directory) →
              Report.AreStored run config.outputDir w.directory
                (Workflow.program launch given cwd w).2.files)
            ∧ Workflow.Announces launch given cwd (Workflow.start given w) Workflow.passedOutput)
      ∧ (exit.code ≠ 0 → exit.code = 1)
      ∧ (Workflow.failedOutput.entry ∈ (Workflow.program launch given cwd w).2.log → exit.code = 1)
      ∧ (Workflow.Announces launch given cwd (Workflow.start given w) Workflow.failedOutput →
          exit.code = 1))
    ∧ ∀ path options u config, Timestamp.IsValid u.clock →
        (Config.load path cwd u).1 = .ok config →
        ∃ run u', Guard.run (Guard.context launch config cwd) options u = (.ok run, u')
          ∧ run.results.map TargetResult.target = config.targets := by
  refine ⟨fun o => ?_, fun given => ?_, fun path options u config hu _ => ?_⟩
  · obtain ⟨exit, hexit, ⟨hcode, run, u, writes, hrun, hstdout⟩ | ⟨hcode, hstdout, hfails⟩⟩ :=
      CommandLine.exit_cases launch o cwd w
    · refine ⟨exit, hexit, ⟨fun _ => ⟨run, u, writes, _, hrun⟩, fun _ => hcode⟩, fun _ => ?_,
        fun h => absurd hcode h⟩
      refine ⟨run, u, writes, hrun, hstdout, hrun.stores.wrote, fun dir hdir hne => ?_⟩
      have hstored := hrun.stores.areStored hdir hne
      rwa [hrun.directory hlaunch] at hstored
    · have hne : exit.code ≠ 0 := by rw [hcode]; exact one_ne_zero
      exact ⟨exit, hexit, ⟨fun h => absurd h hne, fun h => absurd h hfails⟩, fun h => absurd h hne,
        fun _ => ⟨hcode, hstdout⟩⟩
  · obtain ⟨exit, hexit, ⟨hcode, hlog, hannounced, config, run, u, writes, w', hrun, hfiles⟩ |
      ⟨hcode, hfails⟩⟩ := Workflow.exit_cases hlaunch given cwd w
    · refine ⟨exit, hexit, ⟨fun _ => ⟨config, run, u, writes, w', hrun⟩, fun _ => hcode⟩,
        fun _ => ?_, fun h => absurd hcode h, fun h => absurd h hlog,
        fun h => absurd h hannounced⟩
      have hends := hrun.publishes.ends_summary
      have hstored := hrun.publishes.areStored
      have hdirectory : u.directory = w.directory := hrun.directory hlaunch
      rw [hdirectory] at hends hstored
      rw [hfiles]
      exact ⟨config, run, u, writes, w', hrun, rfl, hrun.publishes.wrote, hends, hstored,
        hrun.announces⟩
    · have hne : exit.code ≠ 0 := by rw [hcode]; exact one_ne_zero
      exact ⟨exit, hexit, ⟨fun h => absurd h hne, fun h => absurd h hfails⟩, fun h => absurd h hne,
        fun _ => hcode, fun _ => hcode, fun _ => hcode⟩
  · obtain ⟨run, u', hrun, htargets, -⟩ := Guard.exists_run hlaunch config hu
    exact ⟨run, u', hrun, htargets⟩

open FirstBaseline in
/-- Both programs make a first baseline, each in a world where nothing was put out before.  The
command line leaves the report in its file; the step also hands its outputs over in a file, one
block each, and adds the report to the job summary. -/
theorem exit_is_fail_closed_of_update :
    (∃ exit run, (CommandLine.program idle options "/" fresh).1 = .ok exit ∧ exit.code = 0
      ∧ (∃ u writes, CommandLine.Succeeds idle options "/" (CommandLine.start fresh) run u writes
        (CommandLine.program idle options "/" fresh).2)
      ∧ exit.streams.stdout = "Updated baseline: A\nAPIGuard: baseline updated.\n"
      ∧ Report.AreStored run outputDir fresh.directory
        (CommandLine.program idle options "/" fresh).2.files
      ∧ (CommandLine.program idle options "/" fresh).2.files.content? reportPlace
        = some (Utf8.encode (Report.markdown run)))
    ∧ ∃ exit run, (Workflow.program idle given "/" fresh).1 = .ok exit ∧ exit.code = 0
      ∧ (∃ config u writes w',
        Workflow.Succeeds idle given "/" (Workflow.start given fresh) config run u writes w')
      ∧ Workflow.Announces idle given "/" (Workflow.start given fresh) Workflow.passedOutput
      ∧ (Workflow.program idle given "/" fresh).2.files.content? ["outputs"]
        = some outputBytes
      ∧ (Workflow.program idle given "/" fresh).2.files.content? ["summary"]
        = some (Utf8.encode (Report.markdown run)) := by
  obtain ⟨-, hknown, ⟨hreport, houtputs, hsummary⟩, -, hplain⟩ := evaluated
  obtain ⟨hcommandLine, hworkflow, -⟩ := exit_is_fail_closed idle isConfined_idle "/" fresh
  refine ⟨?_, ?_⟩
  · obtain ⟨exit, hexit, -, hzero, -⟩ := hcommandLine options
    have hcode := runs_fresh.code_commandLine
    rw [hexit] at hcode
    obtain ⟨run, u, writes, hsucceeds, hstdout, -, hstored⟩ := hzero (Except.ok.inj hcode)
    have hguarded := (CommandLine.succeeds_iff.1 ⟨u, writes, hsucceeds⟩).1
    rw [runs_fresh.guarded_commandLine, Prod.mk.injEq, Except.ok.injEq] at hguarded
    obtain ⟨rfl, hfiles⟩ := hguarded
    refine ⟨exit, updated, hexit, Except.ok.inj hcode, ⟨u, writes, hsucceeds⟩,
      hstdout.trans hplain, hstored outputDir rfl (by decide), ?_⟩
    rw [← hfiles]
    exact hreport
  · obtain ⟨exit, hexit, -, hzero, -⟩ := hworkflow given
    have hruns := runs_fresh.step given
    have hcode := hruns.code_workflow spells_given hknown
    rw [hexit] at hcode
    obtain ⟨config, run, u, writes, w', hsucceeds, hfiles, -, -, -, hannounces⟩ :=
      hzero (Except.ok.inj hcode)
    have hguarded := (Workflow.succeeds_iff.1 ⟨config, u, writes, hsucceeds⟩).1
    rw [hruns.guarded_workflow spells_given] at hguarded
    have hrun := hknown
    rw [hguarded] at hrun
    obtain rfl : run = updated := Option.some.inj hrun
    have hfiles' : (Workflow.program idle given "/" fresh).2.files
        = (announced idle updated given (Workflow.start given fresh)).2.files := by
      rw [hfiles]
      exact congrArg (fun done => done.2.files) hguarded.symm
    rw [hfiles']
    exact ⟨exit, updated, hexit, Except.ok.inj hcode, ⟨config, u, writes, w', hsucceeds⟩,
      hannounces, houtputs, hsummary⟩

end SurfaceGuard
