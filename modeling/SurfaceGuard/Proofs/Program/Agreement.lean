import SurfaceGuard.Proofs.Program.FirstBaseline

/-!
# The two programs agree

A step of a workflow whose inputs spell the options of a command line does what the command line
does with them, if that stores its reports in the configured directory.  The two have the same
result, the same exit code, and leave the same files behind, but for the file for outputs and the
job summary, which only the step adds something to (`programs_agree`).

The work of both is built of steps that do not read variables, so it is enough that the export
command does the same with the variables of the step as without them.
-/

open SurfaceGuard.Task

namespace SurfaceGuard

/-! ## What is made known -/

namespace Workflow

variable {given : Variables} {run : RunResult} {saved : Report.Saved} {w w' : World}

/-- What is made known of a run is written to the file for outputs and to the job summary, and
nowhere else. -/
theorem face?_announce {r : RunResult} (h : announce given run saved w = (.ok r, w'))
    {loc : Location} (houtputs : loc ≠ outputPlace given w.directory)
    (hsummary : loc ≠ summaryPlace given w.directory) : w'.files.face? loc = w.files.face? loc := by
  obtain ⟨_, u, hhands, hrest⟩ := bind_eq_ok_iff.1 h
  obtain ⟨_, v, happend, hrest⟩ := bind_eq_ok_iff.1 hrest
  obtain ⟨_, v', hsay, hpure⟩ := bind_eq_ok_iff.1 hrest
  cases hsay
  cases hpure
  obtain ⟨writes, hhands⟩ := setOutputs_eq_ok_iff.1 hhands
  obtain ⟨-, -, happend⟩ := appendSummary_eq_ok_iff.1 happend
  exact hhands.face?_appendSummary happend houtputs hsummary

end Workflow

/-! ## Configured directories -/

/-- The output directory of a configuration that was loaded is a path. -/
theorem Config.outputDir_ne_nil {path cwd : Text} {w : World} {config : Config}
    (h : (Config.load path cwd w).1 = .ok config) : config.outputDir ≠ [] := by
  have hparse : ∃ text source, Config.parse text source cwd = .ok config := by
    obtain ⟨r, w', hload⟩ : ∃ r w', Config.load path cwd w = (r, w') := ⟨_, _, rfl⟩
    rw [hload] at h
    obtain rfl : r = .ok config := h
    rcases bind_cases hload with ⟨isThere, u, -, hrest⟩ | ⟨e, -, hr⟩
    · cases isThere with
      | false => cases hrest
      | true =>
        rcases bind_cases hrest with ⟨text, v, -, hguard⟩ | ⟨e, -, hr⟩
        · rw [ofGuard_eq, Prod.mk.injEq, mapError_eq_ok_iff] at hguard
          exact ⟨text, _, hguard.1⟩
        · cases hr
    · cases hr
  obtain ⟨text, source, hparse⟩ := hparse
  rw [Config.parse] at hparse
  split at hparse
  · cases hparse
  · split at hparse
    · cases hparse
      exact List.cons_ne_nil _ _
    · cases hparse

/-! ## Agreement -/

section Agreement

variable {launch : Launcher} {env env' : List Bytes} {given : Workflow.Variables}
  {o : CliOptions} {cwd : Text} {config : Config} {run : RunResult} {w w' : World}

/-- What the command line stores the step stores as well, and what it makes known is all that it
writes beside it. -/
theorem store_publish_agree (hw : World.Twin env env' w w')
    (hdir : o.reportDir = some config.outputDir) (hne : config.outputDir ≠ [])
    (hknown : (CommandLine.store o run w).1 = .ok run →
      (Workflow.announce given run (Report.placed config.outputDir)
        (CommandLine.store o run w).2).1 = .ok run) :
    (Workflow.publish given config run w').1 = (CommandLine.store o run w).1
      ∧ ∀ loc, loc ≠ Workflow.outputPlace given (CommandLine.store o run w).2.directory →
        loc ≠ Workflow.summaryPlace given (CommandLine.store o run w).2.directory →
          (Workflow.publish given config run w').2.files.face? loc
            = (CommandLine.store o run w).2.files.face? loc := by
  obtain ⟨hend, htwin⟩ :=
    (Report.built_save run (Report.markdown run) config.outputDir).twins
      (Launcher.ignores_none env env') w w' hw
  obtain ⟨r, u, hsave⟩ :
      ∃ r u, Report.save run (Report.markdown run) config.outputDir w = (r, u) := ⟨_, _, rfl⟩
  obtain ⟨r', u', hsave'⟩ :
      ∃ r u, Report.save run (Report.markdown run) config.outputDir w' = (r, u) := ⟨_, _, rfl⟩
  rw [hsave, hsave'] at hend htwin
  obtain rfl : r' = r := hend
  rw [CommandLine.store_of_dir run hdir hne] at hknown ⊢
  cases r' with
  | error e =>
    have hpublish : Workflow.publish given config run w' = (.error e, u') :=
      bind_of_error hsave'
    rw [hpublish, bind_of_error hsave]
    exact ⟨rfl, fun loc _ _ => by rw [htwin.files]⟩
  | ok saved =>
    have hstore : (Report.save run (Report.markdown run) config.outputDir
        >>= fun _ => (pure run : Task RunResult)) w = (.ok run, u) := bind_of_ok hsave
    have hpublish : Workflow.publish given config run w' = Workflow.announce given run saved u' :=
      bind_of_ok hsave'
    obtain ⟨rfl, -⟩ := Report.save_eq_ok_iff.1 hsave
    rw [hstore] at hknown ⊢
    -- up to here both did the same; only the step goes on
    have hannounce := (Workflow.mirrors_announce (isKept_twin (Launcher.ignores_none env env'))
      given run (Report.placed config.outputDir) u u' htwin).1
    rw [hknown rfl] at hannounce
    rw [hpublish, ← htwin.files, ← htwin.directory]
    exact ⟨hannounce, fun loc houtputs hsummary =>
      Workflow.face?_announce (Prod.ext hannounce rfl) houtputs hsummary⟩

/-- The guard does the same in the step and on the command line, from the configuration on. -/
theorem guarded_agree (hignores : launch.Ignores env env') (hw : World.Twin env env' w w')
    (hspells : Workflow.Spells given o)
    (hreports : ∀ config, (Config.load o.config cwd w).1 = .ok config →
      o.reportDir = some config.outputDir)
    (hknown : ∀ run dir, (CommandLine.guarded launch o cwd w).1 = .ok run →
      o.reportDir = some dir →
        (Workflow.announce given run (Report.placed dir) (CommandLine.guarded launch o cwd w).2).1
          = .ok run) :
    (Workflow.guarded launch given cwd w').1 = (CommandLine.guarded launch o cwd w).1
      ∧ ∀ loc, loc ≠ Workflow.outputPlace given
          (CommandLine.guarded launch o cwd w).2.directory →
        loc ≠ Workflow.summaryPlace given (CommandLine.guarded launch o cwd w).2.directory →
          (Workflow.guarded launch given cwd w').2.files.face? loc
            = (CommandLine.guarded launch o cwd w).2.files.face? loc := by
  have hread : ofGuard (Workflow.Inputs.read given) w'
      = (.ok ⟨o.config, o.update, o.mode, o.failOnAdditions⟩, w') := by
    rw [Workflow.Inputs.read_of_spells hspells]
    rfl
  have hcore : Workflow.guarded launch given cwd w'
      = (Guard.fromFile launch o.config cwd (CommandLine.asked o) >>= fun done =>
          Workflow.publish given done.1 done.2) w' := by
    rw [Workflow.guarded_eq, bind_of_ok hread]
    rfl
  rw [CommandLine.guarded_eq] at hknown ⊢
  rw [hcore]
  obtain ⟨hend, htwin⟩ :=
    (Guard.built_fromFile launch o.config cwd (CommandLine.asked o)).twins hignores w w' hw
  obtain ⟨r, u, hfrom⟩ :
      ∃ r u, Guard.fromFile launch o.config cwd (CommandLine.asked o) w = (r, u) := ⟨_, _, rfl⟩
  obtain ⟨r', u', hfrom'⟩ :
      ∃ r u, Guard.fromFile launch o.config cwd (CommandLine.asked o) w' = (r, u) := ⟨_, _, rfl⟩
  rw [hfrom, hfrom'] at hend htwin
  obtain rfl : r' = r := hend
  cases r' with
  | error e =>
    rw [bind_of_error hfrom, bind_of_error hfrom']
    exact ⟨rfl, fun loc _ _ => by rw [htwin.files]⟩
  | ok done =>
    obtain ⟨config, run⟩ := done
    obtain ⟨hload, -⟩ := Guard.fromFile_eq_ok_iff.1 hfrom
    have hdir := hreports config hload
    rw [bind_of_ok hfrom] at hknown ⊢
    rw [bind_of_ok hfrom']
    exact store_publish_agree htwin hdir (Config.outputDir_ne_nil hload)
      fun hstored => hknown run config.outputDir hstored hdir

end Agreement

/-- The two programs agree.  If the inputs of a step spell the options of a command line that stores
its reports in the configured directory, if the command does the same with the variables of the step
as without them, and if the outputs can be handed over and the job summary can be written when it
comes to it, then the core of both programs has the same result, both end in the same way and with
the same exit code, and wherever neither the file for outputs nor the job summary is, they leave the
same behind. -/
theorem programs_agree (launch : Launcher) (hlaunch : launch.IsConfined) (o : CliOptions)
    (given : Workflow.Variables) (cwd : Text) (w w' : World)
    (hworlds : World.Twin w.environment w'.environment w w') (hspells : Workflow.Spells given o)
    (hignores : launch.Ignores w.environment (w'.environment ++ given.entries))
    (hreports : ∀ config, (Config.load o.config cwd (CommandLine.start w)).1 = .ok config →
      o.reportDir = some config.outputDir)
    (hknown : ∀ run dir, (CommandLine.guarded launch o cwd (CommandLine.start w)).1 = .ok run →
      o.reportDir = some dir →
        (Workflow.announce given run (Report.placed dir) (CommandLine.program launch o cwd w).2).1
          = .ok run) :
    (∃ inputs, Workflow.Inputs.read given = .ok inputs
      ∧ (Guard.fromFile launch inputs.configPath cwd inputs.asked (Workflow.start given w')).1
        = (Guard.fromFile launch o.config cwd (CommandLine.asked o) (CommandLine.start w)).1)
    ∧ (Workflow.guarded launch given cwd (Workflow.start given w')).1
      = (CommandLine.guarded launch o cwd (CommandLine.start w)).1
    ∧ (∃ exit exit', (CommandLine.program launch o cwd w).1 = .ok exit
      ∧ (Workflow.program launch given cwd w').1 = .ok exit' ∧ exit'.code = exit.code)
    ∧ ∀ loc, loc ≠ Workflow.outputPlace given w.directory →
      loc ≠ Workflow.summaryPlace given w.directory →
        (Workflow.program launch given cwd w').2.files.face? loc
            = (CommandLine.program launch o cwd w).2.files.face? loc
          ∧ (Workflow.program launch given cwd w').2.files.content? loc
            = (CommandLine.program launch o cwd w).2.files.content? loc := by
  have hstart : World.Twin w.environment (w'.environment ++ given.entries) (CommandLine.start w)
      (Workflow.start given w') := by
    obtain ⟨log, hdressed⟩ := hworlds.dressed
    refine ⟨rfl, [], ?_⟩
    rw [hdressed]
    rfl
  rw [CommandLine.program_snd] at hknown ⊢
  obtain ⟨hend, hfiles⟩ := guarded_agree hignores hstart hspells hreports hknown
  have hbuilt := CommandLine.built_guarded launch o cwd
  have hdirectory := (hbuilt.continues hlaunch (CommandLine.start w)).directory
  rw [hdirectory] at hfiles
  refine ⟨⟨_, Workflow.Inputs.read_of_spells hspells, ?_⟩, hend, ?_,
    fun loc houtputs hsummary => ?_⟩
  · exact ((Guard.built_fromFile launch o.config cwd (CommandLine.asked o)).twins hignores _ _
      hstart).1
  · obtain ⟨r, u, hguarded⟩ :
        ∃ r u, CommandLine.guarded launch o cwd (CommandLine.start w) = (r, u) := ⟨_, _, rfl⟩
    obtain ⟨r', u', hguarded'⟩ :
        ∃ r u, Workflow.guarded launch given cwd (Workflow.start given w') = (r, u) := ⟨_, _, rfl⟩
    rw [hguarded, hguarded'] at hend
    obtain rfl : r' = r := hend
    cases r' with
    | ok run =>
      obtain ⟨exit, hexit, hcode, -⟩ := CommandLine.program_of_ok hguarded
      obtain ⟨exit', hexit', hcode', -⟩ := Workflow.program_of_ok hguarded'
      exact ⟨exit, exit', hexit, hexit', hcode'.trans hcode.symm⟩
    | error e =>
      have he := hbuilt.reports _ e u hguarded
      obtain ⟨exit, hexit, hcode, -⟩ := CommandLine.program_of_error hguarded he
      obtain ⟨exit', hexit', hcode'⟩ := Workflow.program_of_error hguarded' he
      exact ⟨exit, exit', hexit, hexit', hcode'.trans hcode.symm⟩
  · have hface := hfiles loc houtputs hsummary
    rw [Workflow.files_program, FileTree.content?_eq, FileTree.content?_eq, hface]
    exact ⟨rfl, rfl⟩

namespace FirstBaseline

/-- The export command does nothing, and fails if it is given a variable. -/
def picky : Launcher := fun _ _ _ w => (.ok ⟨if w.environment.isEmpty then 0 else 1, [], []⟩, w)

/-- The run of a command that fails. -/
def refused : RunResult :=
  runWith (.failed "A" ⟨.exportUnavailable, "swift exited with code 1"⟩ (.zero false))

theorem isConfined_picky : picky.IsConfined := ⟨fun _ _ _ w => ⟨w.toMachine, w.clock, rfl, id⟩⟩

theorem json_refused : (Report.json refused).toOption.isSome = true := by cbv

/-- The Markdown report of an earlier run is there. -/
def reported : World :=
  world [("apiguard-report", directory 8 [("API_GUARD_REPORT.md", file 9 "")])]

/-- The job summary is where the export of the target will be. -/
def swept : World := world [("A", directory 8 [("summary", file 9 "")])]

/-- A step whose job summary is the Markdown report. -/
def summing : Workflow.Variables := inputs [] saved.markdownPath

/-- A step whose job summary is where the export of the target will be. -/
def losing : Workflow.Variables := inputs [] (outputDir ++ "/A/summary")

/-- A step that puts its outputs out as commands. -/
def telling : Workflow.Variables := inputs [] "/summary"

/-- A step whose file for outputs is not there. -/
def missing : Workflow.Variables := inputs "/missing" "/summary"

/-- A step whose file for outputs is the Markdown report. -/
def handing : Workflow.Variables := inputs saved.markdownPath "/summary"

/-- What both programs come to in these worlds. -/
theorem evaluated_elsewhere :
    (Computes idle (CommandLine.start reported) updated
        ∧ Computes idle (CommandLine.start swept) updated
        ∧ Computes picky (CommandLine.start fresh) updated
        ∧ Computes picky (Workflow.start telling fresh) refused)
      ∧ ((announced idle updated summing (Workflow.start summing reported)).1.toOption
          = some updated
        ∧ (announced idle updated losing (Workflow.start losing swept)).1.toOption = none
        ∧ (announced picky refused telling (Workflow.start telling fresh)).1.toOption
          = some refused
        ∧ (announced idle updated missing (Workflow.start missing fresh)).1.toOption = none
        ∧ (announced idle updated handing (Workflow.start handing reported)).1.toOption
          = some updated)
      ∧ (contentAfter (stored idle updated (CommandLine.start reported)) reportPlace
          = some reportBytes
        ∧ contentAfter (announced idle updated summing (Workflow.start summing reported))
          reportPlace = some (reportBytes ++ reportBytes)
        ∧ contentAfter (announced idle updated handing (Workflow.start handing reported))
          reportPlace = some (reportBytes ++ outputBytes)
        ∧ reportBytes ≠ [] ∧ outputBytes ≠ [])
      ∧ (isAccessible (Workflow.summaryPath summing) reported).1.toOption = some true
      ∧ (isAccessible (Workflow.summaryPath losing) swept).1.toOption = some true
      ∧ (isAccessible (Workflow.summaryPath telling) fresh).1.toOption = some true
      ∧ (isAccessible (Workflow.summaryPath missing) fresh).1.toOption = some true
      ∧ (isAccessible (Workflow.summaryPath handing) reported).1.toOption = some true := by
  decide +kernel

theorem runs_reported : Runs idle (CommandLine.start reported) updated :=
  ⟨json_updated, evaluated_elsewhere.1.1⟩

theorem runs_swept : Runs idle (CommandLine.start swept) updated :=
  ⟨json_updated, evaluated_elsewhere.1.2.1⟩

/-- If a step adds something to the Markdown report, that is not the one of the command line. -/
theorem content_reported {given : Workflow.Variables} (hspells : Workflow.Spells given options)
    {added : Bytes} (hadded : added ≠ [])
    (h : contentAfter (announced idle updated given (Workflow.start given reported)) reportPlace
      = some (reportBytes ++ added)) :
    (Workflow.program idle given "/" reported).2.files.content? reportPlace
      ≠ (CommandLine.program idle options "/" reported).2.files.content? reportPlace := by
  obtain ⟨-, -, ⟨hreport, -⟩, -⟩ := evaluated_elsewhere
  rw [contentAfter] at h hreport
  rw [CommandLine.program_snd, runs_reported.guarded_commandLine, Workflow.files_program,
    (runs_reported.step given).guarded_workflow hspells, h, hreport, Ne, Option.some.injEq,
    List.append_right_eq_self]
  exact hadded

end FirstBaseline

open FirstBaseline in
/-- Both programs make a first baseline. -/
theorem programs_agree_of_update :
    ∃ exit exit', (CommandLine.program idle options "/" fresh).1 = .ok exit
      ∧ (Workflow.program idle given "/" fresh).1 = .ok exit'
      ∧ exit'.code = exit.code ∧ exit.code = 0
      ∧ ∀ loc : Location, loc ≠ ["outputs"] → loc ≠ ["summary"] →
        (Workflow.program idle given "/" fresh).2.files.content? loc
          = (CommandLine.program idle options "/" fresh).2.files.content? loc := by
  obtain ⟨-, hannounced, -, ⟨hplaced, houtputs, hsummary⟩, -⟩ := evaluated
  have hknown : ∀ run dir, (CommandLine.guarded idle options "/" (CommandLine.start fresh)).1
        = .ok run → options.reportDir = some dir →
      (Workflow.announce given run (Report.placed dir)
        (CommandLine.program idle options "/" fresh).2).1 = .ok run := by
    rw [CommandLine.program_snd, runs_fresh.guarded_commandLine]
    rintro run dir ⟨⟩ ⟨⟩
    rw [hplaced, runs_fresh.announce_stored]
    exact eq_ok_of_toOption hannounced
  obtain ⟨-, -, ⟨exit, exit', hexit, hexit', hcode⟩, hfiles⟩ := programs_agree idle isConfined_idle
    options given "/" fresh fresh ⟨rfl, [], rfl⟩ spells_given (ignores_idle _ _)
    (fun _ => runs_fresh.reportDir_eq) hknown
  have hzero := runs_fresh.code_commandLine
  rw [hexit] at hzero
  rw [houtputs, hsummary] at hfiles
  exact ⟨exit, exit', hexit, hexit', hcode, Except.ok.inj hzero,
    fun loc hout hsum => (hfiles loc hout hsum).2⟩

open FirstBaseline in
/-- Without these conditions the programs need not agree, although the job summary can be written at
first: it may be one of the reports, or be removed by the export; the command may fail for the
variables of the step; and the file for outputs may be missing, or be one of the reports. -/
theorem programs_disagree :
    (∀ given ∈ [summing, losing, telling, missing, handing], Workflow.Spells given options)
    ∧ (∀ w ∈ [reported, swept, fresh], ∀ config,
      (Config.load options.config "/" (CommandLine.start w)).1 = .ok config →
        options.reportDir = some config.outputDir)
    ∧ (idle.IsConfined ∧ picky.IsConfined)
    ∧ ((isAccessible (Workflow.summaryPath summing) reported).1 = .ok true
      ∧ (CommandLine.program idle options "/" reported).1.map Exit.code = .ok 0
      ∧ (Workflow.program idle summing "/" reported).1.map Exit.code = .ok 0
      ∧ (Workflow.program idle summing "/" reported).2.files.content? reportPlace
        ≠ (CommandLine.program idle options "/" reported).2.files.content? reportPlace)
    ∧ ((isAccessible (Workflow.summaryPath losing) swept).1 = .ok true
      ∧ (CommandLine.program idle options "/" swept).1.map Exit.code = .ok 0
      ∧ (Workflow.program idle losing "/" swept).1.map Exit.code = .ok 1)
    ∧ ((isAccessible (Workflow.summaryPath telling) fresh).1 = .ok true
      ∧ (CommandLine.program picky options "/" fresh).1.map Exit.code = .ok 0
      ∧ (Workflow.program picky telling "/" fresh).1.map Exit.code = .ok 1)
    ∧ ((isAccessible (Workflow.summaryPath missing) fresh).1 = .ok true
      ∧ (CommandLine.program idle options "/" fresh).1.map Exit.code = .ok 0
      ∧ (Workflow.program idle missing "/" fresh).1.map Exit.code = .ok 1)
    ∧ (isAccessible (Workflow.summaryPath handing) reported).1 = .ok true
      ∧ (CommandLine.program idle options "/" reported).1.map Exit.code = .ok 0
      ∧ (Workflow.program idle handing "/" reported).1.map Exit.code = .ok 0
      ∧ (Workflow.program idle handing "/" reported).2.files.content? reportPlace
        ≠ (CommandLine.program idle options "/" reported).2.files.content? reportPlace := by
  obtain ⟨⟨-, -, hpicky, hpicky'⟩, ⟨hsummed, hlost, htold, hmissed, hhanded⟩,
    ⟨-, hsum, hhand, hreport, houtputs⟩, hsumming, hlosing, htelling, hmissing, hhanding⟩ :=
      evaluated_elsewhere
  have hspells := spells_inputs
  refine ⟨fun given hgiven => ?_, fun w hw config hload => ?_,
    ⟨isConfined_idle, isConfined_picky⟩,
    ⟨eq_ok_of_toOption hsumming, runs_reported.code_commandLine,
      (runs_reported.step summing).code_workflow (hspells _ _) hsummed,
      content_reported (hspells _ _) hreport hsum⟩,
    ⟨eq_ok_of_toOption hlosing, runs_swept.code_commandLine,
      (runs_swept.step losing).code_workflow_of_none (hspells _ _) hlost⟩,
    ⟨eq_ok_of_toOption htelling, Runs.code_commandLine ⟨json_updated, hpicky⟩,
      Runs.code_workflow ⟨json_refused, hpicky'⟩ (hspells _ _) htold⟩,
    ⟨eq_ok_of_toOption hmissing, runs_fresh.code_commandLine,
      (runs_fresh.step missing).code_workflow_of_none (hspells _ _) hmissed⟩,
    eq_ok_of_toOption hhanding, runs_reported.code_commandLine,
    (runs_reported.step handing).code_workflow (hspells _ _) hhanded,
    content_reported (hspells _ _) houtputs hhand⟩
  · simp only [List.mem_cons, List.not_mem_nil, or_false] at hgiven
    rcases hgiven with rfl | rfl | rfl | rfl | rfl <;> exact hspells _ _
  · simp only [List.mem_cons, List.not_mem_nil, or_false] at hw
    rcases hw with rfl | rfl | rfl
    · exact runs_reported.reportDir_eq hload
    · exact runs_swept.reportDir_eq hload
    · exact runs_fresh.reportDir_eq hload

end SurfaceGuard
