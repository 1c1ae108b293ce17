import SurfaceGuard.Proofs.Process.Launch
import SurfaceGuard.Proofs.Program.Ends

/-!
# How much is shown

The work of the guard adds to the log and never reads it (`Task.Built.onlyAdds`), and who watches
only decides how the log is rendered.  So how much is shown has no influence on what is done:
whatever the verbosity, the program ends with the same code, writes the same text to the output
stream, and leaves the same world (`verbosity_is_observation`).

What is shown on the error stream are the entries of the log that the verbosity lets through, and
the report of a run that does not pass.
-/

open SurfaceGuard.Task

namespace SurfaceGuard

/-! ## The log is only added to -/

/-- The second world is the first one with more in front of its log. -/
def World.Preceded (before : List Entry) (w w' : World) : Prop :=
  w' = { w with log := before ++ w.log }

/-- Commands do the same whatever was recorded before them. -/
def Launcher.IsDeaf (launch : Launcher) : Prop := ∀ given, launch.Ignores given given

theorem Launch.isDeaf_launcher (pace : Nat) : (launcher pace).IsDeaf := ignores_launcher pace

theorem Task.isKept_preceded {launch : Launcher} (hlaunch : launch.IsConfined)
    (hdeaf : launch.IsDeaf) (before : List Entry) : IsKept launch (World.Preceded before) where
  dressed {w w'} h := ⟨w.environment, before ++ w.log, h⟩
  logged {w w'} h entries := by
    rw [h, World.Preceded, World.logged, World.logged, List.append_assoc]
  changed h files time := by
    rw [h]
    rfl
  noted h faults := by
    rw [h]
    rfl
  drawn h random := by
    rw [h]
    rfl
  launched {w w'} h argv cwd timeoutMs := by
    have htwin : World.Twin w.environment w.environment w w' := ⟨rfl, before ++ w.log, h⟩
    obtain ⟨hend, hafter⟩ := hdeaf w.environment argv cwd timeoutMs w w' htwin
    obtain ⟨log, hlog⟩ := hafter.dressed
    obtain ⟨machine, clock, hworld, -⟩ := hlaunch.world argv cwd timeoutMs w
    obtain ⟨machine', clock', hworld', -⟩ := hlaunch.world argv cwd timeoutMs w'
    -- the command leaves the log as it was, in both worlds
    have hlog' : log = before ++ w.log := by
      have hsame := congrArg World.log (hlog.symm.trans hworld')
      rw [h] at hsame
      exact hsame
    refine ⟨hend, ?_⟩
    rw [World.Preceded, hlog, hlog', hworld]
    rfl

/-- What the task does and records does not depend on what was recorded before. -/
def Task.OnlyAdds {α : Type} (t : Task α) : Prop := ∀ (before : List Entry) (w : World),
  t { w with log := before ++ w.log } = ((t w).1, { (t w).2 with log := before ++ (t w).2.log })

theorem Task.Built.onlyAdds {α : Type} {launch : Launcher} {t : Task α} (h : Built launch t)
    (hlaunch : launch.IsConfined) (hdeaf : launch.IsDeaf) : OnlyAdds t := by
  intro before w
  obtain ⟨hend, hworld⟩ := h.mirrors (isKept_preceded hlaunch hdeaf before) w _ rfl
  exact Prod.ext hend hworld

/-! ## What is shown -/

namespace Entry

/-- Is it a debug message? -/
def isDebug : Entry → Bool
  | message .debug _ => true
  | _ => false

/-- The text of an error message. -/
def error? : Entry → Option Text
  | message .error text => some text
  | _ => none

/-- The entry as a verbose console shows it. -/
def shown (e : Entry) : Text := (Logger.consoleEntry true e).stderr

end Entry

namespace Logger

variable (entries : List Entry)

/-- A console that is not verbose leaves out the debug messages, and nothing else. -/
theorem stderr_render_console (verbose : Bool) : ((console verbose).render entries).stderr
    = (entries.filter fun e => verbose || !e.isDebug).flatMap Entry.shown := by
  have hentry : ∀ e, (consoleEntry verbose e).stderr
      = if verbose || !e.isDebug then e.shown else [] := by
    intro e
    cases e with
    | message level text => cases level <;> cases verbose <;> rfl
    | _ => cases verbose <;> rfl
  show (entries.flatMap fun e => (consoleEntry verbose e).stderr) = _
  induction entries with
  | nil => rfl
  | cons e entries ih =>
    rw [List.flatMap_cons, ih, hentry, List.filter_cons]
    split
    · rw [List.flatMap_cons]
    · rfl

/-- The quiet logger writes the text of every error message on a line, and nothing else. -/
theorem stderr_render_quiet : (quiet.render entries).stderr
    = (entries.filterMap Entry.error?).flatMap (· ++ Text.newline) := by
  show (entries.flatMap fun e => (quietEntry e).stderr) = _
  induction entries with
  | nil => rfl
  | cons e entries ih =>
    rw [List.flatMap_cons, ih, List.filterMap_cons]
    cases e with
    | message level text => cases level <;> rfl
    | _ => rfl

end Logger

/-! ## The program -/

/-- The options with another verbosity. -/
def CliOptions.heard (o : CliOptions) (verbose quiet : Bool) : CliOptions :=
  { o with verbose, quiet }

namespace CommandLine

variable (launch : Launcher) (o : CliOptions) (cwd : Text) (w : World)

/-- All that is recorded, with the message about what ended the work, if something did. -/
def recorded : List Entry :=
  match guarded launch o cwd (start w) with
  | (.ok _, w') => w'.log
  | (.error e, w') =>
    w'.log ++ (e.describe.toOption.map fun info => Entry.message .error info.message).toList

/-- The report of a run that was completed and does not pass. -/
def complaint : Text :=
  match (guarded launch o cwd (start w)).1 with
  | .ok run => if run.passed then [] else Report.plain run
  | .error _ => []

theorem guarded_heard (verbose quiet : Bool) :
    guarded launch (o.heard verbose quiet) cwd = guarded launch o cwd := rfl

/-- The verbosity only decides how what is recorded is rendered. -/
theorem program_heard : ∃ code stdout, ∀ verbose quiet,
    program launch (o.heard verbose quiet) cwd w
      = (.ok ⟨code, ⟨stdout, ((logger (o.heard verbose quiet)).render
          (recorded launch o cwd w)).stderr ++ complaint launch o cwd w⟩⟩,
        (guarded launch o cwd (start w)).2) := by
  obtain ⟨r, w', hguarded⟩ : ∃ r w', guarded launch o cwd (start w) = (r, w') := ⟨_, _, rfl⟩
  have hstart : ∀ verbose quiet, guarded launch (o.heard verbose quiet) cwd { w with log := [] }
      = (r, w') := by
    intro verbose quiet
    rw [guarded_heard]
    exact hguarded
  have hstdout : ∀ verbose quiet s, (logger (o.heard verbose quiet)).render w'.log ++ s
      = ⟨s.stdout, ((logger (o.heard verbose quiet)).render w'.log).stderr ++ s.stderr⟩ := by
    intro verbose quiet s
    show Streams.mk (Streams.stdout _ ++ s.stdout) _ = _
    rw [stdout_render, List.nil_append]
  rw [recorded, complaint, hguarded]
  cases r with
  | ok run =>
    cases hpassed : run.passed with
    | true =>
      refine ⟨0, Report.plain run, fun verbose quiet => ?_⟩
      simp only [program, hstart, hpassed, hstdout]
      rfl
    | false =>
      refine ⟨1, [], fun verbose quiet => ?_⟩
      simp only [program, hstart, hpassed, hstdout]
      rfl
  | error e =>
    obtain ⟨info, hinfo⟩ := Thrown.describe_ok_iff.2
      ((built_guarded launch o cwd).reports _ e w' hguarded)
    refine ⟨1, [], fun verbose quiet => ?_⟩
    have hsame : ∀ s : Streams, s.stdout = [] → s = ⟨[], s.stderr ++ []⟩ := by
      rintro ⟨stdout, stderr⟩ rfl
      rw [List.append_nil]
    simp only [program, hstart, hinfo]
    exact congrArg (fun s => (Except.ok (Exit.mk 1 s), w')) (hsame _ (stdout_render _ _))

/-- Verbosity is observation only.  Whatever it is, the program ends with the same code, writes the
same text to the output stream, and leaves the same world, and so the same files.  On the error
stream a quiet program writes the error messages, one that is not verbose all that a verbose one
writes except the debug messages, and each of them then the report of a run that was completed and
does not pass.  The work itself does not read what is recorded, if commands do not: it only adds to
it. -/
theorem verbosity_is_observation :
    let entries := recorded launch o cwd w
    let report := complaint launch o cwd w
    (∃ code stdout w', ∀ verbose quiet, ∃ stderr,
      program launch (o.heard verbose quiet) cwd w = (.ok ⟨code, ⟨stdout, stderr⟩⟩, w')
        ∧ (quiet = true →
          stderr = (entries.filterMap Entry.error?).flatMap (· ++ Text.newline) ++ report)
        ∧ (quiet = false → verbose = true → stderr = entries.flatMap Entry.shown ++ report)
        ∧ (quiet = false → verbose = false →
          stderr = (entries.filter fun e => !e.isDebug).flatMap Entry.shown ++ report))
    ∧ (report = [] ∨ ∃ run, (guarded launch o cwd (start w)).1 = .ok run ∧ run.passed = false
        ∧ report = Report.plain run)
    ∧ (launch.IsConfined → launch.IsDeaf → OnlyAdds (guarded launch o cwd)) := by
  intro entries report
  refine ⟨?_, ?_, (built_guarded launch o cwd).onlyAdds⟩
  · obtain ⟨code, stdout, hprogram⟩ := program_heard launch o cwd w
    refine ⟨code, stdout, _, fun verbose quiet => ⟨_, hprogram verbose quiet, ?_, ?_, ?_⟩⟩
    · rintro rfl
      exact congrArg (· ++ report) (Logger.stderr_render_quiet entries)
    · rintro rfl rfl
      have hall := Logger.stderr_render_console entries true
      simp only [Bool.true_or, List.filter_true] at hall
      exact congrArg (· ++ report) hall
    · rintro rfl rfl
      exact congrArg (· ++ report) (Logger.stderr_render_console entries false)
  · cases hend : (guarded launch o cwd (start w)).1 with
    | error e => exact Or.inl (by simp only [report, complaint, hend])
    | ok run =>
      cases hpassed : run.passed with
      | true => exact Or.inl (by simp only [report, complaint, hend, hpassed]; rfl)
      | false =>
        exact Or.inr ⟨run, rfl, hpassed, by simp only [report, complaint, hend, hpassed]; rfl⟩

/-- A first baseline, for a target whose graph is there and whose command only says something: one
quiet run shows that all runs end with 0 and report the update.  Commands that are really run do not
see what is recorded. -/
theorem verbosity_is_observation_of_update :
    let launch : Launcher := fun _ _ _ w => (.ok ⟨0, [], "built"⟩, w)
    let graph : Node := .file ⟨1, 0o644, 0⟩ (Utf8.encode "\x7b\"symbols\":[]\x7d")
    let config : Node := .file ⟨2, 0o644, 0⟩ (Utf8.encode "\x7b\"targets\":[\"A\"]\x7d")
    let graphs : Node := .directory ⟨3, 0o755, 0⟩ [("A.symbols.json", graph)]
    let build : Node := .directory ⟨4, 0o755, 0⟩ [("symbol-graphs", graphs)]
    let w : World := .quiet
      ⟨.directory ⟨0, 0o755, 0⟩ [(".apiguard.json", config), (".build", build)], 5⟩
    let o : CliOptions := { update := true }
    (∀ verbose quiet, ∃ stderr, (program launch (o.heard verbose quiet) "/" w).1
        = .ok ⟨0, ⟨"Updated baseline: A\nAPIGuard: baseline updated.\n", stderr⟩⟩)
      ∧ OnlyAdds (guarded (Launch.launcher 1) o "/") := by
  intro launch graph config graphs build w o
  obtain ⟨-, -, hadds⟩ := verbosity_is_observation (Launch.launcher 1) o "/" w
  refine ⟨?_, hadds (Launch.isConfined_launcher 1) (Launch.isDeaf_launcher 1)⟩
  intro verbose quiet
  obtain ⟨⟨code, stdout, w', hprogram⟩, -, -⟩ := verbosity_is_observation launch o "/" w
  have hquiet : (program launch (o.heard false true) "/" w).1.toOption.map
      (fun exit => (exit.code, exit.streams.stdout))
        = some (0, ("Updated baseline: A\nAPIGuard: baseline updated.\n" : Text)) := by
    decide +kernel
  obtain ⟨stderr, hone, -⟩ := hprogram false true
  rw [hone, Except.toOption, Option.map_some, Option.some.injEq, Prod.mk.injEq] at hquiet
  obtain ⟨rfl, rfl⟩ := hquiet
  obtain ⟨stderr', hother, -⟩ := hprogram verbose quiet
  exact ⟨stderr', by rw [hother]⟩

end CommandLine

end SurfaceGuard
