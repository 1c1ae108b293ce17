import SurfaceGuard.Proofs.Program.FromFile

/-!
# How programs end

A program does the work of the guard in a world whose log is empty, and then renders the log and
ends.  It ends with 0 if the work has a result that passes, and with 1 if the result does not pass
or the work was ended by something thrown.  All that is thrown has a description, so there is no
third way out.

On the command line the output stream has the report of a run that passes and nothing else: the
loggers for it write to the error stream (`CommandLine.stdout_render`).
-/

open SurfaceGuard.Task

namespace SurfaceGuard

/-! ## The command line -/

namespace CommandLine

variable {launch : Launcher} {o : CliOptions} {cwd : Text} {w : World}

/-- The loggers of the command line write nothing to the output stream. -/
theorem stdout_render (o : CliOptions) (entries : List Entry) :
    ((logger o).render entries).stdout = [] := by
  have hquiet : ∀ e, (Logger.quietEntry e).stdout = [] := by
    intro e
    cases e with
    | message level text => cases level <;> rfl
    | _ => rfl
  have hconsole : ∀ verbose e, (Logger.consoleEntry verbose e).stdout = [] := by
    intro verbose e
    cases e with
    | message level text => cases level <;> cases verbose <;> rfl
    | _ => rfl
  rw [Logger.render, List.flatMap_eq_nil_iff]
  intro e _
  rw [logger]
  split
  · exact hquiet e
  · exact hconsole o.verbose e

/-- The world in which the program starts: its log is empty. -/
def start (w : World) : World := { w with log := [] }

/-- The program leaves the world as its work does. -/
theorem program_snd (launch : Launcher) (o : CliOptions) (cwd : Text) (w : World) :
    (program launch o cwd w).2 = (guarded launch o cwd (start w)).2 := by
  rw [start]
  simp only [program]
  split
  · next run w' h =>
    rw [h]
    split <;> rfl
  · next e w' h => rw [h]

/-- The program says what ended the guard, and ends with 1. -/
theorem program_of_error {e : Thrown} {w' : World}
    (h : guarded launch o cwd (start w) = (.error e, w')) (he : ¬e.Textless) :
    ∃ exit, (program launch o cwd w).1 = .ok exit ∧ exit.code = 1 ∧ exit.streams.stdout = [] := by
  obtain ⟨info, hinfo⟩ := Thrown.describe_ok_iff.2 he
  have hprogram : (program launch o cwd w).1
      = .ok ⟨1, (logger o).render (w'.log ++ [.message .error info.message])⟩ := by
    rw [start] at h
    simp only [program, h, hinfo]
    rfl
  exact ⟨_, hprogram, rfl, stdout_render o _⟩

/-- The program reports a run, and ends as the run does. -/
theorem program_of_ok {run : RunResult} {w' : World}
    (h : guarded launch o cwd (start w) = (.ok run, w')) :
    ∃ exit, (program launch o cwd w).1 = .ok exit
      ∧ exit.code = (if run.passed then 0 else 1)
      ∧ exit.streams.stdout = if run.passed then Report.plain run else [] := by
  have hstdout : ∀ s : Streams, ((logger o).render w'.log ++ s).stdout = s.stdout := by
    intro s
    show ((logger o).render w'.log).stdout ++ s.stdout = s.stdout
    rw [stdout_render, List.nil_append]
  rw [start] at h
  simp only [program, h]
  cases hpassed : run.passed with
  | true => exact ⟨_, rfl, rfl, hstdout _⟩
  | false => exact ⟨_, rfl, rfl, hstdout _⟩

end CommandLine

/-! ## The workflow -/

namespace Workflow

variable {launch : Launcher} {given : Variables} {cwd : Text} {run : RunResult} {w : World}

/-- The world in which the step starts: it has the variables of the step, and an empty log. -/
def start (given : Variables) (w : World) : World :=
  { w with log := [], environment := w.environment ++ given.entries }

/-- The program leaves the files as its work does. -/
theorem files_program (launch : Launcher) (given : Variables) (cwd : Text) (w : World) :
    (program launch given cwd w).2.files = (guarded launch given cwd (start given w)).2.files := by
  rw [start]
  simp only [program]
  split
  · split <;> rfl
  · rfl

/-- The program says what ended the guard, and ends with 1. -/
theorem program_of_error {e : Thrown} {w' : World}
    (h : guarded launch given cwd (start given w) = (.error e, w'))
    (he : ¬e.Textless) : ∃ exit, (program launch given cwd w).1 = .ok exit ∧ exit.code = 1 := by
  obtain ⟨info, hinfo⟩ := Thrown.describe_ok_iff.2 he
  have hprogram : (program launch given cwd w).1
      = .ok ⟨1, Logger.workflow.render (w'.log ++ [.message .error info.message])⟩ := by
    rw [start] at h
    simp only [program, h, hinfo]
    rfl
  exact ⟨_, hprogram, rfl⟩

/-- The program ends as its run does. -/
theorem program_of_ok {w' : World}
    (h : guarded launch given cwd (start given w) = (.ok run, w')) :
    ∃ exit, (program launch given cwd w).1 = .ok exit ∧ exit.code = (if run.passed then 0 else 1)
      ∧ (program launch given cwd w).2.log = w'.log := by
  rw [start] at h
  simp only [program, h]
  cases hpassed : run.passed with
  | true => exact ⟨_, rfl, rfl, rfl⟩
  | false => exact ⟨_, rfl, rfl, rfl⟩

end Workflow

end SurfaceGuard
