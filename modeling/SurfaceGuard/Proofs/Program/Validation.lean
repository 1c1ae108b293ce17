import SurfaceGuard.Proofs.Program.Ends
import SurfaceGuard.Proofs.Workflow.Inputs

/-!
# Nothing happens before everything is valid

Both programs check what they were asked for before they do anything.  With an input that cannot be
read, or without a configuration that can be used, they say so and end with 1, and that is all: no
command is run, whatever the launcher would do, the files are as before, and nothing is published
(`nothing_before_validation`).

What makes an input or a configuration unusable is said here without the functions that read them,
and these refuse nothing else (`Workflow.read_cases`, `Config.unusable_iff`).
-/

open SurfaceGuard.Task

namespace SurfaceGuard

/-! ## Inputs that cannot be read -/

namespace Workflow

open Text

/-- An input has none of the texts that are expected: a truth value in any case of letters, or the
name of a mode, with white space around it, or nothing but white space. -/
inductive Variables.Invalid (given : Variables) : Prop
  | update (h : lower (trim (raw given "update")) ∉ ([[], "true", "false"] : List Text))
  | failOnAdditions
      (h : lower (trim (raw given "fail-on-additions")) ∉ ([[], "true", "false"] : List Text))
  | mode (h : trim (raw given "mode") ∉ ([[], "semver", "strict"] : List Text))

/-- The path of the configuration that is used. -/
def configPath (given : Variables) : Text :=
  if input given "config" = [] then Config.defaultPath else input given "config"

variable {given : Variables} {name : Text}

theorem flagInput_ok_iff :
    (∃ b?, flagInput given name = .ok b?) ↔
      lower (trim (raw given name)) ∈ ([[], "true", "false"] : List Text) := by
  have hinput : trim (input given name) = trim (raw given name) := trim_trim (raw given name)
  rw [flagInput, hinput]
  simp only [List.mem_cons, List.not_mem_nil, or_false]
  split
  · next h => exact iff_of_true ⟨_, rfl⟩ (.inl h)
  · next hempty =>
    split
    · next h => exact iff_of_true ⟨_, rfl⟩ (.inr (.inl h))
    · next htrue =>
      split
      · next h => exact iff_of_true ⟨_, rfl⟩ (.inr (.inr h))
      · next hfalse =>
        refine iff_of_false ?_ (by simp [hempty, htrue, hfalse])
        rintro ⟨_, ⟨⟩⟩

theorem modeInput_ok_iff :
    (∃ m?, modeInput given = .ok m?) ↔
      trim (raw given "mode") ∈ ([[], "semver", "strict"] : List Text) := by
  have hinput : trim (input given "mode") = trim (raw given "mode") := trim_trim _
  have hname : ∀ name : Text,
      (∃ m, Mode.ofName? name = some m) ↔ name = "semver" ∨ name = "strict" := by
    intro name
    simp only [Mode.ofName?_eq_some_iff]
    constructor
    · rintro ⟨m, hm⟩
      cases m with
      | semver => exact .inl hm
      | strict => exact .inr hm
    · rintro (h | h)
      · exact ⟨.semver, h⟩
      · exact ⟨.strict, h⟩
  rw [modeInput, hinput]
  simp only [List.mem_cons, List.not_mem_nil, or_false]
  split
  · next h => exact iff_of_true ⟨_, rfl⟩ (.inl h)
  · next hempty =>
    rw [or_iff_right hempty, ← hname]
    cases Mode.ofName? (trim (raw given "mode")) with
    | some m => exact iff_of_true ⟨_, rfl⟩ ⟨m, rfl⟩
    | none => exact iff_of_false (by rintro ⟨_, ⟨⟩⟩) (by rintro ⟨_, ⟨⟩⟩)

/-- The inputs are refused exactly if one of them is invalid, and name the configuration if not. -/
theorem read_cases (given : Variables) :
    (∃ e, Inputs.read given = .error e ∧ given.Invalid)
      ∨ ∃ inputs, Inputs.read given = .ok inputs ∧ ¬given.Invalid
        ∧ inputs.configPath = configPath given := by
  have hrefused : ∀ {α : Type} {r : Except GuardError α} {e : GuardError} {P : Prop},
      r = .error e → ((∃ a, r = .ok a) ↔ P) → ¬P := by
    rintro α r e P rfl hiff h
    obtain ⟨a, ha⟩ := hiff.2 h
    cases ha
  rw [Inputs.read]
  cases hupdate : flagInput given "update" with
  | error e => exact .inl ⟨e, rfl, .update (hrefused hupdate flagInput_ok_iff)⟩
  | ok update =>
    cases hmode : modeInput given with
    | error e => exact .inl ⟨e, rfl, .mode (hrefused hmode modeInput_ok_iff)⟩
    | ok mode =>
      cases hfail : flagInput given "fail-on-additions" with
      | error e => exact .inl ⟨e, rfl, .failOnAdditions (hrefused hfail flagInput_ok_iff)⟩
      | ok failOnAdditions =>
        refine .inr ⟨_, rfl, fun h => ?_, rfl⟩
        cases h with
        | update h => exact h (flagInput_ok_iff.1 ⟨_, hupdate⟩)
        | mode h => exact h (modeInput_ok_iff.1 ⟨_, hmode⟩)
        | failOnAdditions h => exact h (flagInput_ok_iff.1 ⟨_, hfail⟩)

end Workflow

/-! ## Configurations that cannot be used -/

namespace Config

/-- A path leads to no configuration that can be used: there is nothing, or something that cannot be
read, or a text that is none. -/
inductive Unusable (files : FileTree) (directory : Place) (path cwd : Text) : Prop
  /-- No path with a zero in it leads anywhere. -/
  | missing (h : (Path.resolve cwd path).contains 0 = true
      ∨ files.hasPath directory (Utf8.encode (Path.resolve cwd path)) = false)
  | unreadable {e : Errno}
      (h : files.readFile directory (Utf8.encode (Path.resolve cwd path)) = .error e)
  | rejected {content : Bytes} {e : GuardError}
      (h : files.readFile directory (Utf8.encode (Path.resolve cwd path)) = .ok content)
      (hrejected : parse (Utf8.decode content) (Path.resolve cwd path) cwd = .error e)

variable {path cwd : Text} {w : World}

/-- A configuration that is not there is missing. -/
theorem load_of_absent (h : pathExists (Path.resolve cwd path) w = (.ok false, w)) :
    load path cwd w = (.error (.guard (.configNotFound (Path.resolve cwd path))), w) :=
  (bind_of_ok h).trans rfl

/-- A configuration that is there is what the text of its file says. -/
theorem load_of_present (h : pathExists (Path.resolve cwd path) w = (.ok true, w)) :
    load path cwd w
      = (match w.files.readFile w.directory (Utf8.encode (Path.resolve cwd path)) with
        | .error e => .error (readError (Path.resolve cwd path) e)
        | .ok content =>
          (parse (Utf8.decode content) (Path.resolve cwd path) cwd).mapError .guard, w) := by
  have htext := readText_eq (not_contains_zero h) w
  cases hread : w.files.readFile w.directory (Utf8.encode (Path.resolve cwd path)) with
  | error e =>
    rw [hread] at htext
    exact (bind_of_ok h).trans (bind_of_error htext)
  | ok content =>
    rw [hread] at htext
    exact (bind_of_ok h).trans ((bind_of_ok htext).trans (ofGuard_eq ..))

/-- What cannot be used is what does not load. -/
theorem unusable_iff :
    Unusable w.files w.directory path cwd ↔ ∃ e, load path cwd w = (.error e, w) := by
  have hthere := pathExists_eq (Path.resolve cwd path) w
  cases hexists : !(Path.resolve cwd path).contains 0
      && w.files.hasPath w.directory (Utf8.encode (Path.resolve cwd path)) with
  | false =>
    rw [hexists] at hthere
    refine iff_of_true (.missing ?_) ⟨_, load_of_absent hthere⟩
    rwa [Bool.and_eq_false_iff, Bool.not_eq_false'] at hexists
  | true =>
    rw [hexists] at hthere
    rw [Bool.and_eq_true, Bool.not_eq_true'] at hexists
    rw [load_of_present hthere]
    constructor
    · intro h
      cases h with
      | missing h =>
        rw [hexists.1, hexists.2] at h
        exact absurd h (by decide)
      | unreadable h => exact ⟨_, by rw [h]⟩
      | rejected h hrejected => exact ⟨_, by rw [h]; simp only [hrejected]; rfl⟩
    · rintro ⟨e, hload⟩
      cases hread : w.files.readFile w.directory (Utf8.encode (Path.resolve cwd path)) with
      | error errno => exact .unreadable hread
      | ok content =>
        cases hparse : parse (Utf8.decode content) (Path.resolve cwd path) cwd with
        | error e => exact .rejected hread hparse
        | ok config =>
          rw [hread] at hload
          simp only [hparse] at hload
          cases hload

/-- What keeps a configuration from loading can be told. -/
theorem load_of_unusable (h : Unusable w.files w.directory path cwd) :
    ∃ e info, load path cwd w = (.error e, w) ∧ e.describe = .ok info := by
  obtain ⟨e, hload⟩ := unusable_iff.1 h
  have he := (built_load path cwd : Built .none _).reports w e w hload
  obtain ⟨info, hinfo⟩ := Thrown.describe_ok_iff.2 he
  exact ⟨e, info, hload, hinfo⟩

end Config

/-! ## The programs -/

theorem CommandLine.program_eq_of_error {launch : Launcher} {o : CliOptions} {cwd : Text}
    {w w' : World} {e : Thrown} {info : ErrorInfo}
    (h : guarded launch o cwd (start w) = (.error e, w')) (hinfo : e.describe = .ok info) :
    program launch o cwd w
      = (.ok ⟨1, (logger o).render (w'.log ++ [.message .error info.message])⟩, w') := by
  rw [start] at h
  simp only [program, h, hinfo]
  rfl

theorem Workflow.program_eq_of_error {launch : Launcher} {given : Variables} {cwd : Text}
    {w w' : World} {e : Thrown} {info : ErrorInfo}
    (h : guarded launch given cwd (start given w) = (.error e, w'))
    (hinfo : e.describe = .ok info) :
    program launch given cwd w
      = (.ok ⟨1, Logger.workflow.render (w'.log ++ [.message .error info.message])⟩,
        { w' with environment := w.environment }) := by
  rw [start] at h
  simp only [program, h, hinfo]
  rfl

/-- Nothing happens before everything is valid.  The command line with a configuration that cannot
be used, and the workflow with such a configuration or with an input that is invalid, end with 1 and
a message for it.  The message is all that is written, the log has no output, and the world is the
one before the program but for its log: no file or directory is changed, the job summary included.
The end does not depend on the launcher, so no command is run. -/
theorem nothing_before_validation (cwd : Text) (w : World) :
    (∀ o : CliOptions, Config.Unusable w.files w.directory o.config cwd →
      ∃ message, ∀ launch : Launcher, CommandLine.program launch o cwd w
        = (.ok ⟨1, (CommandLine.logger o).render [.message .error message]⟩, { w with log := [] }))
    ∧ ∀ given : Workflow.Variables,
      given.Invalid ∨ Config.Unusable w.files w.directory (Workflow.configPath given) cwd →
      ∃ message, ∀ launch : Launcher, Workflow.program launch given cwd w
        = (.ok ⟨1, Logger.workflow.render [.message .error message]⟩, { w with log := [] }) := by
  constructor
  · intro o h
    obtain ⟨e, info, hload, hinfo⟩ :=
      Config.load_of_unusable (w := CommandLine.start w) h
    exact ⟨info.message, fun launch => CommandLine.program_eq_of_error (bind_of_error hload) hinfo⟩
  · intro given h
    rcases Workflow.read_cases given with ⟨e, hread, -⟩ | ⟨inputs, hread, hvalid, hpath⟩
    · have hrefused : ofGuard (Workflow.Inputs.read given) (Workflow.start given w)
          = (.error (.guard e), Workflow.start given w) := by rw [hread]; rfl
      exact ⟨e.message, fun launch =>
        Workflow.program_eq_of_error (bind_of_error hrefused) rfl⟩
    · obtain ⟨e, info, hload, hinfo⟩ :=
        Config.load_of_unusable (w := Workflow.start given w) (h.resolve_left hvalid)
      have haccepted : ofGuard (Workflow.Inputs.read given) (Workflow.start given w)
          = (.ok inputs, Workflow.start given w) := by rw [hread]; rfl
      rw [← hpath] at hload
      exact ⟨info.message, fun launch =>
        Workflow.program_eq_of_error ((bind_of_ok haccepted).trans (bind_of_error hload)) hinfo⟩

/-- A configuration without targets, and a workflow that asks for an unknown mode beside it. -/
theorem nothing_before_validation_of_rejected :
    let content := Utf8.encode "\x7b\"targets\":[]\x7d"
    let w : World := .quiet
      ⟨.directory ⟨0, 0o755, 0⟩ [(".apiguard.json", .file ⟨1, 0o644, 0⟩ content)], 2⟩
    let given : Workflow.Variables := [("INPUT_MODE", "Strict")]
    (∃ exit, exit.code = 1 ∧ ∀ launch, CommandLine.program launch {} "/" w = (.ok exit, w))
      ∧ ∃ exit, exit.code = 1 ∧ ∀ launch, Workflow.program launch given "/" w = (.ok exit, w) := by
  intro content w given
  have hunusable : Config.Unusable w.files w.directory ".apiguard.json" "/" := by
    have hread : w.files.readFile w.directory (Utf8.encode (Path.resolve "/" ".apiguard.json"))
        = .ok content := by decide +kernel
    have hrejected : (Config.parse (Utf8.decode content) (Path.resolve "/" ".apiguard.json")
        "/").toOption = none := by decide +kernel
    cases hparse : Config.parse (Utf8.decode content) (Path.resolve "/" ".apiguard.json") "/" with
    | error e => exact .rejected hread hparse
    | ok config =>
      rw [hparse] at hrejected
      cases hrejected
  have hinvalid : given.Invalid := .mode (by decide)
  obtain ⟨hcommandLine, hworkflow⟩ := nothing_before_validation "/" w
  obtain ⟨message, hend⟩ := hcommandLine {} hunusable
  obtain ⟨message', hend'⟩ := hworkflow given (.inl hinvalid)
  exact ⟨⟨_, rfl, hend⟩, _, rfl, hend'⟩

end SurfaceGuard
