import SurfaceGuard.Proofs.CommandLine.Spelling
import SurfaceGuard.Proofs.Json.Members

/-!
# What a command line says

A command line spells settings; of those with one name the last one counts.  `Spells` says which
options that gives: all that is set last, and the defaults otherwise.  The options are read from a
record (`Records`), which every setting changes as it changes the options, so the record always has
the shape of options.

The main result is `parse_eq_spelled`: a command line is read as exactly the options that it spells,
whatever the order of its groups, and all others are stopped.
-/

namespace SurfaceGuard.CommandLine

/-! ## Options by their settings -/

namespace Setting

/-- What is set; the two options about additions set the same. -/
def name : Setting → Text
  | config _ => "config"
  | update => "update"
  | mode _ => "mode"
  | failOnAdditions _ => "failOnAdditions"
  | reportDir _ => "reportDir"
  | verbose => "verbose"
  | quiet => "quiet"

/-- The options have what the setting says. -/
def Holds (o : CliOptions) : Setting → Prop
  | config path => o.config = path
  | update => o.update = true
  | mode m => o.mode = some m
  | failOnAdditions b => o.failOnAdditions = some b
  | reportDir dir => o.reportDir = some dir
  | verbose => o.verbose = true
  | quiet => o.quiet = true

/-- The options with what the setting says. -/
def apply (o : CliOptions) : Setting → CliOptions
  | config path => { o with config := path }
  | update => { o with update := true }
  | mode m => { o with mode := some m }
  | failOnAdditions b => { o with failOnAdditions := some b }
  | reportDir dir => { o with reportDir := some dir }
  | verbose => { o with verbose := true }
  | quiet => { o with quiet := true }

/-- The setting is the last one of its name in the list. -/
def LastIn (ss : List Setting) (s : Setting) : Prop :=
  ∃ before after, ss = before ++ s :: after ∧ ∀ s' ∈ after, s'.name ≠ s.name

variable {o : CliOptions} {s t : Setting} {ss : List Setting}

theorem holds_apply (o : CliOptions) (s : Setting) : s.Holds (s.apply o) := by cases s <;> rfl

/-- A setting leaves what has another name. -/
theorem holds_apply_iff (h : t.name ≠ s.name) : t.Holds (s.apply o) ↔ t.Holds o := by
  cases s <;> cases t <;> first | exact Iff.rfl | exact absurd rfl h

/-- Options have one value for each name. -/
theorem Holds.unique (hs : s.Holds o) (ht : t.Holds o) (hname : t.name = s.name) : t = s := by
  cases s <;> cases t
  case config.config => exact congrArg config (ht.symm.trans hs)
  case mode.mode => exact congrArg mode (Option.some.inj (ht.symm.trans hs))
  case failOnAdditions.failOnAdditions =>
    exact congrArg failOnAdditions (Option.some.inj (ht.symm.trans hs))
  case reportDir.reportDir => exact congrArg reportDir (Option.some.inj (ht.symm.trans hs))
  all_goals first | rfl | exact absurd hname (by simp only [name]; decide)

theorem lastIn_append_iff :
    t.LastIn (ss ++ [s]) ↔ t = s ∨ t.name ≠ s.name ∧ t.LastIn ss := by
  constructor
  · rintro ⟨before, after, heq, hafter⟩
    rcases List.eq_nil_or_concat after with rfl | ⟨after, s', rfl⟩
    · exact .inl (List.singleton_inj.1 (List.append_inj' heq rfl).2).symm
    · have hparts : ss ++ [s] = (before ++ t :: after) ++ [s'] := by simpa using heq
      obtain ⟨rfl, hlast⟩ := List.append_inj' hparts rfl
      obtain rfl := List.singleton_inj.1 hlast
      refine .inr ⟨(hafter s (by simp)).symm, before, after, rfl, fun u hu => ?_⟩
      exact hafter u (by simp [hu])
  · rintro (rfl | ⟨hne, before, after, rfl, hafter⟩)
    · exact ⟨ss, [], rfl, by simp⟩
    · refine ⟨before, after ++ [s], by simp, fun s' hs' => ?_⟩
      rcases List.mem_append.1 hs' with h | h
      · exact hafter s' h
      · rw [List.mem_singleton.1 h]
        exact hne.symm

end Setting

/-! ## What is spelled -/

open Setting

/-- The settings spell the options: what is set last is so, and all else is as without settings. -/
structure Spells (ss : List Setting) (o : CliOptions) : Prop where
  holds : ∀ s : Setting, s.LastIn ss → s.Holds o
  complete : ∀ s : Setting, s.Holds o → s.LastIn ss ∨ s.Holds {}

namespace Spells

variable {o o' : CliOptions} {ss : List Setting}

theorem nil : Spells [] {} where
  holds := by
    rintro s ⟨before, after, h, -⟩
    simp at h
  complete := fun _ h => .inr h

/-- One more setting. -/
theorem append (h : Spells ss o) (s : Setting) : Spells (ss ++ [s]) (s.apply o) where
  holds := by
    intro t ht
    rcases lastIn_append_iff.1 ht with rfl | ⟨hne, ht⟩
    · exact holds_apply o t
    · exact (holds_apply_iff hne).2 (h.holds t ht)
  complete := by
    intro t ht
    by_cases hname : t.name = s.name
    · exact .inl (lastIn_append_iff.2 (.inl ((holds_apply o s).unique ht hname)))
    · refine (h.complete t ((holds_apply_iff hname).1 ht)).imp_left fun hlast => ?_
      exact lastIn_append_iff.2 (.inr ⟨hname, hlast⟩)

/-- Settings made one after the other. -/
theorem foldl (ss : List Setting) : Spells ss (ss.foldl apply {}) := by
  induction ss using List.reverseRecOn with
  | nil => exact nil
  | append_singleton ss s ih =>
    rw [List.foldl_append]
    exact ih.append s

/-- What is not the default is spelled, so options that are spelled alike have it too. -/
theorem holds_iff (h : Spells ss o) (h' : Spells ss o') {s : Setting} (hs : ¬s.Holds {}) :
    s.Holds o ↔ s.Holds o' :=
  ⟨fun ho => h'.holds s ((h.complete s ho).resolve_right hs),
    fun ho => h.holds s ((h'.complete s ho).resolve_right hs)⟩

/-- Settings spell one value of all options. -/
theorem unique (h : Spells ss o) (h' : Spells ss o') : o = o' := by
  have hconfig : o.config = o'.config := by
    rcases h.complete (config o.config) rfl with hlast | hdefault
    · exact (h'.holds _ hlast).symm
    · rcases h'.complete (config o'.config) rfl with hlast | hdefault'
      · exact h.holds _ hlast
      · exact hdefault.symm.trans hdefault'
  have hupdate : o.update = o'.update :=
    Bool.eq_iff_iff.2 (h.holds_iff h' (s := update) (by simp [Holds]))
  have hmode : o.mode = o'.mode :=
    Option.ext fun m => h.holds_iff h' (s := mode m) (by simp [Holds])
  have hadditions : o.failOnAdditions = o'.failOnAdditions :=
    Option.ext fun b => h.holds_iff h' (s := failOnAdditions b) (by simp [Holds])
  have hdir : o.reportDir = o'.reportDir :=
    Option.ext fun dir => h.holds_iff h' (s := reportDir dir) (by simp [Holds])
  have hverbose : o.verbose = o'.verbose :=
    Bool.eq_iff_iff.2 (h.holds_iff h' (s := verbose) (by simp [Holds]))
  have hquiet : o.quiet = o'.quiet :=
    Bool.eq_iff_iff.2 (h.holds_iff h' (s := quiet) (by simp [Holds]))
  cases o
  cases o'
  simp_all

end Spells

/-! ## The record -/

/-- The record has the values of the options, by their names. -/
structure Records (values : Values) (o : CliOptions) : Prop where
  config : Members.get? "config" values = some (.string o.config)
  update : Members.get? "update" values = some (.boolean o.update)
  mode : Members.get? "mode" values = o.mode.map fun m => .string m.name
  failOnAdditions : Members.get? "failOnAdditions" values = o.failOnAdditions.map .boolean
  reportDir : Members.get? "reportDir" values = o.reportDir.map .string
  verbose : Members.get? "verbose" values = some (.boolean o.verbose)
  quiet : Members.get? "quiet" values = some (.boolean o.quiet)

theorem flag_name (s : Setting) : s.flag.name = s.name := by
  cases s with
  | failOnAdditions b => cases b <;> rfl
  | _ => rfl

namespace Records

variable {values : Values} {o : CliOptions}

theorem defaults : Records defaults {} := by constructor <;> rfl

/-- A setting changes the record as it changes the options. -/
theorem put (h : Records values o) (s : Setting) : Records (s.put values) (s.apply o) := by
  have hget : ∀ name, Members.get? name (s.put values)
      = if s.name = name then some s.value else Members.get? name values := by
    intro name
    rw [Setting.put, Members.get?_insert, flag_name]
  cases s <;> constructor <;>
    simp +decide [hget, Setting.name, value, apply, h.config, h.update, h.mode, h.failOnAdditions,
      h.reportDir, h.verbose, h.quiet]

theorem record (h : Records values o) (ss : List Setting) :
    Records (record values ss) (ss.foldl apply o) := by
  induction ss generalizing values o with
  | nil => exact h
  | cons s ss ih => exact ih (h.put s)

/-- The options are read from the record. -/
theorem shape (h : Records values o) : CliOptions.shape (some (.object values)) = .valid o := by
  have hmode : (Shape.word Mode.words).optional (o.mode.map fun m => .string m.name)
      = .valid o.mode := by
    rcases o.mode with _ | m
    · rfl
    · cases m <;> rfl
  have hadditions : Shape.flag.optional (o.failOnAdditions.map .boolean)
      = .valid o.failOnAdditions := by
    cases o.failOnAdditions <;> rfl
  have hdir : Shape.text.optional (o.reportDir.map .string) = .valid o.reportDir := by
    cases o.reportDir <;> rfl
  simp only [CliOptions.shape, Shape.object, Shape.field, h.config, h.update, h.mode,
    h.failOnAdditions, h.reportDir, h.verbose, h.quiet, hmode, hadditions, hdir]
  rfl

end Records

/-! ## Command lines and options -/

/-- A command line that is not stopped spells settings, and gives the options with them. -/
theorem parse_eq_ok_iff {args : List Text} {checked : Checked CliOptions} :
    parse args = .ok checked ↔ ∃ ss, Spelling args ss ∧ checked = .valid (ss.foldl apply {}) := by
  have hshape : ∀ ss, CliOptions.shape (some (.object (record defaults ss)))
      = .valid (ss.foldl apply {}) :=
    fun ss => (Records.defaults.record ss).shape
  constructor
  · intro h
    cases hread : read args with
    | error stop =>
      rw [parse, hread] at h
      cases h
    | ok values =>
      obtain ⟨ss, hss, rfl⟩ := read_eq_ok_iff.1 hread
      rw [parse, hread] at h
      exact ⟨ss, hss, (Except.ok.inj h).symm.trans (hshape ss)⟩
  · rintro ⟨ss, hss, rfl⟩
    rw [parse, read_eq_ok_iff.2 ⟨ss, hss, rfl⟩]
    exact congrArg Except.ok (hshape ss)

/-- All settings are spelled by some command line. -/
theorem exists_spelling (ss : List Setting) : ∃ args, Spelling args ss := by
  induction ss with
  | nil => exact ⟨[], .nil⟩
  | cons s ss ih =>
    obtain ⟨args, h⟩ := ih
    cases hvalue : s.flag.takesValue with
    | true => exact ⟨_, .separate s (.inr rfl) hvalue h⟩
    | false => exact ⟨_, .switch s (.inr rfl) hvalue h⟩

/-- The settings of options, one for each that is there. -/
def settings (o : CliOptions) : List Setting :=
  config o.config :: (if o.update then [update] else []) ++ (o.mode.map mode).toList
    ++ (o.failOnAdditions.map failOnAdditions).toList ++ (o.reportDir.map reportDir).toList
    ++ (if o.verbose then [verbose] else []) ++ (if o.quiet then [quiet] else [])

theorem foldl_settings (o : CliOptions) : (settings o).foldl apply {} = o := by
  obtain ⟨path, updating, mode?, additions?, dir?, talkative, silent⟩ := o
  cases updating <;> cases mode? <;> cases additions? <;> cases dir? <;> cases talkative <;>
    cases silent <;> rfl

/-- Some command line gives the options, whatever they are. -/
theorem exists_parse (o : CliOptions) : ∃ args, parse args = .ok (.valid o) := by
  obtain ⟨args, h⟩ := exists_spelling (settings o)
  exact ⟨args, parse_eq_ok_iff.2 ⟨settings o, h, congrArg Checked.valid (foldl_settings o).symm⟩⟩

/-- A command line is read as exactly the options that it spells: its groups may stand in any order,
with operands between them, and a group has no effect if one with the same name comes after it.
Every other command line is stopped, and none is refused by the shape of options. -/
theorem parse_eq_spelled :
    (∀ (args : List Text) (o : CliOptions), parse args = .ok (.valid o)
      ↔ ∃ ss, Spelling args ss ∧ Spells ss o)
    ∧ ∀ args, (∃ stop, parse args = .error stop) ∨ ∃ o, parse args = .ok (.valid o) := by
  refine ⟨fun args o => ⟨fun h => ?_, ?_⟩, fun args => ?_⟩
  · obtain ⟨ss, hss, heq⟩ := parse_eq_ok_iff.1 h
    cases heq
    exact ⟨ss, hss, .foldl ss⟩
  · rintro ⟨ss, hss, ho⟩
    obtain rfl := ho.unique (.foldl ss)
    exact parse_eq_ok_iff.2 ⟨ss, hss, rfl⟩
  · cases h : parse args with
    | error stop => exact .inl ⟨stop, rfl⟩
    | ok checked =>
      obtain ⟨ss, -, rfl⟩ := parse_eq_ok_iff.1 h
      exact .inr ⟨_, rfl⟩

/-- The argument of an option is the next one even where that looks like an option, and of the two
options about additions the last one counts. -/
example : parse ["-c", "--update", "--fail-on-additions", "extra", "--no-fail-on-additions"]
    = .ok (.valid { config := "--update", failOnAdditions := some false }) := by
  cbv

end SurfaceGuard.CommandLine
