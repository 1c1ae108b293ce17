import SurfaceGuard.Proofs.Program.Parts
import SurfaceGuard.Proofs.Report.Stored

/-!
# What a step publishes

A step publishes a run in three places: the report files, the outputs, and the job summary.

Outputs are handed over exactly if the host takes each of them (`Workflow.setOutputs_eq_ok_iff`):
as a command if no file is named for them, and else as a block at the end of that file, which has to
be there.  What is written on the way is one addition for each block (`Workflow.Hands.wrote`); a
command writes nothing.  The job summary takes a text exactly if there is a path for it and the file
can be read and written (`Workflow.appendSummary_eq_ok_iff`).
-/

open SurfaceGuard.Task

namespace SurfaceGuard

theorem Text.includes_iff {part t : Text} : includes part t = true ↔ part <:+: t := by
  induction t with
  | nil => rw [includes, List.isEmpty_iff, List.infix_nil]
  | cons u rest ih =>
    rw [includes, Bool.or_eq_true, ih, startsWith, List.isPrefixOf_iff_prefix, List.infix_cons_iff]

namespace Workflow

variable {launch : Launcher} {given : Variables} {o : Output} {os : List Output} {w w' : World}

/-! ## Outputs -/

/-- Where the file for outputs is. -/
def outputPlace (given : Variables) (base : Place) : Location :=
  FileTree.destination base (Utf8.encode (outputPath given))

/-- The output as a command. -/
def Output.entry (o : Output) : Entry := .output o.name o.value

/-- The outputs are handed over, one after the other, and these are the writes for it.  A command is
recorded; a block goes to the end of the file for outputs, which is there, with a delimiter from
random bytes that occurs neither in the name nor in the value. -/
inductive Hands (given : Variables) : List Output → World → List Write → World → Prop
  | done (w : World) : Hands given [] w [] w
  | command {o : Output} {os : List Output} {w w' : World} {writes : List Write}
      (hpath : outputPath given = []) (hrest : Hands given os (w.logged [o.entry]) writes w') :
      Hands given (o :: os) w writes w'
  | block {o : Output} {os : List Output} {w u v w' : World} {bytes : Bytes} {writes : List Write}
      (hpath : outputPath given ≠ []) (hbytes : randomBytes 16 w = (.ok bytes, u))
      (hname : ¬delimiter bytes <:+: o.name) (hvalue : ¬delimiter bytes <:+: o.value)
      (hthere : pathExists (outputPath given) u = (.ok true, u))
      (hwrite : appendBytes (outputPath given) (Utf8.encode (o.block (delimiter bytes))) u
        = (.ok (), v)) (hrest : Hands given os v writes w') :
      Hands given (o :: os) w
        (.add (outputPlace given w.directory) (Utf8.encode (o.block (delimiter bytes))) :: writes)
        w'

theorem setOutput_of_none (h : outputPath given = []) (o : Output) (w : World) :
    setOutput given o w = (.ok (), w.logged [o.entry]) := by
  rw [setOutput, h]
  rfl

theorem setOutput_of_file (h : outputPath given ≠ []) (o : Output) :
    setOutput given o = appendBlock (outputPath given) o := by
  rw [setOutput]
  split
  · next hnone => exact absurd hnone h
  · rfl

theorem appendBlock_eq_ok_iff {path : Text} : appendBlock path o w = (.ok (), w') ↔
    ∃ bytes u, randomBytes 16 w = (.ok bytes, u)
      ∧ ¬delimiter bytes <:+: o.name ∧ ¬delimiter bytes <:+: o.value
      ∧ pathExists path u = (.ok true, u)
      ∧ appendBytes path (Utf8.encode (o.block (delimiter bytes))) u = (.ok (), w') := by
  constructor
  · intro h
    obtain ⟨bytes, u, hbytes, h⟩ := bind_eq_ok_iff.1 h
    split at h
    · cases h
    next hname =>
    split at h
    · cases h
    next hvalue =>
    obtain ⟨isThere, u', hthere, h⟩ := bind_eq_ok_iff.1 h
    obtain rfl : u = u' := congrArg Prod.snd hthere
    rw [Text.includes_iff] at hname hvalue
    cases isThere with
    | true => exact ⟨bytes, u, hbytes, hname, hvalue, hthere, h⟩
    | false => cases h
  · rintro ⟨bytes, u, hbytes, hname, hvalue, hthere, hwrite⟩
    rw [← Text.includes_iff] at hname hvalue
    refine bind_eq_ok_iff.2 ⟨bytes, u, hbytes, ?_⟩
    rw [if_neg hname, if_neg hvalue]
    exact bind_eq_ok_iff.2 ⟨true, u, hthere, hwrite⟩

/-- Outputs are handed over exactly if the host takes each of them. -/
theorem setOutputs_eq_ok_iff :
    setOutputs given os w = (.ok (), w') ↔ ∃ writes, Hands given os w writes w' := by
  induction os generalizing w with
  | nil =>
    constructor
    · intro h
      cases h
      exact ⟨[], .done _⟩
    · rintro ⟨writes, h⟩
      cases h
      rfl
  | cons o os ih =>
    rw [setOutputs, bind_eq_ok_iff]
    constructor
    · rintro ⟨_, u, hfirst, hrest⟩
      obtain ⟨writes, hrest⟩ := ih.1 hrest
      by_cases hpath : outputPath given = []
      · rw [setOutput_of_none hpath, Prod.mk.injEq] at hfirst
        obtain ⟨-, rfl⟩ := hfirst
        exact ⟨writes, .command hpath hrest⟩
      · rw [setOutput_of_file hpath] at hfirst
        obtain ⟨bytes, v, hbytes, hname, hvalue, hthere, hwrite⟩ := appendBlock_eq_ok_iff.1 hfirst
        exact ⟨_, .block hpath hbytes hname hvalue hthere hwrite hrest⟩
    · rintro ⟨writes, h⟩
      cases h with
      | command hpath hrest => exact ⟨(), _, setOutput_of_none hpath o w, ih.2 ⟨writes, hrest⟩⟩
      | block hpath hbytes hname hvalue hthere hwrite hrest =>
        refine ⟨(), _, ?_, ih.2 ⟨_, hrest⟩⟩
        rw [setOutput_of_file hpath]
        exact appendBlock_eq_ok_iff.2 ⟨_, _, hbytes, hname, hvalue, hthere, hwrite⟩

/-- Random bytes are drawn by the process that asks for them, and the files stay as they are. -/
theorem randomBytes_eq {count : Nat} {bytes : Bytes} (h : randomBytes count w = (.ok bytes, w')) :
    w'.files = w.files ∧ w'.directory = w.directory := by
  cases h
  exact ⟨rfl, rfl⟩

theorem reports_setOutputs (given : Variables) (os : List Output) :
    Reports (setOutputs given os) := by
  have hone : ∀ o, Reports (setOutput given o) := by
    intro o
    by_cases hpath : outputPath given = []
    · intro w e w' h
      rw [setOutput_of_none hpath] at h
      cases h
    · rw [setOutput_of_file hpath]
      exact (built_appendBlock _ o : Built .none _).reports
  induction os with
  | nil => exact reports_pure ()
  | cons o os ih => exact (hone o).bind fun _ => ih

/-- Outputs are handed over in the same way in worlds that remain related. -/
theorem mirrors_setOutputs {R : World → World → Prop} (hR : IsKept launch R) (given : Variables)
    (os : List Output) : Mirrors R (setOutputs given os) := by
  have hone : ∀ o, Mirrors R (setOutput given o) := by
    intro o
    by_cases hpath : outputPath given = []
    · intro w w' hw
      rw [setOutput_of_none hpath, setOutput_of_none hpath]
      exact ⟨rfl, hR.logged hw [o.entry]⟩
    · rw [setOutput_of_file hpath]
      exact (built_appendBlock _ o).mirrors hR
  induction os with
  | nil => exact fun _ _ hw => ⟨rfl, hw⟩
  | cons o os ih => exact (hone o).bind fun _ => ih

namespace Hands

variable {writes : List Write}

/-- What is handed over is written, and nothing else is. -/
theorem wrote (h : Hands given os w writes w') :
    w.files.Wrote writes w'.files ∧ w'.directory = w.directory := by
  induction h with
  | done w => exact ⟨.refl w.files, rfl⟩
  | command _ _ ih => exact ih
  | @block o os w u v w' bytes writes _ hbytes _ _ _ hwrite _ ih =>
    obtain ⟨hfiles, hdirectory⟩ := randomBytes_eq hbytes
    obtain ⟨hblock, hstays⟩ := wrote_appendBytes hwrite
    rw [hfiles, hdirectory] at hblock
    exact ⟨hblock.trans ih.1, ih.2.trans (hstays.directory.trans hdirectory)⟩

/-- Beside the file for outputs nothing is changed. -/
theorem face? (h : Hands given os w writes w') {loc : Location}
    (hloc : loc ≠ outputPlace given w.directory) : w'.files.face? loc = w.files.face? loc := by
  induction h with
  | done => rfl
  | command _ _ ih => exact ih hloc
  | @block o os w u v w' bytes writes _ hbytes _ _ _ hwrite _ ih =>
    obtain ⟨hfiles, hdirectory⟩ := randomBytes_eq hbytes
    have hblock := face?_appendBytes hwrite (by rwa [hdirectory])
    obtain ⟨-, hstays⟩ := wrote_appendBytes hwrite
    rw [ih (by rwa [hstays.directory, hdirectory]), hblock, hfiles]

/-- An output in the log was there before, or is one of those that are handed over. -/
theorem mem_log (h : Hands given os w writes w') {e : Entry} (he : e.isOutput = true)
    (hmem : e ∈ w'.log) : e ∈ w.log ∨ ∃ o ∈ os, o.entry = e := by
  induction h with
  | done w => exact Or.inl hmem
  | @command o os w w' writes _ _ ih =>
    rcases ih hmem with hbefore | ⟨o', ho', hentry⟩
    · rcases List.mem_append.1 hbefore with hold | hnew
      · exact Or.inl hold
      · exact Or.inr ⟨o, List.mem_cons_self, (List.mem_singleton.1 hnew).symm⟩
    · exact Or.inr ⟨o', List.mem_cons_of_mem o ho', hentry⟩
  | @block o os w u v w' bytes writes _ hbytes _ _ _ hwrite _ ih =>
    have hdrawn := (Built.draw 16 : Built .none _).continues Launcher.isConfined_none w
    have hadded := (built_appendBytes (outputPath given)
      (Utf8.encode (o.block (delimiter bytes))) : Built .none _).continues
        Launcher.isConfined_none u
    rw [hbytes] at hdrawn
    rw [hwrite] at hadded
    rcases ih hmem with hbefore | ⟨o', ho', hentry⟩
    · exact Or.inl ((hdrawn.mem_log_iff he).1 ((hadded.mem_log_iff he).1 hbefore))
    · exact Or.inr ⟨o', List.mem_cons_of_mem o ho', hentry⟩

/-- A handover can be taken apart where one of the outputs ends. -/
theorem append_inv {os' : List Output} (h : Hands given (os ++ os') w writes w') :
    ∃ before after u, writes = before ++ after ∧ Hands given os w before u
      ∧ Hands given os' u after w' := by
  induction os generalizing w writes with
  | nil => exact ⟨[], writes, w, rfl, .done w, h⟩
  | cons o os ih =>
    cases h with
    | command hpath hrest =>
      obtain ⟨before, after, u, rfl, hbefore, hafter⟩ := ih hrest
      exact ⟨before, after, u, rfl, .command hpath hbefore, hafter⟩
    | block hpath hbytes hname hvalue hthere hwrite hrest =>
      obtain ⟨before, after, u, rfl, hbefore, hafter⟩ := ih hrest
      exact ⟨_ :: before, after, u, rfl,
        .block hpath hbytes hname hvalue hthere hwrite hbefore, hafter⟩

end Hands

/-! ## The job summary -/

/-- The path of the job summary, empty if there is none. -/
def summaryPath (given : Variables) : Text := (Members.get? summaryName given).getD []

/-- Where the job summary is. -/
def summaryPlace (given : Variables) (base : Place) : Location :=
  FileTree.destination base (Utf8.encode (summaryPath given))

/-- The job summary takes a text exactly if there is one that can be read and written. -/
theorem appendSummary_eq_ok_iff {text : Text} : appendSummary given text w = (.ok (), w') ↔
    summaryPath given ≠ [] ∧ isAccessible (summaryPath given) w = (.ok true, w)
      ∧ appendBytes (summaryPath given) (Utf8.encode text) w = (.ok (), w') := by
  rw [appendSummary, ← summaryPath]
  cases hpath : summaryPath given with
  | nil => simp [Task.fail]
  | cons u rest =>
    simp only [bind_eq_ok_iff, isAccessible, look, Prod.mk.injEq, Except.ok.injEq, ne_eq,
      reduceCtorEq, not_false_eq_true, true_and, and_true]
    constructor
    · rintro ⟨isAccessible, _, ⟨haccess, rfl⟩, hwrite⟩
      cases isAccessible with
      | true => exact ⟨haccess, hwrite⟩
      | false => cases hwrite
    · rintro ⟨haccess, hwrite⟩
      exact ⟨true, w, ⟨haccess, rfl⟩, hwrite⟩

/-- Outputs and a text for the job summary are written to their two files, and nowhere else. -/
theorem Hands.face?_appendSummary {writes : List Write} {u : World} {content : Bytes}
    (h : Hands given os w writes u) (happend : appendBytes (summaryPath given) content u = (.ok (), w'))
    {loc : Location} (houtputs : loc ≠ outputPlace given w.directory)
    (hsummary : loc ≠ summaryPlace given w.directory) : w'.files.face? loc = w.files.face? loc := by
  have hadded := face?_appendBytes happend (by rw [h.wrote.2]; exact hsummary)
  exact hadded.trans (h.face? houtputs)

/-! ## All three -/

variable {config : Config} {run : RunResult} {writes : List Write}

/-- What came out of a run whose reports are stored, made known. -/
def announce (given : Variables) (run : RunResult) (saved : Report.Saved) : Task RunResult := do
  setOutputs given (outputs run saved)
  appendSummary given (Report.markdown run)
  Task.say .info (Report.plain run)
  return run

/-- What came out of a run, stored and made known. -/
def publish (given : Variables) (config : Config) (run : RunResult) : Task RunResult := do
  let saved ← Report.save run (Report.markdown run) config.outputDir
  announce given run saved

/-- A run is published, and these are the writes for it: its reports are written, its outputs are
handed over, its Markdown report is added to the job summary, and its plain report is recorded. -/
structure Publishes (given : Variables) (config : Config) (run : RunResult) (w : World)
    (writes : List Write) (w' : World) : Prop where
  steps : ∃ text u handed v v', Report.Written run text config.outputDir w u
    ∧ Hands given (outputs run (Report.placed config.outputDir)) u handed v
    ∧ summaryPath given ≠ [] ∧ isAccessible (summaryPath given) v = (.ok true, v)
    ∧ appendBytes (summaryPath given) (Utf8.encode (Report.markdown run)) v = (.ok (), v')
    ∧ w' = v'.logged [.message .info (Report.plain run)]
    ∧ writes = Report.writes run text config.outputDir w.directory ++ handed
      ++ [.add (summaryPlace given w.directory) (Utf8.encode (Report.markdown run))]

/-- A run is published exactly if the host takes all that is written. -/
theorem publish_eq_ok_iff {r : RunResult} : publish given config run w = (.ok r, w') ↔
    r = run ∧ ∃ writes, Publishes given config run w writes w' := by
  simp only [publish, announce, bind_eq_ok_iff]
  constructor
  · rintro ⟨saved, u, hsave, _, v, hhands, _, v', hsummary, _, _, hsay, hpure⟩
    obtain ⟨rfl, text, hwritten⟩ := Report.save_eq_ok_iff.1 hsave
    obtain ⟨handed, hhands⟩ := setOutputs_eq_ok_iff.1 hhands
    obtain ⟨hpath, haccess, happend⟩ := appendSummary_eq_ok_iff.1 hsummary
    cases hsay
    cases hpure
    exact ⟨rfl, _, ⟨text, u, handed, v, v', hwritten, hhands, hpath, haccess, happend, rfl, rfl⟩⟩
  · rintro ⟨rfl, writes, ⟨text, u, handed, v, v', hwritten, hhands, hpath, haccess, happend, rfl,
      rfl⟩⟩
    exact ⟨_, u, Report.save_eq_ok_iff.2 ⟨rfl, text, hwritten⟩, (), v,
      setOutputs_eq_ok_iff.2 ⟨handed, hhands⟩, (), v',
      appendSummary_eq_ok_iff.2 ⟨hpath, haccess, happend⟩, (), _, rfl, rfl⟩

theorem reports_announce (given : Variables) (run : RunResult) (saved : Report.Saved) :
    Reports (announce given run saved) :=
  (reports_setOutputs given (outputs run saved)).bind fun _ =>
    (built_appendSummary given _ : Built .none _).reports.bind fun _ =>
      (built_say .info _ : Built .none _).reports.bind fun _ => reports_pure run

/-- What is made known of a run is the same in worlds that remain related. -/
theorem mirrors_announce {R : World → World → Prop} (hR : IsKept launch R)
    (given : Variables) (run : RunResult) (saved : Report.Saved) :
    Mirrors R (announce given run saved) :=
  (mirrors_setOutputs hR given _).bind fun _ =>
    ((built_appendSummary given _).mirrors hR).bind fun _ =>
      ((built_say .info _).mirrors hR).bind fun _ => fun _ _ hw => ⟨rfl, hw⟩

/-- What keeps a run from being published can be told. -/
theorem reports_publish (given : Variables) (config : Config) (run : RunResult) :
    Reports (publish given config run) :=
  (Report.built_save run _ config.outputDir : Built .none _).reports.bind fun saved =>
    reports_announce given run saved

namespace Publishes

/-- What is published is written, and nothing else is. -/
theorem wrote (h : Publishes given config run w writes w') : w.files.Wrote writes w'.files := by
  obtain ⟨text, u, handed, v, v', hwritten, hhands, -, -, happend, rfl, rfl⟩ := h.steps
  obtain ⟨hreports, hdirectory⟩ := hwritten.wrote
  obtain ⟨houtputs, hdirectory'⟩ := hhands.wrote
  obtain ⟨hsummary, -⟩ := wrote_appendBytes happend
  rw [hdirectory', hdirectory] at hsummary
  exact (hreports.trans houtputs).trans hsummary

/-- The job summary ends with the Markdown report. -/
theorem ends_summary (h : Publishes given config run w writes w') :
    w'.files.Ends (summaryPlace given w.directory) (Utf8.encode (Report.markdown run)) := by
  have hwrote := h.wrote
  obtain ⟨text, u, handed, v, v', -, -, -, -, -, -, rfl⟩ := h.steps
  exact hwrote.ends

/-- Both reports are stored, unless one of their files is the file for outputs or the job summary
as well. -/
theorem areStored (h : Publishes given config run w writes w')
    (hplaces : ∀ loc ∈ Report.places config.outputDir w.directory,
      loc ≠ outputPlace given w.directory ∧ loc ≠ summaryPlace given w.directory) :
    Report.AreStored run config.outputDir w.directory w'.files := by
  obtain ⟨text, u, handed, v, v', hwritten, hhands, -, -, happend, rfl, -⟩ := h.steps
  refine hwritten.areStored.of_face? fun loc hloc => ?_
  obtain ⟨houtputs, hsummary⟩ := hplaces loc hloc
  rw [← hwritten.wrote.2] at houtputs hsummary
  exact hhands.face?_appendSummary happend houtputs hsummary

end Publishes

end Workflow

end SurfaceGuard
