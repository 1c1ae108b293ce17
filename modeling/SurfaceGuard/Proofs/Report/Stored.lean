import SurfaceGuard.Proofs.Baseline.Location
import SurfaceGuard.Proofs.Host.Writes
import SurfaceGuard.Report.Store

/-!
# Where reports are

The reports of a run are two files in a directory of their own below the output directory.  Storing
them succeeds exactly if the JSON report has a text, the directory can be made, and the host takes
the text of either file (`Report.save_eq_ok_iff`).

The two files are never the same one (`Report.jsonPlace_ne_markdownPlace`), so each of them holds
the text that was written to it (`Report.Written.areStored`).
-/

open SurfaceGuard.Task

namespace SurfaceGuard.Report

/-! ## Places -/

/-- The directory for the reports. -/
def directory (outputDir : Text) : Text := Path.join outputDir "apiguard-report"

/-- The paths of the reports. -/
def placed (outputDir : Text) : Saved :=
  ⟨Path.join (directory outputDir) "apiguard-report.json",
    Path.join (directory outputDir) "API_GUARD_REPORT.md"⟩

/-- Where the JSON report is. -/
def jsonPlace (outputDir : Text) (base : Place) : Location :=
  FileTree.destination base (Utf8.encode (placed outputDir).jsonPath)

/-- Where the Markdown report is. -/
def markdownPlace (outputDir : Text) (base : Place) : Location :=
  FileTree.destination base (Utf8.encode (placed outputDir).markdownPath)

/-- Where the reports are. -/
def places (outputDir : Text) (base : Place) : List Location :=
  [jsonPlace outputDir base, markdownPlace outputDir base]

theorem jsonPlace_ne_markdownPlace (outputDir : Text) (base : Place) :
    jsonPlace outputDir base ≠ markdownPlace outputDir base := by
  have hname : ∀ x : Text, 3 ≤ x.length → Path.separator ∉ x →
      FileTree.destination base (Utf8.encode (Path.join (directory outputDir) x))
        = directoryLocation base (directory outputDir) ++ [Utf8.encode x] :=
    fun x hlength hx => Path.destination_join base _ (Path.isName_of_length hlength hx)
  have hjson := hname "apiguard-report.json" (by decide) (by decide)
  have hmarkdown := hname "API_GUARD_REPORT.md" (by decide) (by decide)
  intro h
  rw [jsonPlace, placed, hjson, markdownPlace, placed, hmarkdown, List.append_cancel_left_eq,
    List.singleton_inj] at h
  exact absurd h (by decide)

/-! ## Writing -/

variable {run : RunResult} {text outputDir : Text} {w w' : World}

/-- What is written for a run whose JSON report has the text. -/
def writes (run : RunResult) (text outputDir : Text) (base : Place) : List Write :=
  [.put (jsonPlace outputDir base) (Utf8.encode text),
    .put (markdownPlace outputDir base) (Utf8.encode (markdown run))]

/-- The message for a report that was written. -/
def note (label path : Text) : Entry := .message .info (label ++ path)

/-- The host makes the directory for the reports and takes the text of either file, which is noted
each time. -/
structure Written (run : RunResult) (text outputDir : Text) (w w' : World) : Prop where
  json : Report.json run = .ok text
  steps : ∃ u v v', makeDirectories (directory outputDir) w = (.ok (), u)
    ∧ writeBytes (placed outputDir).jsonPath (Utf8.encode text) u = (.ok (), v)
    ∧ writeBytes (placed outputDir).markdownPath (Utf8.encode (markdown run))
      (v.logged [note "📄 JSON report saved to: " (placed outputDir).jsonPath]) = (.ok (), v')
    ∧ w' = v'.logged [note "📄 Markdown report saved to: " (placed outputDir).markdownPath]

/-- Storing the reports succeeds exactly if the host takes them. -/
theorem save_eq_ok_iff {saved : Saved} :
    save run (markdown run) outputDir w = (.ok saved, w') ↔
      saved = placed outputDir ∧ ∃ text, Written run text outputDir w w' := by
  simp only [save, bind_eq_ok_iff, ofGuard_eq, Prod.mk.injEq, mapError_eq_ok_iff]
  constructor
  · rintro ⟨_, u, hmake, text, _, ⟨hjson, rfl⟩, _, v, hwrite, _, _, hnote, _, v', hwrite', _, _,
      hnote', hpure⟩
    cases hnote
    cases hnote'
    cases hpure
    exact ⟨rfl, text, hjson, u, v, v', hmake, hwrite, hwrite', rfl⟩
  · rintro ⟨rfl, text, hjson, u, v, v', hmake, hwrite, hwrite', rfl⟩
    exact ⟨(), u, hmake, text, u, ⟨hjson, rfl⟩, (), v, hwrite, (), _, rfl, (), v', hwrite', (), _,
      rfl, rfl⟩

/-- Both files are written, and nothing else is. -/
theorem Written.wrote (h : Written run text outputDir w w') :
    w.files.Wrote (writes run text outputDir w.directory) w'.files
      ∧ w'.directory = w.directory := by
  obtain ⟨u, v, v', hmake, hwrite, hwrite', rfl⟩ := h.steps
  obtain ⟨hmade, hstays⟩ := wrote_makeDirectories hmake
  obtain ⟨hjson, hstays'⟩ := wrote_writeBytes hwrite
  obtain ⟨hmarkdown, hstays''⟩ := wrote_writeBytes hwrite'
  have hdirectory : v.directory = w.directory := (hstays.trans hstays').directory
  rw [hstays.directory] at hjson
  change v.files.Wrote [.put (FileTree.destination v.directory _) _] v'.files at hmarkdown
  rw [hdirectory] at hmarkdown
  exact ⟨(hmade.trans hjson).trans hmarkdown, hstays''.directory.trans hdirectory⟩

/-- Each of the two files holds the report of the run that it is for. -/
def AreStored (run : RunResult) (outputDir : Text) (base : Place) (t : FileTree) : Prop :=
  ∃ text, Report.json run = .ok text ∧ t.Holds (jsonPlace outputDir base) (Utf8.encode text)
    ∧ t.Holds (markdownPlace outputDir base) (Utf8.encode (markdown run))

/-- The reports stay where nothing is changed. -/
theorem AreStored.of_face? {base : Place} {t t' : FileTree} (h : AreStored run outputDir base t)
    (hface : ∀ loc ∈ places outputDir base, t'.face? loc = t.face? loc) :
    AreStored run outputDir base t' := by
  obtain ⟨text, hjson, hholds, hholds'⟩ := h
  exact ⟨text, hjson, hholds.of_face? (hface _ List.mem_cons_self),
    hholds'.of_face? (hface _ (List.mem_cons_of_mem _ List.mem_cons_self))⟩

theorem Written.areStored (h : Written run text outputDir w w') :
    AreStored run outputDir w.directory w'.files := by
  obtain ⟨hwrote, -⟩ := h.wrote
  refine ⟨text, h.json, hwrote.holds fun held? => ?_, hwrote.holds fun held? => ?_⟩
  · rw [writes, List.foldl_cons, List.foldl_cons, List.foldl_nil, Write.apply_put_self]
    exact Write.apply_of_ne (.put _ _) (jsonPlace_ne_markdownPlace outputDir w.directory).symm _
  · rw [writes, List.foldl_cons, List.foldl_cons, List.foldl_nil, Write.apply_put_self]

end SurfaceGuard.Report
