import SurfaceGuard.Proofs.Baseline.Store
import SurfaceGuard.Proofs.Guard.Turn

/-!
# Baselines over a history of runs

Runs follow each other, some of them update and some of them check, with whatever exporters
and whatever failures.  As long as nothing else touches the directory of the baselines, the
baseline of a target is what the last successful update of that target stored.

The induction is on the history, and within a run on its turns: each turn keeps every
baseline but that of its own target (`Turn.held_cases`), and the run is over after its last
turn.
-/

open SurfaceGuard.Task

namespace SurfaceGuard

open Baseline Baseline.Writers

variable {base : Place} {dir : Text}

/-! ## What leaves the baselines alone -/

/-- The second world has the entries of the directory of the baselines that the first one has. -/
structure Undisturbed (base : Place) (dir : Text) (w w' : World) : Prop where
  directory : w'.directory = w.directory
  entries : ∀ name, Path.IsName name →
    w'.files.face? (entryAt base dir name) = w.files.face? (entryAt base dir name)

namespace Undisturbed

variable {w u v : World}

theorem logged (w : World) (entries : List Entry) : Undisturbed base dir w (w.logged entries) :=
  ⟨rfl, fun _ _ => rfl⟩

theorem trans (h : Undisturbed base dir w u) (h' : Undisturbed base dir u v) :
    Undisturbed base dir w v :=
  ⟨h'.directory.trans h.directory, fun name hname =>
    (h'.entries name hname).trans (h.entries name hname)⟩

/-- No baseline is replaced. -/
theorem replaces (h : Undisturbed base dir w u) : Replaces base dir none w u := by
  refine ⟨h.directory, fun hw => ?_, fun target htarget => ?_⟩
  · rw [noDevices_iff] at hw ⊢
    intro c n hn
    rw [temporaryAt, h.entries _ (isName_temporaryName c.plain _ _)] at hn
    exact hw c n hn
  · rw [held_eq htarget, held_eq htarget, FileTree.content?_eq, FileTree.content?_eq,
      h.entries _ (isName_fileName htarget)]
    rfl

end Undisturbed

/-- The exporter does not write into the directory of the baselines. -/
def Exporter.Spares (base : Place) (dir : Text) (exporter : Exporter) : Prop :=
  ∀ target w, w.directory = base → Undisturbed base dir w (exporter target w).2

namespace Guard

theorem produce_undisturbed {ctx : Context} {target : Text} {w w' : World}
    {r : Except Thrown Snapshot} (h : produce ctx target w = (r, w'))
    (hspares : ctx.exporter.Spares base dir) (hw : w.directory = base) :
    Undisturbed base dir w w' := by
  have hexporter := hspares target w hw
  rcases produce_cases h with ⟨e, hexport, -⟩ | ⟨file, u, entries, hexport, rfl, -⟩
  · rwa [hexport] at hexporter
  · rw [hexport] at hexporter
    exact hexporter.trans (.logged u entries)

/-- A baseline that can be loaded is that of a regular file. -/
theorem held_of_load {dir target : Text} {w : World} {stored : Snapshot}
    (h : (Baseline.load dir target w).1 = .ok stored) :
    ∃ content, held w.directory dir w.files target = some content
      ∧ Baseline.decode (Utf8.decode content) (Baseline.path dir target) = .ok stored := by
  have hloaded := (Baseline.reads_load dir target).eq w
  rw [h] at hloaded
  rcases bind_cases hloaded with ⟨isThere, u, hlook, hrest⟩ | ⟨e, hlook, -⟩
  · obtain ⟨-, rfl⟩ := Prod.mk.inj hlook
    cases isThere with
    | false => cases hrest
    | true =>
      rcases bind_cases hrest with ⟨text, u, hread, hdecode⟩ | ⟨e, -, hr⟩
      · rw [readText_eq (not_contains_zero hlook)] at hread
        cases hfile : w.files.readFile w.directory (Utf8.encode (Baseline.path dir target)) with
        | error e => rw [hfile] at hread; cases hread
        | ok content =>
          rw [hfile] at hread
          cases hread
          rw [ofGuard_eq] at hdecode
          have hstored := mapError_eq_ok_iff.1 (congrArg Prod.fst hdecode)
          refine ⟨content, ?_, hstored⟩
          rcases FileTree.readFile_ok hfile with ⟨a, hface⟩ | rfl
          · rw [held, FileTree.content?_eq, hface]
            rfl
          · -- nothing is no baseline
            cases hstored
      · cases hr
  · cases hlook

/-! ## What a turn does -/

namespace Turn

/-- Did the turn end with the status of an update? -/
def isUpdated (t : Turn) : Bool :=
  match t.run.1 with
  | .ok (.updated ..) => true
  | _ => false

theorem run_of_isUpdated {t : Turn} (h : t.isUpdated = true) :
    ∃ result, t.run = (.ok result, t.run.2) := by
  rw [isUpdated] at h
  split at h
  · next heq => exact ⟨_, Prod.ext heq rfl⟩
  · cases h

/-- The snapshot of the graph that the exporter leaves in the turn. -/
def snapshot? (t : Turn) : Option Snapshot :=
  match t.context.exporter t.target t.opened with
  | (.error _, _) => none
  | (.ok file, w) =>
    match reading w file with
    | .error _ => none
    | .ok text =>
      match Graph.parse text file with
      | .error _ => none
      | .ok graph => graph.snapshot? t.target (t.context.now?.getD w.clock)

/-- A turn of a run on a directory of baselines, whose exporter does not write into it. -/
structure Within (base : Place) (dir : Text) (t : Turn) : Prop where
  directory : t.world.directory = base
  baselineDir : t.context.config.baselineDir = dir
  plain : Path.separator ∉ t.target
  spares : t.context.exporter.Spares base dir

variable {t : Turn} {s : Snapshot} {w : World}

theorem snapshot?_of_produce (h : produce t.context t.target t.opened = (.ok s, w)) :
    t.snapshot? = some s ∧ s.target = t.target := by
  rcases produce_cases h with ⟨e, -, hr⟩ | ⟨file, u, entries, hexport, -, hr⟩
  · cases hr
  · rw [snapshotIn, Export.readGraph_eq] at hr
    rw [snapshot?, hexport]
    cases hread : reading u file with
    | error reason => simp only [hread] at hr; cases hr
    | ok text =>
      cases hparse : Graph.parse text file with
      | error e => simp only [hread, hparse, Except.mapError] at hr; cases hr
      | ok graph =>
        simp only [hread, hparse, Except.mapError] at hr
        simp only [hread, hparse]
        have hsnapshot := stamped_eq_ok_iff.1 hr.symm
        exact ⟨hsnapshot, Graph.target_of_snapshot? hsnapshot⟩

/-- A turn goes on from its work with nothing but entries in the log, and ends as an update exactly
if its work does. -/
theorem run_of_work {r : Except Thrown TargetResult} (h : t.work = (r, w)) :
    (∃ entries, t.run.2 = w.logged entries)
      ∧ (t.isUpdated = true ↔
        ∃ target count file duration, r = .ok (.updated target count file duration)) := by
  rcases t.run_cases with ⟨result, u, hwork, hrun⟩ | ⟨e, u, entries, hwork, hrun, hended⟩
  · obtain ⟨rfl, rfl⟩ := Prod.mk.inj (h.symm.trans hwork)
    refine ⟨⟨_, by rw [hrun]⟩, ?_⟩
    rw [isUpdated, hrun]
    cases result <;> simp
  · obtain ⟨rfl, rfl⟩ := Prod.mk.inj (h.symm.trans hwork)
    refine ⟨⟨entries, hrun⟩, ?_⟩
    rw [isUpdated]
    rcases hended with ⟨info, duration, -, hrun⟩ | ⟨-, e', hrun⟩ <;> rw [hrun] <;> simp

/-- An update replaces the baseline of its target, or fails and leaves all of them alone. -/
theorem update_replaces {r : Except Thrown TargetResult} (ht : t.Within base dir)
    (hfirst : NoDevices base dir t.world.files) (h : update t.context t.target t.opened = (r, w)) :
    (∃ s count file duration, r = .ok (.updated t.target count file duration)
        ∧ t.snapshot? = some s ∧ s.target = t.target ∧ Replaces base dir (some s) t.world w)
      ∨ ∃ e, r = .error e ∧ Replaces base dir none t.world w := by
  have hopened : Undisturbed base dir t.world t.opened := .logged _ _
  rcases update_cases h with ⟨e, hproduce, hr⟩ | ⟨s, u, hproduce, hsave⟩
  · have hkept := hopened.trans (produce_undisturbed hproduce ht.spares ht.directory)
    exact Or.inr ⟨e, hr, hkept.replaces⟩
  · have hkept := hopened.trans (produce_undisturbed hproduce ht.spares ht.directory)
    obtain ⟨hsnapshot, htarget⟩ := snapshot?_of_produce hproduce
    have hs : Path.separator ∉ s.target := htarget ▸ ht.plain
    obtain rfl : u.directory = base := hkept.directory.trans ht.directory
    have hdevices := hkept.replaces.noDevices hfirst
    rw [ht.baselineDir] at hsave
    rcases hsave with ⟨e, hsaved, hr⟩ | ⟨file, v, entries, duration, hsaved, rfl, hr⟩
    · rcases save_cases hsaved hs hdevices with ⟨_, hok, -⟩ | ⟨_, -, hreplaces⟩
      · cases hok
      · exact Or.inr ⟨e, hr, hreplaces.after hkept.replaces⟩
    · rcases save_cases hsaved hs hdevices with ⟨_, -, hreplaces⟩ | ⟨_, herror, -⟩
      · exact Or.inl ⟨s, _, _, _, hr, hsnapshot, htarget,
          (hreplaces.after hkept.replaces).logged entries⟩
      · cases herror

/-- A check leaves the baselines alone. -/
theorem check_undisturbed {r : Except Thrown TargetResult} (ht : t.Within base dir)
    (h : check t.context t.target t.mode t.failOnAdditions t.opened = (r, w)) :
    Undisturbed base dir t.world w
      ∧ ∀ target count file duration, r ≠ .ok (.updated target count file duration) := by
  have hopened : Undisturbed base dir t.world t.opened := .logged _ _
  rcases check_cases h with ⟨e, -, rfl, rfl⟩ | ⟨stored, -, ⟨e, hproduce, rfl⟩ | hchecked⟩
  · exact ⟨hopened, fun _ _ _ _ => nofun⟩
  · exact ⟨hopened.trans (produce_undisturbed hproduce ht.spares ht.directory),
      fun _ _ _ _ => nofun⟩
  · obtain ⟨current, u, entries, duration, hproduce, rfl, rfl⟩ := hchecked
    have hkept := hopened.trans (produce_undisturbed hproduce ht.spares ht.directory)
    exact ⟨hkept.trans (.logged _ _), fun _ _ _ _ => nofun⟩

/-- A turn that ends as an update replaces the baseline of its target, and any other turn leaves all
baselines alone. -/
theorem run_replaces (ht : t.Within base dir) (hfirst : NoDevices base dir t.world.files) :
    (t.isUpdated = true ∧ ∃ s, t.snapshot? = some s ∧ s.target = t.target
        ∧ Replaces base dir (some s) t.world t.run.2)
      ∨ t.isUpdated = false ∧ Replaces base dir none t.world t.run.2 := by
  obtain ⟨r, w, hwork⟩ : ∃ r w, t.work = (r, w) := ⟨_, _, rfl⟩
  obtain ⟨⟨entries, hrun⟩, hupdated⟩ := run_of_work hwork
  rw [hrun]
  cases hupdate : t.isUpdate with
  | true =>
    rw [work_of_update hupdate] at hwork
    rcases update_replaces ht hfirst hwork with
      ⟨s, count, file, duration, hr, hsnapshot, htarget, hreplaces⟩ | ⟨e, rfl, hreplaces⟩
    · exact Or.inl ⟨hupdated.2 ⟨_, _, _, _, hr⟩, s, hsnapshot, htarget, hreplaces.logged entries⟩
    · exact Or.inr ⟨by simpa using hupdated, hreplaces.logged entries⟩
  | false =>
    rw [work_of_check hupdate] at hwork
    obtain ⟨hkept, hr⟩ := check_undisturbed ht hwork
    refine Or.inr ⟨?_, hkept.replaces.logged entries⟩
    rw [← Bool.not_eq_true, hupdated]
    rintro ⟨_, _, _, _, h⟩
    exact hr _ _ _ _ h

/-- What a check compares: the snapshot that the baseline decodes to, and that of the graph that the
exporter leaves. -/
theorem compared_of_run (ht : t.Within base dir) {target : Text} {decision : Decision}
    {changes : List SignatureChange} {duration : Number}
    (h : t.run.1 = .ok (.checked target decision changes duration)) :
    ∃ content stored current, held base dir t.world.files t.target = some content
      ∧ Baseline.decode (Utf8.decode content) (Baseline.path dir t.target) = .ok stored
      ∧ t.snapshot? = some current
      ∧ decision = Policy.evaluate (Diff.between stored current) t.mode t.failOnAdditions
      ∧ changes = (Diff.between stored current).changes stored current := by
  rcases t.run_cases with ⟨result, w, hwork, hrun⟩ | ⟨e, w, entries, -, -, hended⟩
  · rw [hrun, Except.ok.injEq] at h
    subst h
    cases hupdate : t.isUpdate with
    | true =>
      rw [work_of_update hupdate] at hwork
      rcases update_cases hwork with ⟨_, -, hr⟩ | ⟨s, u, -, ⟨_, -, hr⟩ | ⟨_, _, _, _, -, -, hr⟩⟩ <;>
        cases hr
    | false =>
      rw [work_of_check hupdate] at hwork
      rcases check_cases hwork with ⟨_, -, -, hr⟩ | ⟨stored, hload, ⟨_, -, hr⟩ | hchecked⟩
      · cases hr
      · cases hr
      · obtain ⟨current, u, _, _, hproduce, -, hr⟩ := hchecked
        cases hr
        obtain ⟨content, hheld, hdecode⟩ := held_of_load hload
        rw [ht.baselineDir] at hheld hdecode
        have hdirectory : t.opened.directory = base := ht.directory
        rw [hdirectory] at hheld
        exact ⟨content, stored, current, hheld, hdecode, (snapshot?_of_produce hproduce).1,
          rfl, rfl⟩
  · rcases hended with ⟨info, duration', -, hrun⟩ | ⟨-, e', hrun⟩ <;> rw [hrun] at h <;> cases h

end Turn

/-! ## Histories -/

/-- What happens to the directory of the baselines: runs, one after the other, each on a list of
targets that are names, with an exporter that does not write into the directory.  In between other
things may happen, as long as the directory is left alone. -/
inductive History (base : Place) (dir : Text) (first : World) : List Turn → World → Prop
  | start : History base dir first [] first
  | pause {past : List Turn} {w w' : World} (h : History base dir first past w)
      (hpause : Undisturbed base dir w w') : History base dir first past w'
  | run {past : List Turn} {w : World} (ctx : Context) (options : RunOptions)
      (h : History base dir first past w) (hdir : ctx.config.baselineDir = dir)
      (hplain : ∀ target ∈ ctx.config.targets, Path.separator ∉ target)
      (hspares : ctx.exporter.Spares base dir) :
      History base dir first (past ++ turns ctx options w) (run ctx options w).2

/-- The last turn that updated a target, or another one with the same bytes. -/
def lastUpdate? (past : List Turn) (target : Text) : Option Turn :=
  (past.filter fun t => t.isUpdated && decide (Utf8.encode t.target = Utf8.encode target)).getLast?

/-- The baseline of a target is what its last update stored, or else what it was at first. -/
def Current (base : Place) (dir : Text) (first : World) (past : List Turn) (w : World)
    (target : Text) : Prop :=
  match lastUpdate? past target with
  | none => held base dir w.files target = held base dir first.files target
  | some t => ∃ s, t.snapshot? = some s ∧ held base dir w.files target = some (Baseline.encode s)

/-- What holds after a history. -/
structure Kept (base : Place) (dir : Text) (first : World) (past : List Turn) (w : World) :
    Prop where
  directory : w.directory = base
  noDevices : NoDevices base dir w.files
  current : ∀ target, Path.separator ∉ target → Current base dir first past w target

variable {first w w' : World} {past : List Turn}

theorem Kept.start (hbase : first.directory = base) (hfirst : NoDevices base dir first.files) :
    Kept base dir first [] first :=
  ⟨hbase, hfirst, fun _ _ => rfl⟩

/-- Baselines that nobody replaces stay current. -/
theorem Kept.pause (h : Kept base dir first past w) (hkept : Replaces base dir none w w') :
    Kept base dir first past w' := by
  refine ⟨hkept.directory.trans h.directory, hkept.noDevices h.noDevices, fun target ht => ?_⟩
  have hcurrent := h.current target ht
  rw [Current] at hcurrent ⊢
  rwa [hkept.held_same ht]

/-- A turn keeps the baselines current. -/
theorem Kept.turn {t : Turn} (h : Kept base dir first past t.world) (ht : t.Within base dir) :
    Kept base dir first (past ++ [t]) t.run.2 := by
  rcases Turn.run_replaces ht h.noDevices with
    ⟨hupdated, s, hsnapshot, hs, hreplaces⟩ | ⟨hupdated, hkept⟩
  · refine ⟨hreplaces.directory.trans h.directory, hreplaces.noDevices h.noDevices, ?_⟩
    intro target htarget
    have hcurrent := h.current target htarget
    rw [Current, lastUpdate?] at hcurrent
    rw [Current, lastUpdate?, List.filter_append, List.filter_singleton]
    by_cases hsame : Utf8.encode t.target = Utf8.encode target
    · simp only [hupdated, hsame, decide_true, Bool.and_self, cond_true, List.getLast?_concat]
      exact ⟨s, hsnapshot, hreplaces.held_new htarget (hs ▸ hsame)⟩
    · simp only [hupdated, hsame, decide_false, Bool.and_false, cond_false, List.append_nil]
      rwa [hreplaces.held_other htarget (hs ▸ hsame)]
  · have hpast : ∀ target, lastUpdate? (past ++ [t]) target = lastUpdate? past target := by
      intro target
      rw [lastUpdate?, List.filter_append, List.filter_singleton, hupdated, Bool.false_and,
        cond_false, List.append_nil, lastUpdate?]
    have h' := h.pause hkept
    refine ⟨h'.directory, h'.noDevices, fun target htarget => ?_⟩
    have hcurrent := h'.current target htarget
    rw [Current] at hcurrent ⊢
    rwa [hpast]

/-- What holds after a history, and held before each of its turns. -/
structure Traced (base : Place) (dir : Text) (first : World) (past : List Turn) (w : World) :
    Prop where
  kept : Kept base dir first past w
  before : ∀ before t after, past = before ++ t :: after →
    Kept base dir first before t.world ∧ t.Within base dir

theorem Traced.turn {t : Turn} (h : Traced base dir first past t.world) (ht : t.Within base dir) :
    Traced base dir first (past ++ [t]) t.run.2 := by
  refine ⟨h.kept.turn ht, fun before t' after heq => ?_⟩
  rcases List.eq_nil_or_concat after with rfl | ⟨after, last, rfl⟩
  · obtain ⟨rfl, hlast⟩ := List.append_inj' heq rfl
    cases hlast
    exact ⟨h.kept, ht⟩
  · rw [List.concat_eq_append, ← List.cons_append, ← List.append_assoc] at heq
    exact h.before before t' after (List.append_inj' heq rfl).1

/-- The turns of a run, one after the other. -/
theorem Traced.runTargets {ctx : Context} {isUpdate : Bool} {mode : Mode} {failOnAdditions : Bool}
    {targets : List Text} (h : Traced base dir first past w)
    (hdir : ctx.config.baselineDir = dir) (hplain : ∀ target ∈ targets, Path.separator ∉ target)
    (hspares : ctx.exporter.Spares base dir) :
    Traced base dir first (past ++ turnsFrom ctx isUpdate mode failOnAdditions targets w)
      (runTargets ctx isUpdate mode failOnAdditions targets w).2 := by
  induction targets generalizing past w with
  | nil =>
    rw [turnsFrom, List.append_nil]
    exact h
  | cons target targets ih =>
    let t : Turn := ⟨ctx, isUpdate, mode, failOnAdditions, target, w⟩
    have ht : t.Within base dir :=
      ⟨h.kept.directory, hdir, hplain target List.mem_cons_self, hspares⟩
    have hturn : Traced base dir first (past ++ [t]) t.run.2 := Traced.turn h ht
    obtain ⟨r, u, hrun⟩ : ∃ r u, t.run = (r, u) := ⟨_, _, rfl⟩
    rw [hrun] at hturn
    cases r with
    | error e =>
      rw [turnsFrom_of_error hrun]
      have hend : Guard.runTargets ctx isUpdate mode failOnAdditions (target :: targets) w
          = (.error e, u) := bind_of_error hrun
      rw [hend]
      exact hturn
    | ok result =>
      rw [turnsFrom_of_ok hrun]
      have hrest := ih hturn fun target' h' => hplain target' (List.mem_cons_of_mem _ h')
      rw [List.append_assoc, List.singleton_append] at hrest
      obtain ⟨r', v, hruns⟩ : ∃ r' v,
        Guard.runTargets ctx isUpdate mode failOnAdditions targets u = (r', v) := ⟨_, _, rfl⟩
      rw [hruns] at hrest
      have hend :
          (Guard.runTargets ctx isUpdate mode failOnAdditions (target :: targets) w).2 = v := by
        refine (congrArg Prod.snd (bind_of_ok hrun)).trans ?_
        cases r' with
        | error e => rw [bind_of_error hruns]
        | ok results => rw [bind_of_ok hruns]; rfl
      rw [hend]
      exact hrest

theorem run_snd (ctx : Context) (options : RunOptions) (w : World) :
    (run ctx options w).2 = (runAll ctx options w).2 := by
  obtain ⟨r, w', h⟩ : ∃ r w', runAll ctx options w = (r, w') := ⟨_, _, rfl⟩
  rw [h]
  cases r with
  | error e => rw [run_of_error h]
  | ok results =>
    cases htext : Timestamp.text? w'.clock with
    | none => rw [run_of_no_text h htext]
    | some generatedAt => rw [run_of_ok h htext]

theorem History.traced (h : History base dir first past w) (hbase : first.directory = base)
    (hfirst : NoDevices base dir first.files) : Traced base dir first past w := by
  induction h with
  | start =>
    exact ⟨.start hbase hfirst, fun _ _ _ heq => by simp at heq⟩
  | pause _ hpause ih => exact ⟨ih.kept.pause hpause.replaces, ih.before⟩
  | run ctx options _ hdir hplain hspares ih =>
    rw [run_snd]
    exact ih.runTargets hdir hplain hspares

/-- For names without lone surrogates the last update is one of the very target. -/
theorem lastUpdate?_of_isWellFormed {target : Text} (htarget : Text.isWellFormed target = true)
    (hpast : ∀ t ∈ past, Text.isWellFormed t.target = true) :
    lastUpdate? past target
      = (past.filter fun t => t.isUpdated && decide (t.target = target)).getLast? := by
  rw [lastUpdate?]
  refine congrArg List.getLast? (List.filter_congr fun t ht => ?_)
  have hiff : Utf8.encode t.target = Utf8.encode target ↔ t.target = target :=
    ⟨Utf8.eq_of_encode_eq (hpast t ht) htarget, congrArg Utf8.encode⟩
  rw [decide_eq_decide.2 hiff]

/-- After any history, and before each turn in it, the baseline of a target is what the last turn
that updated the target stored, or else what it was at first.  A check compares with what it
decodes to, and only an update of the target that succeeds changes it.  Targets share a baseline if
their names have the same bytes; without lone surrogates only equal names have. -/
theorem baselines_change_by_updates (base : Place) (dir : Text) (first : World)
    (hbase : first.directory = base) (hfirst : NoDevices base dir first.files) :
    ∀ past w, History base dir first past w →
      (∀ target, Path.separator ∉ target → Current base dir first past w target)
      ∧ (∀ before t after, past = before ++ t :: after →
        (∀ target, Path.separator ∉ target → Current base dir first before t.world target)
        ∧ (∀ target decision changes duration,
            t.run.1 = .ok (.checked target decision changes duration) →
          ∃ content stored current, held base dir t.world.files t.target = some content
            ∧ Baseline.decode (Utf8.decode content) (Baseline.path dir t.target) = .ok stored
            ∧ t.snapshot? = some current
            ∧ decision = Policy.evaluate (Diff.between stored current) t.mode t.failOnAdditions
            ∧ changes = (Diff.between stored current).changes stored current)
        ∧ ∀ target, Path.separator ∉ target →
          (t.isUpdated = false ∨ Utf8.encode t.target ≠ Utf8.encode target) →
          held base dir t.run.2.files target = held base dir t.world.files target)
      ∧ ∀ target, Text.isWellFormed target = true →
        (∀ t ∈ past, Text.isWellFormed t.target = true) →
        lastUpdate? past target
          = (past.filter fun t => t.isUpdated && decide (t.target = target)).getLast? := by
  intro past w h
  have htraced := h.traced hbase hfirst
  refine ⟨htraced.kept.current, fun before t after heq => ?_,
    fun target => lastUpdate?_of_isWellFormed⟩
  obtain ⟨hkept, ht⟩ := htraced.before before t after heq
  refine ⟨hkept.current, fun _ _ _ _ => Turn.compared_of_run ht, fun target htarget hother => ?_⟩
  rcases Turn.run_replaces ht hkept.noDevices with ⟨hupdated, s, -, hs, hreplaces⟩ | ⟨-, hreplaces⟩
  · rw [hupdated] at hother
    exact hreplaces.held_other htarget (hs ▸ hother.resolve_left Bool.noConfusion)
  · exact hreplaces.held_same htarget

/-- An update stores the snapshot of the graph that was exported. -/
theorem baselines_change_by_updates_of_new_target :
    let base : Place := ⟨[], 0⟩
    let graph : Node := .file ⟨1, 0o644, 0⟩ (Utf8.encode "\x7b\"symbols\":[]\x7d")
    let first : World := .quiet ⟨.directory ⟨0, 0o755, 0⟩ [("g", graph)], 2⟩
    let ctx : Context :=
      { config := ⟨["A"], .semver, "d", "out", false, ["true"], "graphs", .zero false⟩
        exporter := fun _ w => (.ok "g", w) }
    let options : RunOptions := ⟨true, none, none⟩
    NoDevices base "d" first.files
      ∧ History base "d" first (turns ctx options first) (run ctx options first).2
      ∧ held base "d" first.files "A" = none
      ∧ held base "d" (run ctx options first).2.files "A"
        = some (Baseline.encode ⟨"A", "1970-01-01T00:00:00.000Z", .empty⟩) := by
  intro base graph first ctx options
  have hfirst : NoDevices base "d" first.files := by
    intro c n hn
    have hdirectory : directoryLocation base "d" = [("d" : Bytes)] := by decide +kernel
    rw [destination_temporary, temporaryAt, entryAt, hdirectory] at hn
    cases hn
  have hhistory : History base "d" first (turns ctx options first) (run ctx options first).2 :=
    .run ctx options .start rfl (by decide) fun _ _ _ => ⟨rfl, fun _ _ => rfl⟩
  let t : Turn := ⟨ctx, true, .semver, false, "A", first⟩
  have hupdated : t.isUpdated = true := by decide +kernel
  have hcurrent :=
    (baselines_change_by_updates base "d" first rfl hfirst _ _ hhistory).1 "A" (by decide)
  have hlast : lastUpdate? (turns ctx options first) "A" = some t := by
    obtain ⟨result, hrun⟩ := Turn.run_of_isUpdated hupdated
    have hturns : turns ctx options first = [t] := turnsFrom_of_ok hrun
    rw [hturns, lastUpdate?, List.filter_singleton, hupdated]
    rfl
  rw [Current, hlast] at hcurrent
  obtain ⟨s, hsnapshot, hheld⟩ := hcurrent
  have hs : t.snapshot?.map Baseline.encode
      = some (Baseline.encode ⟨"A", "1970-01-01T00:00:00.000Z", .empty⟩) := by
    decide +kernel
  rw [hsnapshot, Option.map_some] at hs
  exact ⟨hfirst, hhistory, by decide +kernel, hheld.trans hs⟩

/-- What an update stored can be lost in two ways: to the update of a target that differs in a lone
surrogate, and to a device that stands in the place of the temporary file. -/
theorem updates_lost :
    let base : Place := ⟨[], 0⟩
    let graph : Bytes × Node := ("g", .file ⟨1, 0o644, 0⟩ (Utf8.encode "\x7b\"symbols\":[]\x7d"))
    let ctx (targets : List Text) : Context :=
      { config := ⟨targets, .semver, "d", "out", false, ["true"], "graphs", .zero false⟩
        exporter := fun _ w => (.ok "g", w) }
    let options : RunOptions := ⟨true, none, none⟩
    let lost (first : World) (targets : List Text) (target : Text) : Prop :=
      ∃ t s, ((turns (ctx targets) options first).filter fun t =>
          t.isUpdated && decide (t.target = target)).getLast? = some t
        ∧ t.snapshot? = some s
        ∧ held base "d" (run (ctx targets) options first).2.files target ≠ some (Baseline.encode s)
    let dir : Node := .directory ⟨2, 0o755, 0⟩ [(".A.json.1.0.tmp", .device ⟨3, 0o666, 0⟩ .null)]
    lost (.quiet ⟨.directory ⟨0, 0o755, 0⟩ [graph], 2⟩) [[0xD800], [0xD801]] [0xD800]
      ∧ lost (.quiet ⟨.directory ⟨0, 0o755, 0⟩ [graph, ("d", dir)], 4⟩) ["A"] "A" := by
  intro base graph ctx options lost dir
  refine ⟨?_, ?_⟩
  · let first : World := .quiet ⟨.directory ⟨0, 0o755, 0⟩ [graph], 2⟩
    let t : Turn := ⟨ctx [[0xD800], [0xD801]], true, .semver, false, [0xD800], first⟩
    let t' : Turn := ⟨t.context, true, .semver, false, [0xD801], t.run.2⟩
    have hupdated : t.isUpdated = true := by decide +kernel
    obtain ⟨result, hrun⟩ := Turn.run_of_isUpdated hupdated
    obtain ⟨result', hrun'⟩ := Turn.run_of_isUpdated (t := t') (by decide +kernel)
    have hturns : turns t.context options first = [t, t'] :=
      (turnsFrom_of_ok hrun).trans (congrArg (t :: ·) (turnsFrom_of_ok hrun'))
    have hs : t.snapshot?.map Baseline.encode
        = some (Baseline.encode ⟨[0xD800], "1970-01-01T00:00:00.000Z", .empty⟩) := by
      decide +kernel
    obtain ⟨s, hsnapshot, hbytes⟩ := Option.map_eq_some_iff.1 hs
    refine ⟨t, s, ?_, hsnapshot, by rw [hbytes]; decide +kernel⟩
    have hother : decide (t'.target = [0xD800]) = false := by decide
    rw [hturns, List.filter_cons_of_pos (by rw [hupdated]; rfl), List.filter_singleton, hother,
      Bool.and_false]
    rfl
  · let first : World := .quiet ⟨.directory ⟨0, 0o755, 0⟩ [graph, ("d", dir)], 4⟩
    let t : Turn := ⟨ctx ["A"], true, .semver, false, "A", first⟩
    have hupdated : t.isUpdated = true := by decide +kernel
    obtain ⟨result, hrun⟩ := Turn.run_of_isUpdated hupdated
    have hturns : turns t.context options first = [t] := turnsFrom_of_ok hrun
    obtain ⟨s, hsnapshot⟩ := Option.isSome_iff_exists.1 (show t.snapshot?.isSome = true by
      decide +kernel)
    have hheld : held base "d" (run t.context options first).2.files "A" = none := by decide +kernel
    refine ⟨t, s, ?_, hsnapshot, by rw [hheld]; exact nofun⟩
    rw [hturns, List.filter_singleton, hupdated]
    rfl

end Guard

end SurfaceGuard
