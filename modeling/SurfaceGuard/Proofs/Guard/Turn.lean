import SurfaceGuard.Proofs.Baseline.Access
import SurfaceGuard.Proofs.Host.Parts
import SurfaceGuard.Proofs.Snapshot

/-!
# The turns of a run

A run of the guard gives each target a turn, in the order of the configuration, up to one
whose failure cannot be described.  This file says what a turn does: it opens a group of
entries, updates or checks its target, and turns a failure into a result (`Turn.run_cases`).
-/

open SurfaceGuard.Task

namespace SurfaceGuard

theorem Baseline.reports_load (dir target : Text) : Reports (Baseline.load dir target) :=
  (built_load dir target : Built .none _).reports

/-- A graph is what the text of its file has, and a file that cannot be read is no export. -/
theorem Export.readGraph_eq (target file : Text) (w : World) :
    Export.readGraph target file w = (match reading w file with
      | .ok text => (Graph.parse text file).mapError .guard
      | .error reason => .error (.guard (.exportUnavailable target
          ("Cannot read symbol graph " ++ file ++ ": " ++ reason) [])), w) := by
  rcases readText_cases file w with
    ⟨text, hreading, hread⟩ | ⟨message, ⟨hreading, hread⟩ | ⟨hreading, hread⟩⟩
  · rw [hreading]
    exact (bind_of_ok (outcome_eq hread)).trans (ofGuard_eq ..)
  · rw [hreading]
    exact bind_of_ok (outcome_eq hread)
  · rw [hreading]
    exact bind_of_ok (outcome_eq hread)

theorem Export.reads_readGraph (target file : Text) : Reads (Export.readGraph target file) :=
  fun w => by rw [Export.readGraph_eq]

theorem Export.reports_readGraph (target file : Text) : Reports (Export.readGraph target file) :=
  (built_readGraph target file : Built .none _).reports

theorem Baseline.reports_save (s : Snapshot) (dir : Text) : Reports (Baseline.save s dir) :=
  (built_save s dir : Built .none _).reports

namespace Guard

/-! ## Making a snapshot -/

/-- A snapshot, or the failure of a time without a text. -/
def stamped : Option Snapshot → Except Thrown Snapshot
  | some s => .ok s
  | none => .error (.error Timestamp.invalid)

theorem stamped_eq_ok_iff {s? : Option Snapshot} {s : Snapshot} :
    stamped s? = .ok s ↔ s? = some s := by
  cases s? <;> simp [stamped]

theorem not_textless_of_stamped {s? : Option Snapshot} {e : Thrown}
    (h : stamped s? = .error e) : ¬e.Textless := by
  cases s? with
  | some s => cases h
  | none =>
    cases h
    exact id

/-- The snapshot of the graph in an exported file, as it is in a world. -/
def snapshotIn (ctx : Context) (target file : Text) (w : World) : Except Thrown Snapshot :=
  match (Export.readGraph target file w).1 with
  | .error e => .error e
  | .ok graph => stamped (graph.snapshot? target (ctx.now?.getD w.clock))

variable {ctx : Context} {target : Text} {w w' : World}

theorem snapshotOf_eq (graph : Graph) (target : Text) (now : Number) (w : World) :
    snapshotOf graph target now w
      = (stamped (graph.snapshot? target now), w.logged (graph.remarks target)) := by
  change
    ofOption Timestamp.invalid (graph.snapshot? target now) (w.logged (graph.remarks target)) = _
  cases graph.snapshot? target now <;> rfl

/-- There is no snapshot of a target that is not exported. -/
theorem produce_of_exporter_error {e : Thrown} (h : ctx.exporter target w = (.error e, w')) :
    produce ctx target w = (.error e, w') := bind_of_error h

/-- There is no snapshot of a graph that cannot be read. -/
theorem produce_of_graph_error {file : Text} {e : Thrown}
    (hexport : ctx.exporter target w = (.ok file, w'))
    (hgraph : (Export.readGraph target file w').1 = .error e) :
    produce ctx target w = (.error e, w') := by
  have hread := (Export.reads_readGraph target file).eq w'
  rw [hgraph] at hread
  exact (bind_of_ok hexport).trans (bind_of_error hread)

/-- A snapshot is made of the graph that the exporter leaves behind. -/
theorem produce_of_graph {file : Text} {graph : Graph}
    (hexport : ctx.exporter target w = (.ok file, w'))
    (hgraph : (Export.readGraph target file w').1 = .ok graph) :
    produce ctx target w = (stamped (graph.snapshot? target (ctx.now?.getD w'.clock)),
      w'.logged (graph.remarks target)) := by
  have hread := (Export.reads_readGraph target file).eq w'
  rw [hgraph] at hread
  exact (bind_of_ok hexport).trans ((bind_of_ok hread).trans (snapshotOf_eq ..))

/-- A snapshot is made of what the exporter leaves behind, and changes nothing more but the log. -/
theorem produce_cases {r : Except Thrown Snapshot} (h : produce ctx target w = (r, w')) :
    (∃ e, ctx.exporter target w = (.error e, w') ∧ r = .error e)
      ∨ ∃ file u entries, ctx.exporter target w = (.ok file, u) ∧ w' = u.logged entries
        ∧ r = snapshotIn ctx target file u := by
  obtain ⟨end_, u, hexport⟩ : ∃ end_ u, ctx.exporter target w = (end_, u) := ⟨_, _, rfl⟩
  cases end_ with
  | error e =>
    rw [produce_of_exporter_error hexport] at h
    cases h
    exact Or.inl ⟨e, hexport, rfl⟩
  | ok file =>
    refine Or.inr ⟨file, u, ?_⟩
    rw [snapshotIn]
    cases hgraph : (Export.readGraph target file u).1 with
    | error e =>
      rw [produce_of_graph_error hexport hgraph] at h
      cases h
      exact ⟨[], hexport, (World.logged_nil _).symm, rfl⟩
    | ok graph =>
      rw [produce_of_graph hexport hgraph] at h
      cases h
      exact ⟨_, hexport, rfl, rfl⟩

theorem not_textless_of_snapshotIn {file : Text} {e : Thrown}
    (h : snapshotIn ctx target file w = .error e) : ¬e.Textless := by
  rw [snapshotIn] at h
  split at h
  · next e' he =>
    cases h
    exact Export.reports_readGraph target file w e w
      ((Export.reads_readGraph target file).eq w |>.trans (by rw [he]))
  · exact not_textless_of_stamped h

/-! ## One target -/

/-- An update fails if there is no snapshot. -/
theorem update_of_produce_error {e : Thrown} (h : produce ctx target w = (.error e, w')) :
    update ctx target w = (.error e, w') := (bind_of_ok (now_eq w)).trans (bind_of_error h)

/-- An update stores the snapshot. -/
theorem update_of_save {s : Snapshot} {u : World} {path : Text}
    (h : produce ctx target w = (.ok s, u))
    (hsave : Baseline.save s ctx.config.baselineDir u = (.ok path, w')) :
    update ctx target w
      = (.ok (.updated target (Number.ofNat s.symbols.size) path (w'.clock.sub w.clock)),
        w'.logged [.message .info ("✅ Updated baseline: " ++ target ++ " ("
          ++ Text.ofNat s.symbols.size ++ " symbols)")]) :=
  (bind_of_ok (now_eq w)).trans ((bind_of_ok h).trans (bind_of_ok hsave))

theorem update_cases {r : Except Thrown TargetResult} (h : update ctx target w = (r, w')) :
    (∃ e, produce ctx target w = (.error e, w') ∧ r = .error e)
      ∨ ∃ s u, produce ctx target w = (.ok s, u)
        ∧ ((∃ e, Baseline.save s ctx.config.baselineDir u = (.error e, w') ∧ r = .error e)
          ∨ ∃ path v entries duration, Baseline.save s ctx.config.baselineDir u = (.ok path, v)
            ∧ w' = v.logged entries
            ∧ r = .ok (.updated target (Number.ofNat s.symbols.size) path duration)) := by
  rcases bind_cases (show (produce ctx target >>= _) w = (r, w') from h) with
    ⟨s, u, hproduce, hsave⟩ | ⟨e, hproduce, hr⟩
  · refine Or.inr ⟨s, u, hproduce, ?_⟩
    rcases bind_cases hsave with ⟨path, v, hsaved, hrest⟩ | ⟨e, hsaved, hr⟩
    · cases hrest
      exact Or.inr ⟨path, v, _, _, hsaved, rfl, rfl⟩
    · exact Or.inl ⟨e, hsaved, hr⟩
  · exact Or.inl ⟨e, hproduce, hr⟩

section Check

variable {mode : Mode} {failOnAdditions : Bool} {stored : Snapshot} {e : Thrown}

theorem check_of_load_error (h : Baseline.load ctx.config.baselineDir target w = (.error e, w')) :
    check ctx target mode failOnAdditions w = (.error e, w') :=
  (bind_of_ok (now_eq w)).trans (bind_of_error h)

/-- A check with a baseline fails if there is no snapshot. -/
theorem check_of_produce_error
    (hload : Baseline.load ctx.config.baselineDir target w = (.ok stored, w))
    (h : produce ctx target w = (.error e, w')) :
    check ctx target mode failOnAdditions w = (.error e, w') :=
  (bind_of_ok (now_eq w)).trans ((bind_of_ok hload).trans (bind_of_error h))

/-- A check compares the baseline with the snapshot. -/
theorem check_of_produce {current : Snapshot}
    (hload : Baseline.load ctx.config.baselineDir target w = (.ok stored, w))
    (h : produce ctx target w = (.ok current, w')) :
    check ctx target mode failOnAdditions w
      = (.ok (.checked target (Policy.evaluate (Diff.between stored current) mode failOnAdditions)
          ((Diff.between stored current).changes stored current) (w'.clock.sub w.clock)),
        w'.logged [remarkOn target
          (Policy.evaluate (Diff.between stored current) mode failOnAdditions)]) :=
  (bind_of_ok (now_eq w)).trans ((bind_of_ok hload).trans (bind_of_ok h))

theorem check_cases {r : Except Thrown TargetResult}
    (h : check ctx target mode failOnAdditions w = (r, w')) :
    (∃ e, (Baseline.load ctx.config.baselineDir target w).1 = .error e ∧ w' = w ∧ r = .error e)
      ∨ ∃ stored, (Baseline.load ctx.config.baselineDir target w).1 = .ok stored
        ∧ ((∃ e, produce ctx target w = (.error e, w') ∧ r = .error e)
          ∨ ∃ current u entries duration, produce ctx target w = (.ok current, u)
            ∧ w' = u.logged entries
            ∧ r = .ok (.checked target
              (Policy.evaluate (Diff.between stored current) mode failOnAdditions)
              ((Diff.between stored current).changes stored current) duration)) := by
  have hload := (Baseline.reads_load ctx.config.baselineDir target).eq w
  cases hstored : (Baseline.load ctx.config.baselineDir target w).1 with
  | error e =>
    rw [hstored] at hload
    rw [check_of_load_error hload] at h
    cases h
    exact Or.inl ⟨e, rfl, rfl, rfl⟩
  | ok stored =>
    rw [hstored] at hload
    refine Or.inr ⟨stored, rfl, ?_⟩
    obtain ⟨end_, u, hproduce⟩ : ∃ end_ u, produce ctx target w = (end_, u) := ⟨_, _, rfl⟩
    cases end_ with
    | error e =>
      rw [check_of_produce_error hload hproduce] at h
      cases h
      exact Or.inl ⟨e, hproduce, rfl⟩
    | ok current =>
      rw [check_of_produce hload hproduce] at h
      cases h
      exact Or.inr ⟨current, u, _, _, hproduce, rfl, rfl⟩

end Check

/-! ## Turns -/

/-- The turn of a target in a run. -/
structure Turn where
  context : Context
  isUpdate : Bool
  mode : Mode
  failOnAdditions : Bool
  target : Text
  /-- The world in which the turn starts. -/
  world : World

namespace Turn

variable (t : Turn)

/-- How the turn ends. -/
def run : Except Thrown TargetResult × World :=
  runTarget t.context t.isUpdate t.mode t.failOnAdditions t.target t.world

/-- The world in which the target is updated or checked. -/
def opened : World := t.world.logged [.openGroup ("📋 Target: " ++ t.target)]

/-- What updating or checking the target comes to. -/
def work : Except Thrown TargetResult × World :=
  (if t.isUpdate then update t.context t.target
    else check t.context t.target t.mode t.failOnAdditions) t.opened

/-- A turn whose work succeeds ends with the result. -/
theorem run_of_ok {t : Turn} {result : TargetResult} {w : World} (h : t.work = (.ok result, w)) :
    t.run = (.ok result, w.logged [.closeGroup]) := by
  rw [run, runTarget, bind_of_ok (now_eq t.world)]
  exact group_eq (bind_of_ok (outcome_eq h))

/-- A turn whose work fails ends with a description of the failure. -/
theorem run_of_error {t : Turn} {e : Thrown} {info : ErrorInfo} {w : World}
    (h : t.work = (.error e, w)) (hinfo : e.describe = .ok info) :
    t.run = (.ok (.failed t.target info (w.clock.sub t.world.clock)),
      w.logged [.message .error (t.target ++ ": " ++ info.message), .closeGroup]) := by
  rw [run, runTarget, bind_of_ok (now_eq t.world), ← List.singleton_append, ← World.logged_logged]
  refine group_eq ((bind_of_ok (outcome_eq h)).trans ?_)
  simp only [hinfo]
  rfl

/-- A turn fails if its failure has no description. -/
theorem run_of_textless {t : Turn} {e : Thrown} {noText : NoText} {w : World}
    (h : t.work = (.error e, w)) (hnone : e.describe = .error noText) :
    t.run = (.error (.error noText.message), w.logged [.closeGroup]) := by
  rw [run, runTarget, bind_of_ok (now_eq t.world)]
  refine group_eq ((bind_of_ok (outcome_eq h)).trans ?_)
  simp only [hnone]
  rfl

/-- What a turn comes to, by what its work comes to. -/
theorem run_cases (t : Turn) :
    (∃ result w, t.work = (.ok result, w) ∧ t.run = (.ok result, w.logged [.closeGroup]))
      ∨ ∃ e w entries, t.work = (.error e, w) ∧ t.run.2 = w.logged entries
        ∧ ((∃ info duration, e.describe = .ok info ∧ t.run.1 = .ok (.failed t.target info duration))
          ∨ e.Textless ∧ ∃ e', t.run.1 = .error e') := by
  obtain ⟨r, w, hwork⟩ : ∃ r w, t.work = (r, w) := ⟨_, _, rfl⟩
  cases r with
  | ok result => exact Or.inl ⟨result, w, hwork, run_of_ok hwork⟩
  | error e =>
    right
    cases hdescribe : e.describe with
    | ok info =>
      have hrun := run_of_error hwork hdescribe
      exact ⟨e, w, _, hwork, by rw [hrun], Or.inl ⟨info, _, hdescribe, by rw [hrun]⟩⟩
    | error noText =>
      have hrun := run_of_textless hwork hdescribe
      have htextless : e.Textless := by
        by_contra h
        obtain ⟨info, hinfo⟩ := Thrown.describe_ok_iff.2 h
        rw [hdescribe] at hinfo
        cases hinfo
      exact ⟨e, w, _, hwork, by rw [hrun], Or.inr ⟨htextless, _, by rw [hrun]⟩⟩

theorem work_of_update {t : Turn} (h : t.isUpdate = true) :
    t.work = update t.context t.target t.opened := by
  rw [work, if_pos h]

theorem work_of_check {t : Turn} (h : t.isUpdate = false) :
    t.work = check t.context t.target t.mode t.failOnAdditions t.opened := by
  rw [work, if_neg (by simp [h])]

/-- The result of a turn: the target was updated, or checked by the policy, or it failed. -/
theorem result_cases {t : Turn} {result : TargetResult} (h : t.run.1 = .ok result) :
    (t.isUpdate = true ∧ ∃ count path duration, result = .updated t.target count path duration)
      ∨ (t.isUpdate = false ∧ ∃ stored current duration, result = .checked t.target
          (Policy.evaluate (Diff.between stored current) t.mode t.failOnAdditions)
          ((Diff.between stored current).changes stored current) duration)
      ∨ ∃ info duration, result = .failed t.target info duration := by
  rcases t.run_cases with ⟨result', w, hwork, hrun⟩ | ⟨e, w, -, -, -, hended⟩
  · rw [hrun, Except.ok.injEq] at h
    subst h
    cases hupdate : t.isUpdate with
    | true =>
      rw [work_of_update hupdate] at hwork
      rcases update_cases hwork with ⟨_, -, hr⟩ | ⟨s, u, -, ⟨_, -, hr⟩ | ⟨_, _, _, _, -, -, hr⟩⟩
      · cases hr
      · cases hr
      · cases hr
        exact Or.inl ⟨rfl, _, _, _, rfl⟩
    | false =>
      rw [work_of_check hupdate] at hwork
      rcases check_cases hwork with
        ⟨_, -, -, hr⟩ | ⟨_, -, ⟨_, -, hr⟩ | ⟨_, _, _, _, -, -, hr⟩⟩
      · cases hr
      · cases hr
      · cases hr
        exact Or.inr (Or.inl ⟨rfl, _, _, _, rfl⟩)
  · rcases hended with ⟨info, duration, -, hrun⟩ | ⟨-, e', hrun⟩
    · rw [hrun, Except.ok.injEq] at h
      exact Or.inr (Or.inr ⟨info, duration, h.symm⟩)
    · rw [hrun] at h
      cases h

/-- A result is one for the target of the turn. -/
theorem target_of_run {t : Turn} {result : TargetResult} (h : t.run.1 = .ok result) :
    result.target = t.target := by
  rcases result_cases h with ⟨-, _, _, _, rfl⟩ | ⟨-, _, _, _, rfl⟩ | ⟨_, _, rfl⟩ <;> rfl

end Turn

/-! ## Runs -/

/-- The turns of some targets, one after the other, up to one that fails. -/
def turnsFrom (ctx : Context) (isUpdate : Bool) (mode : Mode) (failOnAdditions : Bool) :
    List Text → World → List Turn
  | [], _ => []
  | target :: targets, w =>
    let turn : Turn := ⟨ctx, isUpdate, mode, failOnAdditions, target, w⟩
    turn :: match turn.run with
      | (.ok _, w) => turnsFrom ctx isUpdate mode failOnAdditions targets w
      | (.error _, _) => []

/-- The turns of a run. -/
def turns (ctx : Context) (options : RunOptions) (w : World) : List Turn :=
  turnsFrom ctx options.update (options.mode.getD ctx.config.mode)
    (options.failOnAdditions.getD ctx.config.failOnAdditions) ctx.config.targets w

section Cons

variable {isUpdate : Bool} {mode : Mode} {failOnAdditions : Bool} {targets : List Text}

/-- After a turn with a result the other targets have theirs. -/
theorem turnsFrom_of_ok {result : TargetResult}
    (h : Turn.run ⟨ctx, isUpdate, mode, failOnAdditions, target, w⟩ = (.ok result, w')) :
    turnsFrom ctx isUpdate mode failOnAdditions (target :: targets) w
      = ⟨ctx, isUpdate, mode, failOnAdditions, target, w⟩
        :: turnsFrom ctx isUpdate mode failOnAdditions targets w' := by
  rw [turnsFrom]
  simp only [h]

/-- A turn that fails is the last one. -/
theorem turnsFrom_of_error {e : Thrown}
    (h : Turn.run ⟨ctx, isUpdate, mode, failOnAdditions, target, w⟩ = (.error e, w')) :
    turnsFrom ctx isUpdate mode failOnAdditions (target :: targets) w
      = [⟨ctx, isUpdate, mode, failOnAdditions, target, w⟩] := by
  rw [turnsFrom]
  simp only [h]

end Cons

/-- All turns of a run have its context and its settings. -/
theorem settings_of_mem_turnsFrom {isUpdate : Bool} {mode : Mode} {failOnAdditions : Bool}
    {targets : List Text} {t : Turn}
    (h : t ∈ turnsFrom ctx isUpdate mode failOnAdditions targets w) :
    t = ⟨ctx, isUpdate, mode, failOnAdditions, t.target, t.world⟩ := by
  induction targets generalizing w with
  | nil => cases h
  | cons target targets ih =>
    rw [turnsFrom] at h
    rcases List.mem_cons.1 h with rfl | h
    · rfl
    · split at h
      · exact ih h
      · cases h

/-- The targets have all had their turn, each with its result, or the last turn taken failed. -/
theorem runTargets_cases {isUpdate : Bool} {mode : Mode} {failOnAdditions : Bool}
    {targets : List Text} {r : Except Thrown (List TargetResult)}
    (h : runTargets ctx isUpdate mode failOnAdditions targets w = (r, w')) :
    (∃ results, r = .ok results
        ∧ (turnsFrom ctx isUpdate mode failOnAdditions targets w).map Turn.target = targets
        ∧ List.Forall₂ (fun t result => t.run.1 = .ok result)
          (turnsFrom ctx isUpdate mode failOnAdditions targets w) results)
      ∨ ∃ e, r = .error e ∧ ∃ before t,
        turnsFrom ctx isUpdate mode failOnAdditions targets w = before ++ [t]
          ∧ (∀ s ∈ before, ∃ result, s.run.1 = .ok result) ∧ t.run.1 = .error e := by
  induction targets generalizing w r with
  | nil =>
    cases h
    exact Or.inl ⟨[], rfl, rfl, .nil⟩
  | cons target targets ih =>
    rcases bind_cases h with ⟨result, u, hturn, hrest⟩ | ⟨e, hturn, hr⟩
    · have hrun : Turn.run ⟨ctx, isUpdate, mode, failOnAdditions, target, w⟩ = (.ok result, u) :=
        hturn
      rw [turnsFrom_of_ok hrun]
      rcases bind_cases hrest with ⟨results, v, htargets, hdone⟩ | ⟨e, htargets, hr⟩
      · cases hdone
        rcases ih htargets with ⟨_, heq, hmap, hall⟩ | ⟨e, heq, -⟩
        · cases heq
          exact Or.inl ⟨_, rfl, by rw [List.map_cons, hmap], .cons (by rw [hrun]) hall⟩
        · cases heq
      · rcases ih htargets with ⟨_, heq, -⟩ | ⟨_, heq, before, t, hturns, hbefore, hfailed⟩
        · cases heq
        · cases heq
          refine Or.inr ⟨_, hr, _ :: before, t, by rw [hturns, List.cons_append], ?_, hfailed⟩
          exact List.forall_mem_cons.2 ⟨⟨result, by rw [hrun]⟩, hbefore⟩
    · have hrun : Turn.run ⟨ctx, isUpdate, mode, failOnAdditions, target, w⟩ = (.error e, w') :=
        hturn
      rw [turnsFrom_of_error hrun]
      exact Or.inr ⟨e, hr, [], _, rfl, List.forall_mem_nil _, by rw [hrun]⟩

variable {options : RunOptions} {results : List TargetResult}

/-- The part of a run in which the targets have their turns. -/
def runAll (ctx : Context) (options : RunOptions) : Task (List TargetResult) :=
  runTargets ctx options.update (options.mode.getD ctx.config.mode)
    (options.failOnAdditions.getD ctx.config.failOnAdditions) ctx.config.targets

/-- The targets have all had their turn, each with its result, or the last turn taken failed. -/
theorem runAll_cases (ctx : Context) (options : RunOptions) (w : World) :
    (∃ results w', runAll ctx options w = (.ok results, w')
        ∧ (turns ctx options w).map Turn.target = ctx.config.targets
        ∧ List.Forall₂ (fun t result => t.run.1 = .ok result) (turns ctx options w) results)
      ∨ ∃ e w', runAll ctx options w = (.error e, w') ∧ ∃ before t,
        turns ctx options w = before ++ [t] ∧ (∀ s ∈ before, ∃ result, s.run.1 = .ok result)
          ∧ t.run.1 = .error e := by
  obtain ⟨r, w', h⟩ : ∃ r w', runAll ctx options w = (r, w') := ⟨_, _, rfl⟩
  rcases runTargets_cases h with ⟨results, hr, hall⟩ | ⟨e, hr, hlast⟩
  · exact Or.inl ⟨results, w', by rw [h, hr], hall⟩
  · exact Or.inr ⟨e, w', by rw [h, hr], hlast⟩

/-- A run returns the results of its targets, with the time at its end. -/
theorem run_of_ok {generatedAt : Text} (h : runAll ctx options w = (.ok results, w'))
    (htext : Timestamp.text? w'.clock = some generatedAt) :
    run ctx options w = (.ok
      { generatedAt, update := options.update, mode := options.mode.getD ctx.config.mode,
        failOnAdditions := options.failOnAdditions.getD ctx.config.failOnAdditions, results,
        passed := results.all TargetResult.isPassing }, w') := by
  refine (bind_of_ok h).trans ?_
  rw [bind_of_ok (now_eq w'), htext]
  rfl

/-- A run fails at its end if the time has no text. -/
theorem run_of_no_text (h : runAll ctx options w = (.ok results, w'))
    (htext : Timestamp.text? w'.clock = none) :
    run ctx options w = (.error (.error Timestamp.invalid), w') := by
  refine (bind_of_ok h).trans ?_
  rw [bind_of_ok (now_eq w'), htext]
  rfl

/-- A run fails if the turn of a target does. -/
theorem run_of_error {e : Thrown} (h : runAll ctx options w = (.error e, w')) :
    run ctx options w = (.error e, w') := bind_of_error h

/-- What a run returns was put together from the results of the turns of all targets. -/
theorem cases_of_run_ok {r : RunResult} (h : (run ctx options w).1 = .ok r) :
    r.update = options.update ∧ r.passed = r.results.all TargetResult.isPassing
      ∧ (∃ clock, Timestamp.text? clock = some r.generatedAt)
      ∧ (turns ctx options w).map Turn.target = ctx.config.targets
      ∧ List.Forall₂ (fun t result => t.run.1 = .ok result) (turns ctx options w) r.results := by
  rcases runAll_cases ctx options w with ⟨results, w', hall, hturns⟩ | ⟨e, w', hall, -⟩
  · cases htext : Timestamp.text? w'.clock with
    | some generatedAt =>
      rw [run_of_ok hall htext] at h
      cases h
      exact ⟨rfl, rfl, ⟨_, htext⟩, hturns⟩
    | none =>
      rw [run_of_no_text hall htext] at h
      cases h
  · rw [run_of_error hall] at h
    cases h

end Guard

end SurfaceGuard
