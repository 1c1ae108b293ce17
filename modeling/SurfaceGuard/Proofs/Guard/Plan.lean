import SurfaceGuard.Proofs.Baseline.Slots
import SurfaceGuard.Proofs.Guard.Turn

/-!
# What a run comes to

A run whose exporter answers for each target alone, and whose writes do not fail, comes to
something that is put together target by target.  No turn sees what another one did: a check
changes nothing, and an update changes the slot of its target (`Plan.Steps`).  So the results are
`Plan.result` of the targets, in their order, and a slot is changed by the targets with its bytes
and by no others (`Plan.run_of_fits`).
-/

open SurfaceGuard.Task

namespace SurfaceGuard

/-- How what was thrown is described, or why it has no description. -/
def Thrown.info (e : Thrown) : ErrorInfo :=
  match e.describe with
  | .ok info => info
  | .error noText => ⟨.unexpected, noText.message⟩

theorem Thrown.describe_eq {e : Thrown} (h : ¬e.Textless) : e.describe = .ok e.info := by
  obtain ⟨info, hinfo⟩ := describe_ok_iff.2 h
  rw [Thrown.info, hinfo]

namespace Guard

open Baseline Baseline.Writers

/-! ## Leaving the baselines alone -/

/-- From one world to the other the entries of a directory and the ways to its baselines stay as
they are. -/
structure Aside (dir : Text) (w w' : World) : Prop where
  stays : w.Stays w'
  there : ∀ target, Path.separator ∉ target → there? dir target w' = there? dir target w
  entries : ∀ name, Path.IsName name → w'.files.face? (entryAt w.directory dir name)
    = w.files.face? (entryAt w.directory dir name)

namespace Aside

variable {dir target : Text} {u w w' : World}

theorem refl (dir : Text) (w : World) : Aside dir w w :=
  ⟨.refl w, fun _ _ => rfl, fun _ _ => rfl⟩

theorem trans (h : Aside dir w u) (h' : Aside dir u w') : Aside dir w w' := by
  refine ⟨h.stays.trans h'.stays, fun target ht => ?_, fun name hname => ?_⟩
  · rw [h'.there target ht, h.there target ht]
  · rw [← h.entries name hname, ← h.stays.directory, h'.entries name hname]

theorem logged (h : Aside dir w w') (entries : List Entry) : Aside dir w (w'.logged entries) :=
  ⟨⟨h.stays.directory, h.stays.clock, h.stays.processId⟩, h.there, h.entries⟩

theorem load (h : Aside dir w w') (ht : Path.separator ∉ target) :
    (Baseline.load dir target w').1 = (Baseline.load dir target w).1 :=
  load_congr (h.there target ht)

theorem slot (h : Aside dir w w') (ht : Path.separator ∉ target) :
    Baseline.slot dir w' target = Baseline.slot dir w target := by
  unfold Baseline.slot FileTree.isBlocked
  rw [h.stays.directory, h.stays.processId, h.stays.clock, held_eq ht, held_eq ht,
    FileTree.content?_eq, FileTree.content?_eq, h.entries _ (isName_fileName ht),
    h.entries _ (isName_temporaryName ht _ _)]

end Aside

/-! ## Plans -/

/-- An export ends with an answer: it throws, or its file has the text. -/
def Answers (answer : Except Thrown (Text × Text)) (ended : Except Thrown Text × World) : Prop :=
  match answer with
  | .error e => ended.1 = .error e
  | .ok (file, text) => ended.1 = .ok file ∧ reading ended.2 file = .ok text

/-- The exporter gives its answer in the turn and leaves the baselines alone, and what is stored
in the turn can be written. -/
structure Turn.Regular (t : Turn) (answer : Text → Except Thrown (Text × Text)) : Prop where
  answers : Answers (answer t.target) (t.context.exporter t.target t.opened)
  aside : Aside t.context.config.baselineDir t.opened (t.context.exporter t.target t.opened).2
  writes : t.isUpdate = true → ∀ s u, produce t.context t.target t.opened = (.ok s, u) →
    ∃ file v, Baseline.save s t.context.config.baselineDir u = (.ok file, v)

/-- What a run has before it. -/
structure Plan where
  context : Context
  options : RunOptions
  world : World
  /-- The file in which the exporter leaves the graph of a target and the text in it, or what the
  exporter throws. -/
  answer : Text → Except Thrown (Text × Text)

namespace Plan

variable (p : Plan)

def targets : List Text := p.context.config.targets

def directory : Text := p.context.config.baselineDir

def mode : Mode := p.options.mode.getD p.context.config.mode

def failOnAdditions : Bool := p.options.failOnAdditions.getD p.context.config.failOnAdditions

/-- The turn of a target in a world. -/
def turn (target : Text) (w : World) : Turn :=
  ⟨p.context, p.options.update, p.mode, p.failOnAdditions, target, w⟩

/-- What the run does. -/
def run : Except Thrown RunResult × World := Guard.run p.context p.options p.world

/-- The targets are names, only errors with a description are thrown, and every turn is regular. -/
structure Fits : Prop where
  names : ∀ target ∈ p.targets, Path.separator ∉ target
  described : ∀ target ∈ p.targets, ∀ e, p.answer target = .error e → ¬e.Textless
  regular : ∀ t ∈ turns p.context p.options p.world, t.Regular p.answer

/-! ## What a target comes to -/

/-- The snapshot of what an exporter answers for a target. -/
def snapshotFrom (target : Text) (answer : Except Thrown (Text × Text)) : Except Thrown Snapshot :=
  match answer with
  | .error e => .error e
  | .ok (file, text) =>
    match (Graph.parse text file).mapError Thrown.guard with
    | .error e => .error e
    | .ok graph => stamped (graph.snapshot? target (p.context.now?.getD p.world.clock))

/-- The snapshot of a target. -/
def snapshot (target : Text) : Except Thrown Snapshot :=
  p.snapshotFrom target (p.answer target)

/-- How the work on a target ends. -/
def outcome (target : Text) : Except Thrown TargetResult :=
  let duration := p.world.clock.sub p.world.clock
  if p.options.update then
    match p.snapshot target with
    | .error e => .error e
    | .ok s => .ok (.updated target (Number.ofNat s.symbols.size)
        (Baseline.path p.directory target) duration)
  else
    match (Baseline.load p.directory target p.world).1 with
    | .error e => .error e
    | .ok before =>
      match p.snapshot target with
      | .error e => .error e
      | .ok after =>
        let diff := Diff.between before after
        .ok (.checked target (Policy.evaluate diff p.mode p.failOnAdditions)
          (diff.changes before after) duration)

/-- The result for a target. -/
def result (target : Text) : TargetResult :=
  match p.outcome target with
  | .ok result => result
  | .error e => .failed target e.info (p.world.clock.sub p.world.clock)

/-- What a target makes of a slot with its bytes. -/
def effect (target : Text) (x : Slot) : Slot :=
  if p.options.update then
    match p.snapshot target with
    | .error _ => x
    | .ok s => x.store s
  else x

variable {p} {target : Text} {w : World}

theorem effect_of_check (h : p.options.update = false) (target : Text) (x : Slot) :
    p.effect target x = x := by
  unfold effect
  rw [if_neg (by rw [h]; exact Bool.false_ne_true)]

/-! ## One turn -/

theorem target_of_snapshot {s : Snapshot} (h : p.snapshot target = .ok s) : s.target = target := by
  unfold snapshot snapshotFrom at h
  split at h
  · cases h
  · split at h
    · cases h
    · exact Graph.target_of_snapshot? (stamped_eq_ok_iff.1 h)

/-- There is no snapshot if none is exported, and otherwise only for reasons that have a text. -/
theorem not_textless_of_snapshot (hp : p.Fits) (ht : target ∈ p.targets) {e : Thrown}
    (h : p.snapshot target = .error e) : ¬e.Textless := by
  unfold snapshot snapshotFrom at h
  cases hanswer : p.answer target with
  | error e' =>
    rw [hanswer] at h
    cases h
    exact hp.described target ht e hanswer
  | ok graph =>
    rw [hanswer] at h
    dsimp only at h
    cases hparse : (Graph.parse graph.2 graph.1).mapError Thrown.guard with
    | error e' =>
      rw [hparse] at h
      cases h
      obtain ⟨_, -, rfl⟩ := mapError_eq_error_iff.1 hparse
      exact id
    | ok read =>
      rw [hparse] at h
      exact not_textless_of_stamped h

theorem not_textless_of_outcome (hp : p.Fits) (ht : target ∈ p.targets) {e : Thrown}
    (h : p.outcome target = .error e) : ¬e.Textless := by
  unfold outcome at h
  split at h
  · split at h
    · next hs => cases h; exact not_textless_of_snapshot hp ht hs
    · cases h
  · split at h
    · next hload =>
      cases h
      exact Baseline.reports_load _ _ p.world e _ (Prod.ext hload rfl)
    · split at h
      · next hs => cases h; exact not_textless_of_snapshot hp ht hs
      · cases h

/-- A regular turn makes the snapshot of the answer, and leaves the baselines alone until then. -/
theorem produce_eq (hregular : (p.turn target w).Regular p.answer)
    (hstays : p.world.Stays w) : ∃ u,
      produce p.context target (p.turn target w).opened = (p.snapshot target, u)
        ∧ Aside p.directory w u := by
  obtain ⟨end_, v, hexport⟩ : ∃ end_ v,
      p.context.exporter target (p.turn target w).opened = (end_, v) := ⟨_, _, rfl⟩
  have hanswers : Answers (p.answer target)
    (p.context.exporter target (p.turn target w).opened) := hregular.answers
  have hexporter : Aside p.directory (p.turn target w).opened
    (p.context.exporter target (p.turn target w).opened).2 := hregular.aside
  rw [hexport] at hanswers hexporter
  have haside : Aside p.directory w v := ((Aside.refl p.directory w).logged _).trans hexporter
  unfold snapshot snapshotFrom
  cases hanswer : p.answer target with
  | error e =>
    rw [hanswer] at hanswers
    obtain rfl : end_ = .error e := hanswers
    exact ⟨v, produce_of_exporter_error hexport, haside⟩
  | ok graph =>
    obtain ⟨file, text⟩ := graph
    rw [hanswer] at hanswers
    obtain ⟨rfl, hreading⟩ : end_ = .ok file ∧ reading v file = .ok text := hanswers
    have hread : (Export.readGraph target file v).1 = (Graph.parse text file).mapError .guard := by
      rw [Export.readGraph_eq, hreading]
    dsimp only
    cases hparse : (Graph.parse text file).mapError Thrown.guard with
    | error e => exact ⟨v, produce_of_graph_error hexport (hread.trans hparse), haside⟩
    | ok graph =>
      refine ⟨_, ?_, haside.logged (graph.remarks target)⟩
      rw [produce_of_graph hexport (hread.trans hparse), haside.stays.clock, hstays.clock]

/-- What a turn does to the baselines: after a check everything is found as before, and the slots
with the bytes of the target are changed as the target says. -/
structure Steps (p : Plan) (target : Text) (w w' : World) : Prop where
  stays : w.Stays w'
  there : p.options.update = false → ∀ other, Path.separator ∉ other →
    there? p.directory other w' = there? p.directory other w
  slots : ∀ other, Path.separator ∉ other → slot p.directory w' other
    = if Utf8.encode target = Utf8.encode other then p.effect target (slot p.directory w other)
      else slot p.directory w other

theorem Steps.logged {w' : World} (h : p.Steps target w w') (entries : List Entry) :
    p.Steps target w (w'.logged entries) :=
  ⟨⟨h.stays.directory, h.stays.clock, h.stays.processId⟩, h.there, h.slots⟩

theorem steps_of_aside {w' : World} (h : Aside p.directory w w')
    (heffect : ∀ x, p.effect target x = x) : p.Steps target w w' := by
  refine ⟨h.stays, fun _ => h.there, fun other hother => ?_⟩
  rw [heffect, h.slot hother, ite_self]

/-- The update of a regular turn ends as the plan says. -/
theorem work_of_update (hp : p.Fits) (ht : target ∈ p.targets)
    (hregular : (p.turn target w).Regular p.answer) (hstays : p.world.Stays w)
    (hupdate : p.options.update = true) :
    ∃ u, (p.turn target w).work = (p.outcome target, u) ∧ p.Steps target w u := by
  obtain ⟨u, hproduce, haside⟩ := produce_eq hregular hstays
  have hwork : (p.turn target w).work = update p.context target (p.turn target w).opened :=
    Turn.work_of_update hupdate
  rw [outcome, if_pos hupdate, hwork]
  cases hs : p.snapshot target with
  | error e =>
    rw [hs] at hproduce
    refine ⟨u, update_of_produce_error hproduce, steps_of_aside haside fun x => ?_⟩
    rw [effect, if_pos hupdate, hs]
  | ok s =>
    rw [hs] at hproduce
    obtain ⟨file, v, hsave⟩ := hregular.writes hupdate s u hproduce
    have hsave : Baseline.save s p.directory u = (.ok file, v) := hsave
    obtain ⟨hfile, made, node, hstored⟩ := save_ok_cases hsave
    have hsame : s.target = target := target_of_snapshot hs
    have hstarted : (p.turn target w).opened.clock = p.world.clock := hstays.clock
    have hended : v.clock = p.world.clock := by
      rw [hstored.stays.clock, haside.stays.clock, hstays.clock]
    have hdone := update_of_save hproduce hsave
    rw [hended, hstarted, hfile, hsame] at hdone
    have hsteps : p.Steps target w v := by
      refine ⟨haside.stays.trans hstored.stays, fun hcheck => ?_, fun other hother => ?_⟩
      · rw [hupdate] at hcheck
        cases hcheck
      · rw [slot_of_save hsave (hsame ▸ hp.names target ht) hother, haside.slot hother, hsame,
          effect, if_pos hupdate, hs]
    exact ⟨_, hdone, hsteps.logged _⟩

/-- The check of a regular turn ends as the plan says. -/
theorem work_of_check (hregular : (p.turn target w).Regular p.answer) (hstays : p.world.Stays w)
    (hcheck : p.options.update = false)
    (hthere : there? p.directory target w = there? p.directory target p.world) :
    ∃ u, (p.turn target w).work = (p.outcome target, u) ∧ p.Steps target w u := by
  obtain ⟨u, hproduce, haside⟩ := produce_eq hregular hstays
  have hneg : ¬p.options.update = true := by rw [hcheck]; exact Bool.false_ne_true
  have heffect := effect_of_check hcheck target
  have hwork : (p.turn target w).work
      = check p.context target p.mode p.failOnAdditions (p.turn target w).opened :=
    Turn.work_of_check hcheck
  have hloaded : (Baseline.load p.directory target (p.turn target w).opened).1
      = (Baseline.load p.directory target p.world).1 := load_congr hthere
  have hload := (reads_load p.directory target).eq (p.turn target w).opened
  rw [hloaded] at hload
  rw [outcome, if_neg hneg, hwork]
  cases hstored : (Baseline.load p.directory target p.world).1 with
  | error e =>
    rw [hstored] at hload
    have hopened : Aside p.directory w (p.turn target w).opened := (Aside.refl _ w).logged _
    exact ⟨_, check_of_load_error hload, steps_of_aside hopened heffect⟩
  | ok before =>
    rw [hstored] at hload
    cases hs : p.snapshot target with
    | error e =>
      rw [hs] at hproduce
      exact ⟨u, check_of_produce_error hload hproduce, steps_of_aside haside heffect⟩
    | ok after =>
      rw [hs] at hproduce
      have hstarted : (p.turn target w).opened.clock = p.world.clock := hstays.clock
      have hdone : check p.context target p.mode p.failOnAdditions (p.turn target w).opened = _ :=
        check_of_produce hload hproduce
      rw [hstarted, haside.stays.clock, hstays.clock] at hdone
      exact ⟨_, hdone, (steps_of_aside haside heffect).logged _⟩

/-- The work of a regular turn ends as the plan says. -/
theorem work_turn (hp : p.Fits) (ht : target ∈ p.targets)
    (hregular : (p.turn target w).Regular p.answer) (hstays : p.world.Stays w)
    (hthere : p.options.update = false →
      there? p.directory target w = there? p.directory target p.world) :
    ∃ u, (p.turn target w).work = (p.outcome target, u) ∧ p.Steps target w u := by
  cases hupdate : p.options.update with
  | true => exact work_of_update hp ht hregular hstays hupdate
  | false => exact work_of_check hregular hstays hupdate (hthere hupdate)

/-- A regular turn ends with the result of the plan. -/
theorem run_turn (hp : p.Fits) (ht : target ∈ p.targets)
    (hregular : (p.turn target w).Regular p.answer) (hstays : p.world.Stays w)
    (hthere : p.options.update = false →
      there? p.directory target w = there? p.directory target p.world) :
    ∃ w', (p.turn target w).run = (.ok (p.result target), w') ∧ p.Steps target w w' := by
  obtain ⟨u, hwork, hsteps⟩ := work_turn hp ht hregular hstays hthere
  unfold result
  cases houtcome : p.outcome target with
  | ok result =>
    rw [houtcome] at hwork
    exact ⟨_, Turn.run_of_ok hwork, hsteps.logged _⟩
  | error e =>
    rw [houtcome] at hwork
    have hinfo := Thrown.describe_eq (not_textless_of_outcome hp ht houtcome)
    have hrun := Turn.run_of_error hwork hinfo
    have hopened : (p.turn target w).world.clock = p.world.clock := hstays.clock
    rw [hsteps.stays.clock, hopened, hstays.clock] at hrun
    exact ⟨_, hrun, hsteps.logged _⟩

/-! ## The whole run -/

variable (p) in
/-- What becomes of the slot of a target in the turns of some targets. -/
def slotAfter (done : List Text) (target : Text) : Slot :=
  (done.filter fun t => decide (Utf8.encode t = Utf8.encode target)).foldl (fun x t => p.effect t x)
    (slot p.directory p.world target)

theorem slotAfter_concat (done : List Text) (t other : Text) : p.slotAfter (done ++ [t]) other
    = if Utf8.encode t = Utf8.encode other then p.effect t (p.slotAfter done other)
      else p.slotAfter done other := by
  unfold slotAfter
  rw [List.filter_append, List.foldl_append, List.filter_singleton]
  by_cases h : Utf8.encode t = Utf8.encode other
  · rw [if_pos h, decide_eq_true h]
    rfl
  · rw [if_neg h, decide_eq_false h]
    rfl

/-- What the world is after the turns of some targets. -/
structure Reached (p : Plan) (done : List Text) (w : World) : Prop where
  stays : p.world.Stays w
  there : p.options.update = false → ∀ target, Path.separator ∉ target →
    there? p.directory target w = there? p.directory target p.world
  slots : ∀ target, Path.separator ∉ target → slot p.directory w target = p.slotAfter done target

variable (p) in
theorem Reached.start : p.Reached [] p.world := ⟨.refl _, fun _ _ _ => rfl, fun _ _ => rfl⟩

theorem Reached.turn {done : List Text} {w' : World} (h : p.Reached done w)
    (hsteps : p.Steps target w w') : p.Reached (done ++ [target]) w' := by
  refine ⟨h.stays.trans hsteps.stays, fun hcheck other hother => ?_, fun other hother => ?_⟩
  · rw [hsteps.there hcheck other hother, h.there hcheck other hother]
  · rw [hsteps.slots other hother, h.slots other hother, slotAfter_concat]

/-- The targets that are left have their turns, each with the result of the plan. -/
theorem runTargets_eq (hp : p.Fits) {done left : List Text} (hleft : ∀ t ∈ left, t ∈ p.targets)
    (hregular : ∀ t ∈ turnsFrom p.context p.options.update p.mode p.failOnAdditions left w,
      t.Regular p.answer) (h : p.Reached done w) :
    ∃ w', runTargets p.context p.options.update p.mode p.failOnAdditions left w
      = (.ok (left.map p.result), w') ∧ p.Reached (done ++ left) w' := by
  -- `hregular` is about the turns that are really taken: which turns come after the first one is
  -- only known once that one has its result.
  induction left generalizing done w with
  | nil => exact ⟨w, rfl, by rwa [List.append_nil]⟩
  | cons target left ih =>
    obtain ⟨htarget, hleft⟩ := List.forall_mem_cons.1 hleft
    have hturn : (p.turn target w).Regular p.answer := hregular _ (by
      rw [turnsFrom]
      exact List.mem_cons_self)
    obtain ⟨u, hrun, hsteps⟩ := run_turn hp htarget hturn h.stays fun hcheck =>
      h.there hcheck target (hp.names target htarget)
    rw [turnsFrom_of_ok hrun] at hregular
    obtain ⟨w', hrest, hreached⟩ := ih hleft (List.forall_mem_cons.1 hregular).2 (h.turn hsteps)
    refine ⟨w', ?_, by rwa [List.append_assoc] at hreached⟩
    exact (bind_of_ok hrun).trans (bind_of_ok hrest)

variable (p) in
/-- How the run ends if every target has its result. -/
def ended : Except Thrown RunResult :=
  match Timestamp.text? p.world.clock with
  | none => .error (.error Timestamp.invalid)
  | some generatedAt => .ok
    { generatedAt, update := p.options.update, mode := p.mode, failOnAdditions := p.failOnAdditions,
      results := p.targets.map p.result,
      passed := (p.targets.map p.result).all TargetResult.isPassing }

/-- A run comes to what the plan says, target by target. -/
theorem run_of_fits (hp : p.Fits) : p.run.1 = p.ended ∧ p.Reached p.targets p.run.2 := by
  obtain ⟨w', hall, hreached⟩ :=
    runTargets_eq hp (fun _ h => h) hp.regular (Reached.start p)
  have hall : runAll p.context p.options p.world = (.ok (p.targets.map p.result), w') := hall
  have hclock : w'.clock = p.world.clock := hreached.stays.clock
  unfold run ended
  cases htext : Timestamp.text? p.world.clock with
  | none =>
    rw [run_of_no_text hall (hclock ▸ htext)]
    exact ⟨rfl, hreached⟩
  | some generatedAt =>
    rw [run_of_ok hall (hclock ▸ htext)]
    exact ⟨rfl, hreached⟩

/-- The baseline of a target after the run. -/
theorem held_of_fits (hp : p.Fits) (h : Path.separator ∉ target) :
    held p.world.directory p.directory p.run.2.files target
      = (p.slotAfter p.targets target).content := by
  obtain ⟨-, hreached⟩ := run_of_fits hp
  rw [← hreached.slots target h, ← hreached.stays.directory]
  rfl

end Plan

end Guard

end SurfaceGuard
