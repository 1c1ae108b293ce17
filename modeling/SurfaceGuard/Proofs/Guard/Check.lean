import SurfaceGuard.Proofs.Guard.Turn

/-!
# What a check comes to

A check whose exporter only answers and records has a pure description: the verdict on a
target is a function of its baseline and of the answer, and a run puts the verdicts of all
targets in a row.
-/

open SurfaceGuard.Task

namespace SurfaceGuard

/-- A text that is no baseline is a malformed one. -/
theorem Baseline.kind_of_decode_error {text source : Text} {e : GuardError}
    (h : Baseline.decode text source = .error e) : e.kind = .malformedBaseline := by
  rw [Baseline.decode] at h
  split at h
  · cases h
    rfl
  · split at h
    · cases h
    · cases h
      rfl

/-- A text that is no symbol graph is a malformed export. -/
theorem Graph.kind_of_parse_error {text source : Text} {e : GuardError}
    (h : Graph.parse text source = .error e) : e.kind = .malformedExport := by
  rw [Graph.parse] at h
  split at h
  · cases h
    rfl
  · split at h
    · cases h
    · cases h
      rfl

namespace Guard

/-- What a run that checks has before it, as plain data. -/
structure Check where
  context : Context
  options : RunOptions
  world : World
  /-- The content of the baseline of a target, if there is one. -/
  baseline : Text → Option Bytes
  /-- The file in which the exporter leaves the graph of a target, or what it throws. -/
  answer : Text → Except Thrown Text
  /-- What the exporter records when it is asked for a target. -/
  mark : Text → List Entry
  /-- The time that snapshots are stamped with. -/
  createdAt : Text
  /-- The time of the clock. -/
  generatedAt : Text

namespace Check

variable (c : Check)

/-- The targets of the run. -/
def targets : List Text := c.context.config.targets

/-- The mode of the run: the one it is asked for, or else that of the configuration. -/
def mode : Mode :=
  match c.options.mode with
  | some mode => mode
  | none => c.context.config.mode

/-- Are additions ruled out?  Also a run that is asked to allow them overrules the configuration. -/
def failOnAdditions : Bool :=
  match c.options.failOnAdditions with
  | some failOnAdditions => failOnAdditions
  | none => c.context.config.failOnAdditions

/-- The path of the baseline of a target. -/
def file (target : Text) : Text := Baseline.path c.context.config.baselineDir target

/-- The data is what the run finds: each baseline is absent or can be read, and the exporter answers
for each target and changes nothing but the log. -/
structure Fits : Prop where
  isCheck : c.options.update = false
  absent : ∀ target ∈ c.targets, c.baseline target = none →
    pathExists (c.file target) c.world = (.ok false, c.world)
  readable : ∀ target ∈ c.targets, ∀ content, c.baseline target = some content →
    pathExists (c.file target) c.world = (.ok true, c.world)
      ∧ c.world.files.readFile c.world.directory (Utf8.encode (c.file target)) = .ok content
  exporter : ∀ target w, c.context.exporter target w = (c.answer target, w.logged (c.mark target))
  described : ∀ target e, c.answer target = .error e → ¬e.Textless
  createdAt : Timestamp.text? (c.context.now?.getD c.world.clock) = some c.createdAt
  generatedAt : Timestamp.text? c.world.clock = some c.generatedAt

/-! ## The description -/

/-- The baseline of a target, which has to be there and to be well-formed. -/
def stored (target : Text) : Except Thrown Snapshot :=
  match c.baseline target with
  | none => .error (.guard (.baselineMissing target (c.file target)))
  | some content => (Baseline.decode (Utf8.decode content) (c.file target)).mapError .guard

/-- The graph of a target, which has to be exported, readable and well-formed. -/
def exported (target : Text) : Except Thrown Graph :=
  match c.answer target with
  | .error e => .error e
  | .ok file =>
    match reading c.world file with
    | .error reason => .error (.guard (.exportUnavailable target
        ("Cannot read symbol graph " ++ file ++ ": " ++ reason) []))
    | .ok text => (Graph.parse text file).mapError .guard

/-- The decision on a target and the changes to show with it. -/
def judge (target : Text) (before : Snapshot) (graph : Graph) : Decision × List SignatureChange :=
  let after : Snapshot := ⟨target, c.createdAt, graph.table⟩
  let diff := Diff.between before after
  (Policy.evaluate diff c.mode c.failOnAdditions, diff.changes before after)

/-- The result for a target, the first failure before all others. -/
def result (target : Text) : Except NoText TargetResult :=
  let duration := c.world.clock.sub c.world.clock
  match c.stored target with
  | .error e => e.describe.map (.failed target · duration)
  | .ok before =>
    match c.exported target with
    | .error e => e.describe.map (.failed target · duration)
    | .ok graph =>
      let (decision, changes) := c.judge target before graph
      .ok (.checked target decision changes duration)

/-- What is recorded of a failure. -/
def complaint (target : Text) (e : Thrown) : List Entry :=
  match e.describe with
  | .ok info => [.message .error (target ++ ": " ++ info.message)]
  | .error _ => []

/-- What is recorded of a target.  The exporter has its part exactly if the baseline is there and
well-formed. -/
def entries (target : Text) : List Entry :=
  .openGroup ("📋 Target: " ++ target) :: (match c.stored target with
    | .error e => complaint target e
    | .ok before => c.mark target ++ match c.exported target with
      | .error e => complaint target e
      | .ok graph => graph.remarks target ++ [remarkOn target (c.judge target before graph).1])
    ++ [.closeGroup]

/-! ## The steps of a check -/

variable {c} {target : Text} {e : Thrown}

theorem exists_info_of_stored (h : c.stored target = .error e) : ∃ info, e.describe = .ok info := by
  rw [stored] at h
  split at h
  · cases h
    exact ⟨_, rfl⟩
  · obtain ⟨_, -, rfl⟩ := mapError_eq_error_iff.1 h
    exact ⟨_, rfl⟩

theorem exists_info_of_exported (hc : c.Fits) (h : c.exported target = .error e) :
    ∃ info, e.describe = .ok info := by
  rw [exported] at h
  split at h
  · next e' he =>
    cases h
    exact Thrown.describe_ok_iff.2 (hc.described target e he)
  · next file _ =>
    split at h
    · cases h
      exact ⟨_, rfl⟩
    · obtain ⟨_, -, rfl⟩ := mapError_eq_error_iff.1 h
      exact ⟨_, rfl⟩

/-- The baseline is loaded as it was stored, whatever was recorded before. -/
theorem load_eq (hc : c.Fits) (ht : target ∈ c.targets) (es : List Entry) :
    Baseline.load c.context.config.baselineDir target (c.world.logged es)
      = (c.stored target, c.world.logged es) := by
  rw [stored]
  cases hbaseline : c.baseline target with
  | none =>
    have habsent := congrArg Prod.fst (hc.absent target ht hbaseline)
    exact Baseline.load_of_absent (Prod.ext habsent rfl)
  | some content =>
    obtain ⟨hthere, hread⟩ := hc.readable target ht content hbaseline
    have hexists := congrArg Prod.fst hthere
    exact Baseline.load_of_readable (Prod.ext hexists rfl) hread

/-- The snapshot is made of the graph that is exported, after the exporter had its part. -/
theorem produce_eq (hc : c.Fits) (target : Text) (es : List Entry) :
    produce c.context target (c.world.logged es) = match c.exported target with
      | .error e => (.error e, c.world.logged (es ++ c.mark target))
      | .ok graph => (.ok ⟨target, c.createdAt, graph.table⟩,
          c.world.logged (es ++ c.mark target ++ graph.remarks target)) := by
  have hexport := hc.exporter target (c.world.logged es)
  rw [World.logged_logged] at hexport
  cases hanswer : c.answer target with
  | error e =>
    rw [hanswer] at hexport
    rw [exported, hanswer]
    exact produce_of_exporter_error hexport
  | ok file =>
    rw [hanswer] at hexport
    have hread : (Export.readGraph target file (c.world.logged (es ++ c.mark target))).1
        = c.exported target := by
      have hreading : reading (c.world.logged (es ++ c.mark target)) file = reading c.world file :=
        rfl
      simp only [Export.readGraph_eq, exported, hanswer, hreading]
      cases reading c.world file <;> rfl
    cases hexported : c.exported target with
    | error e => exact produce_of_graph_error hexport (hread.trans hexported)
    | ok graph =>
      rw [produce_of_graph hexport (hread.trans hexported), World.logged_clock, Graph.snapshot?,
        hc.createdAt, World.logged_logged]
      rfl

/-- A turn of a check ends with the result for its target, and records its entries. -/
theorem run_turn (hc : c.Fits) (ht : target ∈ c.targets) (es : List Entry) :
    ∃ result, c.result target = .ok result
      ∧ Turn.run ⟨c.context, false, c.mode, c.failOnAdditions, target, c.world.logged es⟩
        = (.ok result, c.world.logged (es ++ c.entries target)) := by
  let t : Turn := ⟨c.context, false, c.mode, c.failOnAdditions, target, c.world.logged es⟩
  let opening : Entry := .openGroup ("📋 Target: " ++ target)
  have hopened : t.opened = c.world.logged (es ++ [opening]) := World.logged_logged ..
  have hload := load_eq hc ht (es ++ [opening])
  have hproduce := produce_eq hc target (es ++ [opening])
  have hwork : t.work = check c.context target c.mode c.failOnAdditions
      (c.world.logged (es ++ [opening])) := by
    rw [Turn.work_of_check rfl, hopened]
  rw [result, entries]
  cases hstored : c.stored target with
  | error e =>
    rw [hstored] at hload
    rw [check_of_load_error hload] at hwork
    obtain ⟨info, hinfo⟩ := exists_info_of_stored hstored
    refine ⟨.failed target info _, by simp only [hinfo]; rfl, ?_⟩
    rw [Turn.run_of_error hwork hinfo]
    simp [complaint, hinfo, opening, t]
  | ok before =>
    rw [hstored] at hload
    cases hexported : c.exported target with
    | error e =>
      rw [hexported] at hproduce
      rw [check_of_produce_error hload hproduce] at hwork
      obtain ⟨info, hinfo⟩ := exists_info_of_exported hc hexported
      refine ⟨.failed target info _, by simp only [hinfo]; rfl, ?_⟩
      rw [Turn.run_of_error hwork hinfo]
      simp [complaint, hinfo, opening, t]
    | ok graph =>
      rw [hexported] at hproduce
      rw [check_of_produce hload hproduce] at hwork
      refine ⟨_, rfl, ?_⟩
      rw [Turn.run_of_ok hwork]
      simp [judge, opening]

/-- The turns of a check end with the results for its targets, in order. -/
theorem runTargets_eq (hc : c.Fits) {targets : List Text}
    (ht : ∀ target ∈ targets, target ∈ c.targets)
    (es : List Entry) :
    ∃ results, results.map Except.ok = targets.map c.result
      ∧ runTargets c.context false c.mode c.failOnAdditions targets (c.world.logged es)
        = (.ok results, c.world.logged (es ++ targets.flatMap c.entries)) := by
  induction targets generalizing es with
  | nil => exact ⟨[], rfl, by rw [List.flatMap_nil, List.append_nil]; rfl⟩
  | cons target targets ih =>
    obtain ⟨result, hresult, hrun⟩ := run_turn hc (ht target List.mem_cons_self) es
    obtain ⟨results, hresults, hruns⟩ :=
      ih (fun t h => ht t (List.mem_cons_of_mem _ h)) (es ++ c.entries target)
    refine ⟨result :: results, by rw [List.map_cons, hresults, List.map_cons, hresult], ?_⟩
    rw [List.flatMap_cons, ← List.append_assoc]
    exact (bind_of_ok hrun).trans (bind_of_ok hruns)

/-- The first failure decides about a target: no baseline, a malformed one, what the exporter
throws, a graph that cannot be read, a malformed one.  Otherwise the baseline is compared with the
graph.  A run that checks returns these results in the order of its targets, passes if and only if
all of them do, asks the exporter exactly for the targets with a well-formed baseline, and changes
no file. -/
theorem run_eq_results (c : Check) (hc : c.Fits) :
    (∃ results, results.map Except.ok = c.targets.map c.result
      ∧ run c.context c.options c.world = (.ok
        { generatedAt := c.generatedAt, update := false, mode := c.mode
          failOnAdditions := c.failOnAdditions, results
          passed := results.all TargetResult.isPassing },
        c.world.logged (c.targets.flatMap c.entries)))
    ∧ (∀ text source e, Baseline.decode text source = .error e → e.kind = .malformedBaseline)
    ∧ ∀ text source e, Graph.parse text source = .error e → e.kind = .malformedExport := by
  refine ⟨?_, fun _ _ _ => Baseline.kind_of_decode_error, fun _ _ _ => Graph.kind_of_parse_error⟩
  obtain ⟨results, hresults, hruns⟩ := runTargets_eq hc (fun _ h => h) []
  have hmode : c.options.mode.getD c.context.config.mode = c.mode := by
    rw [mode]
    cases c.options.mode <;> rfl
  have hadditions : c.options.failOnAdditions.getD c.context.config.failOnAdditions
      = c.failOnAdditions := by
    rw [failOnAdditions]
    cases c.options.failOnAdditions <;> rfl
  have hall : runAll c.context c.options c.world
      = (.ok results, c.world.logged (c.targets.flatMap c.entries)) := by
    rw [runAll, hc.isCheck, hmode, hadditions]
    rwa [World.logged_nil, List.nil_append] at hruns
  refine ⟨results, hresults, ?_⟩
  rw [run_of_ok hall hc.generatedAt, hc.isCheck, hmode, hadditions]

/-- One target lost a function since its baseline was stored, and the other one has no baseline. -/
theorem run_eq_results_of_removal :
    let content : Bytes := Baseline.encode ⟨"A", "t", .ofList [("s:f", "func f")]⟩
    let dir : Node := .directory ⟨1, 0o755, 0⟩ [("A.json", .file ⟨2, 0o644, 0⟩ content)]
    let graph : Node := .file ⟨3, 0o644, 0⟩ (Utf8.encode "\x7b\"symbols\":[]\x7d")
    let w : World := .quiet ⟨.directory ⟨0, 0o755, 0⟩ [("d", dir), ("g", graph)], 4⟩
    let ctx : Context :=
      { config := ⟨["A", "B"], .semver, "d", "out", true, ["true"], "graphs", .zero false⟩
        exporter := fun target w => (.ok "g", w.logged [.output "exported" target]) }
    ∃ r w', run ctx ⟨false, none, some false⟩ w = (.ok r, w') ∧ w'.files = w.files
      ∧ r.failOnAdditions = false ∧ r.passed = false
      ∧ r.results.map (fun result => (result.isFailure, result.isPassing))
        = [(false, false), (true, false)]
      ∧ w'.log.filter (· matches .output ..) = [.output "exported" "A"] := by
  intro content dir graph w ctx
  let c : Check :=
    { context := ctx, options := ⟨false, none, some false⟩, world := w
      baseline := fun target => if target = "A" then some content else none
      answer := fun _ => .ok "g"
      mark := fun target => [.output "exported" target]
      createdAt := "1970-01-01T00:00:00.000Z"
      generatedAt := "1970-01-01T00:00:00.000Z" }
  have hpath : ∀ target isThere, (!(c.file target).contains 0
      && w.files.hasPath w.directory (Utf8.encode (c.file target))) = isThere →
      pathExists (c.file target) w = (.ok isThere, w) := by
    rintro target _ rfl
    rfl
  have hc : c.Fits :=
    { isCheck := rfl
      absent := by
        intro target ht hnone
        rcases List.mem_pair.1 ht with rfl | rfl
        · cases hnone
        · exact hpath "B" false (by decide +kernel)
      readable := by
        intro target ht content' hsome
        rcases List.mem_pair.1 ht with rfl | rfl
        · cases hsome
          exact ⟨hpath "A" true (by decide +kernel), by decide +kernel⟩
        · cases hsome
      exporter := fun _ _ => rfl
      described := fun _ _ h => nomatch h
      createdAt := by decide +kernel
      generatedAt := by decide +kernel }
  obtain ⟨⟨results, hresults, hrun⟩, -⟩ := run_eq_results c hc
  have hends : (c.targets.map c.result).map
      (fun r => r.toOption.map fun result => (result.isFailure, result.isPassing))
      = [some (false, false), some (true, false)] := by
    decide +kernel
  have hseen : results.map (fun result => (result.isFailure, result.isPassing))
      = [(false, false), (true, false)] := by
    rw [← hresults, List.map_map] at hends
    exact List.map_injective_iff.2 (Option.some_injective _) (by rw [List.map_map]; exact hends)
  refine ⟨_, _, hrun, rfl, rfl, ?_, hseen, by decide +kernel⟩
  have hpassing := congrArg (List.all · Prod.snd) hseen
  simpa [List.all_map] using hpassing

end Check

end Guard

end SurfaceGuard
