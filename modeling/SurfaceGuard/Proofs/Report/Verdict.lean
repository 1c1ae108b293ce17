import SurfaceGuard.Proofs.Guard.Isolation
import SurfaceGuard.Proofs.Text.Lines
import SurfaceGuard.Workflow.Program

/-!
# One verdict

Whether a run passes can be read in several places: in the counts, on the last line of the plain
report, below the table of the Markdown report and in the outputs of a workflow.  Some of them take
the verdict that was stored with the results, others count the results again.  All of them agree on
every run (`Report.verdicts_agree`), whatever the names, identifiers and messages are that the
reports repeat: these may have lines that look like a verdict or a table, but not in the place
where it is read.
-/

namespace SurfaceGuard

/-! ## Counting -/

namespace RunResult

variable (run : RunResult)

/-- The failed targets are those that do not pass. -/
theorem failedCount_eq :
    run.summary.failedCount = (run.results.filter fun r => !r.isPassing).length := by
  have hparts := @List.length_eq_length_filter_add _ run.results TargetResult.isPassing
  show run.results.length - (run.results.filter TargetResult.isPassing).length = _
  omega

theorem passedCount_add_failedCount :
    run.summary.passedCount + run.summary.failedCount = run.summary.total :=
  Nat.add_sub_cancel' (List.length_filter_le _ _)

/-- No target failed exactly if all of them pass. -/
theorem failedCount_eq_zero_iff :
    run.summary.failedCount = 0 ↔ run.results.all TargetResult.isPassing = true := by
  rw [failedCount_eq, List.length_eq_zero_iff, List.filter_eq_nil_iff, List.all_eq_true]
  simp

theorem errorCount_le_failedCount : run.summary.errorCount ≤ run.summary.failedCount := by
  rw [failedCount_eq]
  refine (List.monotone_filter_right run.results fun r hr => ?_).length_le
  cases r with
  | failed => rfl
  | updated => cases hr
  | checked => cases hr

/-- Without a decision that does not pass every failure is an error. -/
theorem errorCount_eq_failedCount {run : RunResult}
    (h : ∀ r ∈ run.results, r.isFailure = !r.isPassing) :
    run.summary.errorCount = run.summary.failedCount := by
  rw [failedCount_eq]
  exact congrArg List.length (List.filter_congr h)

end RunResult

/-! ## Decisions -/

namespace Policy

variable (d : Diff) (mode : Mode) (failOnAdditions : Bool)

theorem passed_iff_outcome :
    (evaluate d mode failOnAdditions).passed = true ↔
      (evaluate d mode failOnAdditions).outcome = .pass := by
  unfold evaluate
  cases objection? d mode failOnAdditions with
  | none => exact iff_of_true rfl rfl
  | some o => cases o <;> exact iff_of_false Bool.false_ne_true nofun

theorem lastLine_report :
    (evaluate d mode failOnAdditions).report.lastLine
      = resultLine (objection? d mode failOnAdditions) := by
  have hline : ∀ o : Option Objection, (resultLine o).IsLine ∧ resultLine o ≠ [] := by
    rintro (_ | _ | _ | _) <;> decide
  have hend : ∀ o : Option Objection, ∃ before, reportLines d o = before ++ [resultLine o] :=
    fun o => ⟨_ ++ [_], (List.append_assoc _ [_] [_]).symm⟩
  obtain ⟨hone, hsome⟩ := hline (objection? d mode failOnAdditions)
  obtain ⟨before, hbefore⟩ := hend (objection? d mode failOnAdditions)
  show (Text.lines (reportLines d (objection? d mode failOnAdditions))).lastLine = _
  rw [hbefore, Text.lastLine_lines hone hsome]

/-- A report ends with the line for a decision that passes exactly if its decision does. -/
theorem lastLine_report_iff :
    (evaluate d mode failOnAdditions).report.lastLine = "  Result: OK" ↔
      (evaluate d mode failOnAdditions).passed = true := by
  rw [lastLine_report]
  unfold evaluate
  cases objection? d mode failOnAdditions with
  | none => exact iff_of_true rfl rfl
  | some o => cases o <;> exact iff_of_false (by decide) Bool.false_ne_true

end Policy

/-! ## The reports of a run -/

namespace Timestamp

theorem isLine_padded (width n : Nat) : (padded width n).IsLine := by
  refine Text.isLine_append.2 ⟨fun h => ?_, Text.isLine_ofNat n⟩
  exact absurd (List.eq_of_mem_replicate h) (by decide)

theorem isLine_yearText (year : Int) : (yearText year).IsLine := by
  unfold yearText
  split
  · exact isLine_padded _ _
  · have hsign : Text.IsLine [if year < 0 then 0x2D else 0x2B] := by split <;> decide
    exact Text.isLine_append.2 ⟨hsign, isLine_padded _ _⟩

/-- The text of a time is one line. -/
theorem isLine_of_text? {ms : Number} {t : Text} (h : text? ms = some t) : t.IsLine := by
  unfold text? at h
  split at h
  · rw [← Option.some.inj h]
    have hdelimiter : ∀ c ∈ ["-", "T", ":", ".", "Z"], (c : Text).IsLine := by decide
    simp only [ofMillis, Text.isLine_append, isLine_yearText, isLine_padded, true_and, and_true]
    simp [hdelimiter]
  · cases h

end Timestamp

namespace Report

variable {run : RunResult}

theorem isLine_failedOfAll (s : Summary) : (failedOfAll s).IsLine := by
  have hwords : Text.IsLine " of " ∧ Text.IsLine " target(s)" := by decide
  simp only [failedOfAll, Text.isLine_append, Text.isLine_ofNat, hwords, and_true]

theorem isLine_verdictLine (run : RunResult) : (verdictLine run).IsLine := by
  unfold verdictLine
  split
  · decide
  · exact Text.isLine_append.2 ⟨Text.isLine_append.2 ⟨by decide, isLine_failedOfAll _⟩, by decide⟩
  · decide
  · exact Text.isLine_append.2 ⟨Text.isLine_append.2 ⟨by decide, isLine_failedOfAll _⟩, by decide⟩

theorem lastLine_plain (run : RunResult) : (plain run).lastLine = verdictLine run :=
  Text.lastLine_lines_newline (isLine_verdictLine run)

/-- No count makes a failure look like a success. -/
theorem verdictLine_eq_iff (run : RunResult) :
    verdictLine run = (if run.update then "APIGuard: baseline updated." else "APIGuard: OK") ↔
      run.passed = true := by
  have hlonger : ∀ {start t : Text}, ¬start <+: t → ∀ u v : Text, start ++ u ++ v ≠ t := by
    rintro start _ h u v rfl
    exact h ((List.prefix_append start u).trans (List.prefix_append _ v))
  unfold verdictLine
  cases run.update with
  | true =>
    cases run.passed with
    | true => exact iff_of_true rfl rfl
    | false => exact iff_of_false (hlonger (by decide) _ _) Bool.false_ne_true
  | false =>
    cases run.passed with
    | true => exact iff_of_true rfl rfl
    | false => exact iff_of_false (hlonger (by decide) _ _) Bool.false_ne_true

/-- What stands above the table is one line each, and no row. -/
theorem headLines_forall (h : run.generatedAt.IsLine) :
    ∀ line ∈ headLines run, line.IsLine ∧ Text.isRow line = false := by
  have hmode : ("**Mode:** " ++ run.mode.name
      ++ (if run.failOnAdditions then (" (additions disallowed)" : Text) else [])).IsLine := by
    cases run.mode <;> split <;> decide
  have htitle : ∀ t ∈ ["# API Baseline Update", "# API Guard Report", ""],
      (t : Text).IsLine ∧ Text.isRow t = false := by
    decide
  simp only [List.forall_mem_cons] at htitle
  obtain ⟨hupdate, hcheck, hempty, -⟩ := htitle
  unfold headLines
  simp only [List.forall_mem_cons]
  refine ⟨?_, hempty, ⟨Text.isLine_append.2 ⟨by decide, h⟩, rfl⟩, ⟨hmode, rfl⟩, hempty,
    List.forall_mem_nil _⟩
  split
  · exact hupdate
  · exact hcheck

/-- The title of the table. -/
def summaryTitle : List Text := ["## Summary", []]

/-- The rows of the table. -/
def rows (s : Summary) : List Text :=
  ["| Metric | Value |",
    "|--------|-------|",
    "| Targets | " ++ Text.ofNat s.total ++ " |",
    "| Passed | " ++ Text.ofNat s.passedCount ++ " |",
    "| Failed | " ++ Text.ofNat s.failedCount ++ " |",
    "| Errors | " ++ Text.ofNat s.errorCount ++ " |"]

theorem rows_forall (s : Summary) : ∀ line ∈ rows s, line.IsLine ∧ Text.isRow line = true := by
  have hcount : ∀ (name : Text) (n : Nat), name.IsLine → (name ++ Text.ofNat n ++ " |").IsLine :=
    fun name n h => Text.isLine_append.2 ⟨Text.isLine_append.2 ⟨h, Text.isLine_ofNat n⟩, by decide⟩
  unfold rows
  simp only [List.forall_mem_cons]
  exact ⟨by decide, by decide, ⟨hcount _ _ (by decide), rfl⟩, ⟨hcount _ _ (by decide), rfl⟩,
    ⟨hcount _ _ (by decide), rfl⟩, ⟨hcount _ _ (by decide), rfl⟩, List.forall_mem_nil _⟩

/-- The verdict is read below the table. -/
theorem belowTable?_markdown (h : run.generatedAt.IsLine) :
    (markdown run).belowTable? = some (verdictHeading run.passed) := by
  have hheading : ∀ passed, (verdictHeading passed).IsLine ∧ verdictHeading passed ≠ [] := by
    decide
  obtain ⟨hone, hsome⟩ := hheading run.passed
  have hhead : ∀ line ∈ headLines run ++ summaryTitle,
      line.IsLine ∧ Text.isRow line = false :=
    List.forall_mem_append.2 ⟨headLines_forall h, by unfold summaryTitle; decide⟩
  have hrows := rows_forall run.summary
  have hmarkdown : markdown run = Text.lines ((headLines run ++ summaryTitle)
      ++ (rows run.summary ++ ([] :: verdictHeading run.passed :: [] ::
        run.results.flatMap sectionLines))) := by
    unfold markdown summaryLines summaryTitle rows
    simp
  have hlines : (markdown run).linesOf = (headLines run ++ summaryTitle)
      ++ (rows run.summary ++ [] :: verdictHeading run.passed ::
        ([] :: run.results.flatMap sectionLines).flatMap Text.linesOf) := by
    have hbefore := Text.flatMap_linesOf_of_isLine fun line hline => (hhead line hline).1
    have htable := Text.flatMap_linesOf_of_isLine fun line hline => (hrows line hline).1
    rw [List.flatMap_append] at hbefore
    rw [hmarkdown, Text.linesOf_lines (by simp), List.flatMap_append, List.flatMap_append,
      List.flatMap_append, hbefore, htable, List.flatMap_cons, List.flatMap_cons,
      Text.linesOf_of_isLine hone]
    rfl
  exact Text.belowTable?_of_linesOf hlines (fun line hline => (hhead line hline).2)
    (fun line hline => (hrows line hline).2) (List.cons_ne_nil _ _) hsome

theorem verdictHeading_eq_iff (passed : Bool) :
    verdictHeading passed = "## ✅ No Breaking API Changes" ↔ passed = true := by
  revert passed
  decide

/-- The verdict is published. -/
theorem mem_outputs_iff (run : RunResult) (saved : Saved) :
    ⟨"status", "passed"⟩ ∈ Workflow.outputs run saved ↔ run.passed = true := by
  unfold Workflow.outputs
  cases run.passed with
  | true => exact iff_of_true List.mem_cons_self rfl
  | false =>
    refine iff_of_false (fun h => ?_) Bool.false_ne_true
    simp only [List.mem_cons, List.not_mem_nil, or_false, Workflow.Output.mk.injEq] at h
    revert h
    have hnames : ("status" : Text) ≠ "report_path" ∧ ("status" : Text) ≠ "json_report_path"
        ∧ ("status" : Text) ≠ "passed_count" ∧ ("status" : Text) ≠ "failed_count"
        ∧ ("passed" : Text) ≠ "failed" := by
      decide
    simp [hnames]

/-! ## All views -/

/-- All views of a run of some targets give its verdict, and the counts add up. -/
structure Agrees (isUpdate : Bool) (targets : List Text) (run : RunResult) : Prop where
  counts : run.passed = true ↔ run.summary.failedCount = 0
  plain : run.passed = true ↔
    (plain run).lastLine = if isUpdate then "APIGuard: baseline updated." else "APIGuard: OK"
  markdown : run.passed = true ↔
    (markdown run).belowTable? = some ("## ✅ No Breaking API Changes" : Text)
  outputs : ∀ saved, run.passed = true ↔ ⟨"status", "passed"⟩ ∈ Workflow.outputs run saved
  total : run.summary.total = targets.length
  parts : run.summary.passedCount + run.summary.failedCount = run.summary.total
  errors : run.summary.errorCount ≤ run.summary.failedCount
  errors_of_update : isUpdate = true → run.summary.errorCount = run.summary.failedCount
  failure : run.passed = false → 1 ≤ run.summary.failedCount
    ∧ (Report.plain run).lastLine
      = (if isUpdate then "APIGuard: baseline update failed for " else "APIGuard: FAIL (")
        ++ Text.ofNat run.summary.failedCount ++ " of " ++ Text.ofNat run.summary.total
        ++ (if isUpdate then " target(s)." else " target(s))")
  decisions : ∀ (target : Text) (decision : Decision) changes duration,
    .checked target decision changes duration ∈ run.results →
      (decision.report.lastLine = "  Result: OK" ↔ decision.passed = true)
      ∧ (decision.passed = true ↔ decision.outcome = .pass)

theorem lastLine_of_failure (h : run.passed = false) :
    (plain run).lastLine
      = (if run.update then "APIGuard: baseline update failed for " else "APIGuard: FAIL (")
        ++ Text.ofNat run.summary.failedCount ++ " of " ++ Text.ofNat run.summary.total
        ++ (if run.update then " target(s)." else " target(s))") := by
  rw [lastLine_plain]
  unfold verdictLine failedOfAll
  rw [h]
  cases run.update <;> simp [List.append_assoc] <;> rfl

/-- All views of a run agree on its verdict. -/
theorem verdicts_agree (ctx : Context) (options : RunOptions) (w : World) :
    ∀ run, (Guard.run ctx options w).1 = .ok run →
      Agrees options.update ctx.config.targets run := by
  intro run h
  obtain ⟨hupdate, hpassed, ⟨clock, hclock⟩, htargets, hresults⟩ := Guard.cases_of_run_ok h
  have hcounts : run.passed = true ↔ run.summary.failedCount = 0 := by
    rw [hpassed, run.failedCount_eq_zero_iff]
  have hflip : List.Forall₂ (fun r (t : Guard.Turn) => t.run.1 = .ok r) run.results
      (Guard.turns ctx options w) := hresults.flip
  have hturn : ∀ r ∈ run.results, ∃ t ∈ Guard.turns ctx options w, t.run.1 = .ok r :=
    fun r hr => Guard.exists_of_forall₂ hflip hr
  refine ⟨hcounts, ?_, ?_, fun saved => (mem_outputs_iff run saved).symm, ?_,
    run.passedCount_add_failedCount, run.errorCount_le_failedCount, fun hisUpdate => ?_,
    fun hfailed => ⟨?_, ?_⟩, fun target decision changes duration hr => ?_⟩
  · rw [lastLine_plain, ← hupdate, verdictLine_eq_iff]
  · rw [belowTable?_markdown (Timestamp.isLine_of_text? hclock), Option.some.injEq,
      verdictHeading_eq_iff]
  · rw [← htargets, List.length_map, hresults.length_eq]
    rfl
  · refine RunResult.errorCount_eq_failedCount fun r hr => ?_
    obtain ⟨t, ht, hrun⟩ := hturn r hr
    have hisUpdate' : t.isUpdate = true := by
      rw [Guard.settings_of_mem_turnsFrom ht]
      exact hisUpdate
    rcases Guard.Turn.result_cases hrun with ⟨-, _, _, _, rfl⟩ | ⟨hcheck, -⟩ | ⟨_, _, rfl⟩
    · rfl
    · rw [hisUpdate'] at hcheck
      cases hcheck
    · rfl
  · rw [Nat.one_le_iff_ne_zero, ne_eq, ← hcounts, hfailed]
    exact Bool.false_ne_true
  · rw [lastLine_of_failure hfailed, hupdate]
  · obtain ⟨t, -, hrun⟩ := hturn _ hr
    rcases Guard.Turn.result_cases hrun with ⟨-, _, _, _, hr⟩ | ⟨-, _, _, _, hr⟩ | ⟨_, _, hr⟩
    · cases hr
    · cases hr
      exact ⟨Policy.lastLine_report_iff _ _ _, Policy.passed_iff_outcome _ _ _⟩
    · cases hr

/-- An update of two targets, one of which is not exported. -/
theorem verdicts_agree_of_failure :
    let graph : Node := .file ⟨1, 0o644, 0⟩ (Utf8.encode "\x7b\"symbols\":[]\x7d")
    let w : World := .quiet ⟨.directory ⟨0, 0o755, 0⟩ [("g", graph)], 2⟩
    let ctx : Context :=
      { config := ⟨["A", "B"], .semver, "d", "out", false, ["true"], "graphs", .zero false⟩
        exporter := fun target w =>
          if target = "A" then (.ok "g", w) else (.error (.error "## Summary\n\nAPIGuard: OK"), w) }
    ∃ run, (Guard.run ctx ⟨true, none, none⟩ w).1 = .ok run ∧ run.passed = false
      ∧ run.summary = ⟨2, 1, 1, 1⟩
      ∧ (plain run).lastLine = "APIGuard: baseline update failed for 1 of 2 target(s)."
      ∧ (markdown run).belowTable? ≠ some ("## ✅ No Breaking API Changes" : Text) := by
  intro graph w ctx
  obtain ⟨run, hrun⟩ : ∃ run, (Guard.run ctx ⟨true, none, none⟩ w).1 = .ok run := by
    have hends : (Guard.run ctx ⟨true, none, none⟩ w).1.isOk = true := by decide +kernel
    cases h : (Guard.run ctx ⟨true, none, none⟩ w).1 with
    | ok run => exact ⟨run, rfl⟩
    | error e =>
      rw [h] at hends
      cases hends
  have hsummary : (Guard.run ctx ⟨true, none, none⟩ w).1.toOption.map RunResult.summary
      = some ⟨2, 1, 1, 1⟩ := by
    decide +kernel
  rw [hrun] at hsummary
  have hagrees := verdicts_agree ctx ⟨true, none, none⟩ w run hrun
  have hcounts : run.summary = ⟨2, 1, 1, 1⟩ := Option.some.inj hsummary
  have hfailed : run.passed ≠ true := by
    rw [ne_eq, hagrees.counts, hcounts]
    decide
  have hline := (hagrees.failure (by simpa using hfailed)).2
  rw [hcounts] at hline
  exact ⟨run, hrun, by simpa using hfailed, hcounts, hline.trans (by decide),
    fun h => hfailed (hagrees.markdown.2 h)⟩

end Report

end SurfaceGuard
