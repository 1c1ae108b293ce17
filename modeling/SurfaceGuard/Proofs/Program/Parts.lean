import SurfaceGuard.CommandLine.Program
import SurfaceGuard.Proofs.Host.Parts
import SurfaceGuard.Workflow.Program

/-!
# The guard is built of steps

A whole run of the guard is a built task, and so is what the programs do before and after it: they
load a configuration, store reports, and add to a file for outputs and to a job summary.
-/

open SurfaceGuard.Task

namespace SurfaceGuard

variable {launch : Launcher}

/-! ## Runs -/

namespace Guard

theorem isOutput_remarks (graph : Graph) (target : Text) :
    ∀ e ∈ graph.remarks target, e.isOutput = false := by
  intro e he
  rw [Graph.remarks] at he
  simp only [List.mem_append, List.mem_map, List.mem_singleton] at he
  rcases he with (⟨id, -, rfl⟩ | he) | rfl
  · rfl
  · split at he
    · cases he
    · rw [List.mem_singleton.1 he]
      rfl
  · rfl

theorem isOutput_remarkOn (target : Text) (decision : Decision) :
    (remarkOn target decision).isOutput = false := by
  rw [remarkOn]
  split <;> rfl

/-- What the guard works with is built of steps. -/
def Context.IsBuilt (launch : Launcher) (ctx : Context) : Prop :=
  ∀ target, Built launch (ctx.exporter target)

theorem isBuilt_context (config : Config) (cwd : Text) :
    Context.IsBuilt launch (context launch config cwd) := Export.built_byCommand _

variable {ctx : Context}

theorem built_produce (hctx : Context.IsBuilt launch ctx) (target : Text) :
    Built launch (produce ctx target) :=
  .bind (hctx target) fun _ => .bind (Export.built_readGraph target _) fun graph =>
    .bind built_now fun _ => .bind (.record (isOutput_remarks graph target)) fun _ =>
      built_ofOption _ _

theorem built_update (hctx : Context.IsBuilt launch ctx) (target : Text) :
    Built launch (update ctx target) :=
  .bind built_now fun _ => .bind (built_produce hctx target) fun _ =>
    .bind (Baseline.built_save _ _) fun _ => .bind (built_say _ _) fun _ =>
      .bind (.look fun _ _ _ => rfl) fun _ => .done _

theorem built_check (hctx : Context.IsBuilt launch ctx) (target : Text) (mode : Mode)
    (failOnAdditions : Bool) : Built launch (check ctx target mode failOnAdditions) :=
  .bind built_now fun _ => .bind (Baseline.built_load _ target) fun _ =>
    .bind (built_produce hctx target) fun _ => .bind (built_record (isOutput_remarkOn _ _)) fun _ =>
      .bind (.look fun _ _ _ => rfl) fun _ => .done _

theorem built_runTarget (hctx : Context.IsBuilt launch ctx) (isUpdate : Bool) (mode : Mode)
    (failOnAdditions : Bool) (target : Text) :
    Built launch (runTarget ctx isUpdate mode failOnAdditions target) := by
  refine .bind built_now fun start => built_group _ (.after ?_ (fun _ => .done _) fun e he => ?_)
  · cases isUpdate with
    | true => exact built_update hctx target
    | false => exact built_check hctx target mode failOnAdditions
  · obtain ⟨info, hinfo⟩ := Thrown.describe_ok_iff.2 he
    simp only [hinfo]
    exact .bind (built_say _ _) fun _ => .bind (.look fun _ _ _ => rfl) fun _ => .done _

theorem built_runTargets (hctx : Context.IsBuilt launch ctx) (isUpdate : Bool) (mode : Mode)
    (failOnAdditions : Bool) (targets : List Text) :
    Built launch (runTargets ctx isUpdate mode failOnAdditions targets) := by
  induction targets with
  | nil => exact .done []
  | cons target targets ih =>
    exact .bind (built_runTarget hctx isUpdate mode failOnAdditions target) fun _ =>
      .bind ih fun _ => .done _

theorem built_run (hctx : Context.IsBuilt launch ctx) (options : RunOptions) :
    Built launch (run ctx options) :=
  .bind (built_runTargets hctx _ _ _ _) fun _ => .bind built_now fun _ =>
    .bind (built_ofOption _ _) fun _ => .done _

end Guard

/-! ## Configuration and reports -/

theorem Config.built_load (path cwd : Text) : Built launch (Config.load path cwd) := by
  refine .bind (built_pathExists _) fun isThere => ?_
  cases isThere with
  | true => exact .bind (built_readText _) fun _ => built_ofGuard _
  | false => exact .fail id

theorem Report.built_save (run : RunResult) (markdownText outputDir : Text) :
    Built launch (Report.save run markdownText outputDir) :=
  .bind (built_makeDirectories _) fun _ => .bind (built_ofGuard _) fun _ =>
    .bind (built_writeBytes _ _) fun _ => .bind (built_say _ _) fun _ =>
      .bind (built_writeBytes _ _) fun _ => .bind (built_say _ _) fun _ => .done _

theorem Workflow.built_appendBlock (path : Text) (o : Output) :
    Built launch (appendBlock path o) := by
  refine .bind (.draw 16) fun bytes => ?_
  dsimp only
  split
  · exact .fail id
  · split
    · exact .fail id
    · refine .bind (built_pathExists path) fun isThere => ?_
      cases isThere with
      | true => exact built_appendBytes _ _
      | false => exact .fail id

theorem Workflow.built_appendSummary (given : Variables) (text : Text) :
    Built launch (appendSummary given text) := by
  rw [appendSummary]
  split
  · exact .fail id
  · refine .bind (built_isAccessible _) fun isAccessible => ?_
    cases isAccessible with
    | true => exact built_appendBytes _ _
    | false => exact .fail id

end SurfaceGuard
