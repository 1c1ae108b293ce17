import SurfaceGuard.Proofs.Host.Built

/-!
# What tasks are built of

The operations on files are built tasks, and so are the parts of the guard that work with files:
exports and baselines.
-/

open SurfaceGuard.Task

namespace SurfaceGuard

/-! ## Operations on files -/

namespace Task

variable {α : Type} {launch : Launcher}

theorem built_ofExcept {x : Except Thrown α} (h : ∀ e, x = .error e → ¬e.Textless) :
    Built launch (ofExcept x) := by
  cases x with
  | ok a => exact .done a
  | error e => exact .fail (h e rfl)

theorem built_ofGuard (x : Except GuardError α) : Built launch (ofGuard x) := by
  cases x with
  | ok a => exact .done a
  | error e => exact .fail id

theorem built_ofOption (message : Text) (x : Option α) : Built launch (ofOption message x) := by
  cases x with
  | some a => exact .done a
  | none => exact .fail id

theorem built_record {e : Entry} (h : e.isOutput = false) : Built launch (record e) :=
  .record fun _ he => List.mem_singleton.1 he ▸ h

theorem built_say (level : Level) (text : Text) : Built launch (say level text) := built_record rfl

theorem built_now : Built launch now := .look fun _ _ _ => rfl

/-- What is read off the files is a result, or a failure with a message. -/
theorem built_ofExcept_look {ε : Type} {f : World → Except ε α} {reason : ε → Thrown}
    (h : IsBlind f) (hreason : ∀ e, ¬(reason e).Textless) :
    Built launch (look f >>= fun x => ofExcept (x.mapError reason)) := by
  refine .bind (.look h) fun x => built_ofExcept fun e he => ?_
  obtain ⟨e', -, rfl⟩ := mapError_eq_error_iff.1 he
  exact hreason e'

/-- A change that is made as a whole, or fails with a message. -/
theorem built_change {f : World → Except Errno FileTree} {reason : Errno → Thrown} (h : IsBlind f)
    (hreason : ∀ e, ¬(reason e).Textless) :
    Built launch (change fun w => (f w).mapError reason) := by
  refine .change (fun w environment log => ?_) fun w e he => ?_
  · simp only [h w environment log, World.dress_files]
  · cases hf : f w with
    | ok files => simp [hf, Except.mapError] at he
    | error errno =>
      simp only [hf, Except.mapError, Option.some.injEq] at he
      exact he ▸ hreason errno

theorem built_pathFor (argument path : Text) : Built launch (pathFor argument path) := by
  rw [pathFor]
  split
  · exact .fail id
  · exact .done _

theorem built_pathOf (path : Text) : Built launch (pathOf path) := built_pathFor "path" path

theorem built_pathExists (path : Text) : Built launch (pathExists path) := .look fun _ _ _ => rfl

theorem built_isAccessible (path : Text) : Built launch (isAccessible path) :=
  .look fun _ _ _ => rfl

theorem built_readBytes (path : Text) : Built launch (readBytes path) :=
  .bind (built_pathOf path) fun _ =>
    built_ofExcept_look (fun _ _ _ => rfl) fun e => by cases e <;> exact id

theorem built_readText (path : Text) : Built launch (readText path) :=
  .bind (built_readBytes path) fun _ => .done _

/-- A content is put into a file as a whole, or in part before the host fails. -/
theorem built_putBytes {put : Bytes → Task Unit} (h : ∀ part, Built launch (put part)) (path : Text)
    (content : Bytes) : Built launch (putBytes path put content) := by
  refine .attempt (fun fault => ?_) (h content)
  cases fault.written with
  | none => exact .fail id
  | some count => exact .bind (h _) fun _ => .fail id

theorem built_writeBytes (path : Text) (content : Bytes) :
    Built launch (writeBytes path content) :=
  .bind (built_pathOf path) fun _ =>
    built_putBytes (fun _ => built_change (fun _ _ _ => rfl) fun _ => id) path content

theorem built_appendBytes (path : Text) (content : Bytes) :
    Built launch (appendBytes path content) :=
  .bind (built_pathOf path) fun _ =>
    built_putBytes (fun _ => built_change (fun _ _ _ => rfl) fun _ => id) path content

theorem built_makeDirectories (path : Text) : Built launch (makeDirectories path) := by
  refine .bind (built_pathOf path) fun bytes => .attempt (fun _ => .fail id) ?_
  refine .change (fun w environment log => by simp -implicitDefEqProofs) fun w e he => ?_
  obtain ⟨errno, -, rfl⟩ := Option.map_eq_some_iff.1 he
  exact id

theorem built_rename (source target : Text) : Built launch (rename source target) :=
  .bind (built_pathFor "oldPath" source) fun _ => .bind (built_pathFor "newPath" target) fun _ =>
    .attempt (fun _ => .fail id) (built_change (fun _ _ _ => rfl) fun _ => id)

theorem built_removePath (path : Text) : Built launch (removePath path) := by
  refine .bind (built_pathOf path) fun bytes => .attempt (fun _ => .fail id) ?_
  refine .change (fun w environment log => by simp -implicitDefEqProofs) fun w e he => ?_
  split at he <;> cases he
  exact id

theorem built_removeFile (path : Text) : Built launch (removeFile path) := by
  refine .bind (built_pathOf path) fun bytes => .attempt (fun _ => .fail id) ?_
  refine .change (fun w environment log => by simp -implicitDefEqProofs) fun w e he => ?_
  split at he
  · cases he
  · cases he
    exact id
  split at he
  · cases he
    exact id
  split at he <;> cases he
  exact id

theorem built_listDirectory (path : Text) : Built launch (listDirectory path) :=
  .bind (built_pathOf path) fun _ =>
    .bind (.look fun _ _ _ => rfl) fun _ => .bind (built_ofExcept fun _ he => by
      obtain ⟨_, -, rfl⟩ := mapError_eq_error_iff.1 he
      exact id) fun _ => .done _

theorem built_modifiedAt (path : Text) : Built launch (modifiedAt path) :=
  .bind (built_pathOf path) fun _ => built_ofExcept_look (fun _ _ _ => rfl) fun _ => id

theorem built_copyFile (source target : Text) : Built launch (copyFile source target) := by
  refine .bind (built_pathFor "src" source) fun old => .bind (built_pathFor "dest" target)
    fun new => .attempt (fun _ => .fail id) ?_
  refine .change (fun w environment log => by simp -implicitDefEqProofs) fun w e he => ?_
  obtain ⟨errno, -, rfl⟩ := Option.map_eq_some_iff.1 he
  exact id

theorem built_group (title : Text) {t : Task α} (h : Built launch t) :
    Built launch (group title t) :=
  .bind (built_record rfl) fun _ => .after h (fun a => .bind (built_record rfl) fun _ => .done a)
    fun _ he => .bind (built_record rfl) fun _ => .fail he

end Task

variable {launch : Launcher}

/-! ## Exports -/

namespace Export

theorem built_stampAll (files : List Text) : Built launch (stampAll files) := by
  induction files with
  | nil => exact .done []
  | cons file files ih => exact .bind (built_modifiedAt file) fun _ => .bind ih fun _ => .done _

theorem built_findGraph (dir target : Text) : Built launch (findGraph dir target) := by
  refine .bind (built_pathExists dir) fun isThere => ?_
  cases isThere with
  | true => exact .bind (built_listDirectory dir) fun _ => .bind (built_stampAll _) fun _ => .done _
  | false => exact .done none

theorem built_readGraph (target file : Text) : Built launch (readGraph target file) := by
  refine .after (built_readText file) (fun content => built_ofGuard _) fun e he => ?_
  cases e with
  | error message => exact .fail id
  | badArgument message => exact .fail id
  | guard e => exact .fail he
  | value v => exact .fail he

theorem built_runCommand (settings : Settings) (target : Text) :
    Built launch (runCommand launch settings target) := by
  refine .after (.command settings.command settings.cwd settings.timeoutMs) (fun output => ?_)
    fun e he => ?_
  · show Built launch (if output.exitCode = 0 then (pure output : Task ExecOutput) else _)
    split
    · exact .done output
    · exact .fail id
  · cases e with
    | error message => exact .fail id
    | badArgument message => exact .fail he
    | guard e => exact .fail he
    | value v => exact .fail he

/-- What the command said is recorded, if it said anything. -/
theorem built_remark {α : Type} (remark : Text) (level : Level) {t : Task α}
    (h : Built launch t) :
    Built launch (if !remark.isEmpty then say level remark >>= fun _ => t else t) := by
  split
  · exact .bind (built_say _ _) fun _ => h
  · exact h

theorem built_byCommand (settings : Settings) (target : Text) :
    Built launch (byCommand launch settings target) := by
  refine .bind (built_removePath _) fun _ => .bind (built_makeDirectories _) fun _ =>
    .bind (built_say _ _) fun _ => .bind (built_runCommand settings target) fun output =>
      built_remark _ _ (.bind (built_findGraph _ target) fun produced? => ?_)
  cases produced? with
  | none => exact .fail id
  | some produced =>
    exact .bind (built_copyFile _ _) fun _ => .bind (built_say _ _) fun _ => .done _

end Export

/-! ## Baselines -/

namespace Baseline

theorem built_load (dir target : Text) : Built launch (load dir target) := by
  refine .bind (built_pathExists _) fun isThere => ?_
  cases isThere with
  | true => exact .bind (built_readText _) fun _ => built_ofGuard _
  | false => exact .fail id

theorem built_save (s : Snapshot) (dir : Text) : Built launch (save s dir) :=
  .bind (built_makeDirectories dir) fun _ => .bind (.look fun _ _ _ => rfl) fun _ =>
    .after (.bind (built_writeBytes _ _) fun _ => built_rename _ _) (fun _ => .done _)
      fun _ he => .bind (built_removeFile _) fun _ => .fail he

end Baseline

end SurfaceGuard
