import Mathlib.Data.List.TakeWhile
import SurfaceGuard.Text.Space

/-!
# Folding does not see how white space is spelled

A run of white space leaves one blank behind, whatever its units are (`collapseFrom_run`), and
nothing at either end.  So a text may be respaced in any way that keeps its words apart, and is
folded to the same text (`Respaced.fold_eq`).
-/

namespace SurfaceGuard.Text

/-- White space and nothing else. -/
def IsBlank (t : Text) : Prop := ∀ u ∈ t, isSpace u = true

instance (t : Text) : Decidable (IsBlank t) := List.decidableBAll _ t

theorem isBlank_nil : IsBlank [] := by simp [IsBlank]

theorem isBlank_blank : IsBlank [blank] := by decide

theorem isBlank_cons {u : CodeUnit} {t : Text} :
    IsBlank (u :: t) ↔ isSpace u = true ∧ IsBlank t := by
  simp [IsBlank]

/-! ## Trimming -/

theorem trimStart_append_left {run : Text} (h : IsBlank run) (t : Text) :
    trimStart (run ++ t) = trimStart t :=
  List.dropWhile_append_of_pos h

theorem trimEnd_append_right {run : Text} (h : IsBlank run) (t : Text) :
    trimEnd (t ++ run) = trimEnd t := by
  have hrev : ∀ u ∈ run.reverse, isSpace u = true := fun u hu => h u (List.mem_reverse.1 hu)
  rw [trimEnd, List.reverse_append, List.dropWhile_append_of_pos hrev]
  rfl

theorem trim_append_left {run : Text} (h : IsBlank run) (t : Text) : trim (run ++ t) = trim t := by
  rw [trim, trimStart_append_left h]
  rfl

theorem trim_append_right {run : Text} (h : IsBlank run) (t : Text) :
    trim (t ++ run) = trim t := by
  rw [trim, trim, trimStart, trimStart, List.dropWhile_append]
  split
  · next hall =>
    have hrun : run.dropWhile isSpace = [] := List.dropWhile_eq_nil_iff.2 h
    rw [hrun, List.isEmpty_iff.1 hall]
  · exact trimEnd_append_right h _

/-- White space around a text that has none at its ends. -/
theorem trim_surrounded {pre post body : Text} (hpre : IsBlank pre) (hpost : IsBlank post)
    (hbody : trim body = body) : trim (pre ++ body ++ post) = body := by
  rw [trim_append_right hpost, trim_append_left hpre, hbody]

/-! ## Collapsing -/

/-- Within a run, more white space leaves nothing. -/
theorem collapseFrom_true_run {run : Text} (h : IsBlank run) (rest : Text) :
    collapseFrom true (run ++ rest) = collapseFrom true rest := by
  induction run with
  | nil => rfl
  | cons u run ih =>
    obtain ⟨hu, hrun⟩ := isBlank_cons.1 h
    simp [collapseFrom, hu, ih hrun]

/-- A run leaves one blank, unless it continues another one. -/
theorem collapseFrom_run {run : Text} (h : IsBlank run) (hne : run ≠ []) (inRun : Bool)
    (rest : Text) : collapseFrom inRun (run ++ rest)
      = (if inRun then [] else [blank]) ++ collapseFrom true rest := by
  cases inRun with
  | true => exact collapseFrom_true_run h rest
  | false =>
    obtain ⟨u, run, rfl⟩ := List.exists_cons_of_ne_nil hne
    obtain ⟨hu, hrun⟩ := isBlank_cons.1 h
    simp [collapseFrom, hu, collapseFrom_true_run hrun]

theorem collapseFrom_append_congr {s t : Text}
    (h : ∀ inRun, collapseFrom inRun s = collapseFrom inRun t) (pre : Text) (inRun : Bool) :
    collapseFrom inRun (pre ++ s) = collapseFrom inRun (pre ++ t) := by
  induction pre generalizing inRun with
  | nil => exact h inRun
  | cons u pre ih => simp only [List.cons_append, collapseFrom, ih]

/-- White space at the end leaves white space at the end. -/
theorem collapseFrom_append_blank {run : Text} (h : IsBlank run) (t : Text) (inRun : Bool) :
    ∃ left, IsBlank left ∧ collapseFrom inRun (t ++ run) = collapseFrom inRun t ++ left := by
  induction t generalizing inRun with
  | nil =>
    by_cases hne : run = []
    · exact ⟨[], isBlank_nil, by simp [hne]⟩
    · have hrun := collapseFrom_run h hne inRun []
      rw [List.append_nil] at hrun
      refine ⟨if inRun then [] else [blank], ?_, by simp [hrun, collapseFrom]⟩
      cases inRun
      · exact isBlank_blank
      · exact isBlank_nil
  | cons u t ih =>
    obtain ⟨left, hleft, heq⟩ := ih (isSpace u)
    refine ⟨left, hleft, ?_⟩
    cases hu : isSpace u <;> cases inRun <;> simp_all [collapseFrom]

/-- Whether a run is open before a text makes no difference once it is trimmed. -/
theorem trimStart_collapseFrom (t : Text) (inRun : Bool) :
    trimStart (collapseFrom inRun t) = trimStart (collapseFrom true t) := by
  cases inRun with
  | true => rfl
  | false =>
    cases t with
    | nil => rfl
    | cons u rest =>
      by_cases hu : isSpace u = true
      · have hblank := trimStart_append_left isBlank_blank (collapseFrom true rest)
        simpa [collapseFrom, hu] using hblank
      · simp [collapseFrom, hu]

/-! ## Folding -/

theorem fold_replace {run run' : Text} (h : IsBlank run) (h' : IsBlank run') (hne : run ≠ [])
    (hne' : run' ≠ []) (pre post : Text) :
    fold (pre ++ run ++ post) = fold (pre ++ run' ++ post) := by
  have hcollapse : collapse (pre ++ (run ++ post)) = collapse (pre ++ (run' ++ post)) :=
    collapseFrom_append_congr
      (fun inRun => by rw [collapseFrom_run h hne, collapseFrom_run h' hne']) pre false
  rw [fold, fold, List.append_assoc, List.append_assoc, hcollapse]

theorem fold_append_left {run : Text} (h : IsBlank run) (t : Text) : fold (run ++ t) = fold t := by
  rw [fold, fold, trim, trim, collapse, collapse, trimStart_collapseFrom, trimStart_collapseFrom t,
    collapseFrom_true_run h]

theorem fold_append_right {run : Text} (h : IsBlank run) (t : Text) :
    fold (t ++ run) = fold t := by
  obtain ⟨left, hleft, heq⟩ := collapseFrom_append_blank h t false
  rw [fold, fold, collapse, heq, trim_append_right hleft]
  rfl

/-- One text is another one with a run of white space replaced by another run, or with white
space added or removed at an end. -/
inductive Respaced : Text → Text → Prop where
  | run {run run' : Text} (pre post : Text) (h : IsBlank run) (h' : IsBlank run')
      (hne : run ≠ []) (hne' : run' ≠ []) : Respaced (pre ++ run ++ post) (pre ++ run' ++ post)
  | addStart {run : Text} (t : Text) (h : IsBlank run) : Respaced t (run ++ t)
  | dropStart {run : Text} (t : Text) (h : IsBlank run) : Respaced (run ++ t) t
  | addEnd {run : Text} (t : Text) (h : IsBlank run) : Respaced t (t ++ run)
  | dropEnd {run : Text} (t : Text) (h : IsBlank run) : Respaced (t ++ run) t

/-- Respaced texts are folded to the same text. -/
theorem Respaced.fold_eq {s t : Text} (h : Respaced s t) : fold s = fold t := by
  cases h with
  | run pre post h h' hne hne' => exact fold_replace h h' hne hne' pre post
  | addStart t h => exact (fold_append_left h _).symm
  | dropStart t h => exact fold_append_left h _
  | addEnd t h => exact (fold_append_right h _).symm
  | dropEnd t h => exact fold_append_right h _

end SurfaceGuard.Text
