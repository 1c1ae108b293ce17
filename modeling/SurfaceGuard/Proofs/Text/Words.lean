import Mathlib.Data.List.Chain
import SurfaceGuard.Proofs.Text.Space

/-!
# The words of a text

The words of a text are its maximal runs of units that are no white space, in order
(`isRuns_iff`).  A folded text is those words with single blanks between them
(`fold_eq_join_words`), so texts are folded to the same text exactly if they have the same words
(`fold_eq_fold_iff`), and a text is folded already exactly if it is tidy (`fold_eq_self_iff`).

Folding is followed along the runs of a text: each gap may be replaced by a blank
(`IsRuns.fold_append`), and what is left then is tidy (`isTidy_join`).
-/

namespace SurfaceGuard.Text

/-! ## Runs -/

/-- Some units, and none of them white space. -/
def IsWord (w : Text) : Prop := w ≠ [] ∧ ∀ u ∈ w, isSpace u = false

/-- The text is over, or goes on with white space. -/
def IsBorder (t : Text) : Prop := ∀ u ∈ t.head?, isSpace u = true

theorem isBorder_nil : IsBorder [] := nofun

/-- The maximal runs of units that are no white space, in order.  A run ends at a border, so the gap
before the next one is not empty. -/
inductive IsRuns : Text → List Text → Prop where
  | nil {gap : Text} (h : IsBlank gap) : IsRuns gap []
  | cons {gap w rest : Text} {ws : List Text} (hgap : IsBlank gap) (hw : IsWord w)
      (hborder : IsBorder rest) (h : IsRuns rest ws) : IsRuns (gap ++ w ++ rest) (w :: ws)

theorem IsRuns.cons_space {u : CodeUnit} {t : Text} {ws : List Text} (hu : isSpace u = true)
    (h : IsRuns t ws) : IsRuns (u :: t) ws := by
  cases h with
  | nil h => exact .nil (isBlank_cons.2 ⟨hu, h⟩)
  | cons hgap hw hborder h =>
    rw [← List.cons_append, ← List.cons_append]
    exact .cons (isBlank_cons.2 ⟨hu, hgap⟩) hw hborder h

theorem IsRuns.isWord {t : Text} {ws : List Text} (h : IsRuns t ws) : ∀ w ∈ ws, IsWord w := by
  induction h with
  | nil => exact List.forall_mem_nil _
  | cons _ hw _ _ ih => exact List.forall_mem_cons.2 ⟨hw, ih⟩

/-! ### Reading runs -/

theorem wordsFrom_nil {run : Text} (h : run ≠ []) : wordsFrom run [] = [run] := by
  cases run with
  | nil => exact absurd rfl h
  | cons u run => rfl

theorem wordsFrom_cons (run : Text) (u : CodeUnit) (rest : Text) :
    wordsFrom run (u :: rest)
      = if isSpace u then
          if run.isEmpty then wordsFrom [] rest else run :: wordsFrom [] rest
        else wordsFrom (run ++ [u]) rest := by
  cases run <;> rfl

theorem wordsFrom_space {u : CodeUnit} (hu : isSpace u = true) (run rest : Text) :
    wordsFrom run (u :: rest)
      = if run.isEmpty then wordsFrom [] rest else run :: wordsFrom [] rest := by
  rw [wordsFrom_cons, if_pos hu]

theorem wordsFrom_unit {u : CodeUnit} (hu : isSpace u = false) (run rest : Text) :
    wordsFrom run (u :: rest) = wordsFrom (run ++ [u]) rest := by
  rw [wordsFrom_cons, if_neg (Bool.eq_false_iff.1 hu)]

theorem wordsFrom_blank {gap : Text} (h : IsBlank gap) (rest : Text) :
    wordsFrom [] (gap ++ rest) = wordsFrom [] rest := by
  induction gap with
  | nil => rfl
  | cons u gap ih =>
    obtain ⟨hu, hgap⟩ := isBlank_cons.1 h
    rw [List.cons_append, wordsFrom_space hu]
    exact ih hgap

theorem wordsFrom_word {w : Text} (h : ∀ u ∈ w, isSpace u = false) (run rest : Text) :
    wordsFrom run (w ++ rest) = wordsFrom (run ++ w) rest := by
  induction w generalizing run with
  | nil => rw [List.nil_append, List.append_nil]
  | cons u w ih =>
    obtain ⟨hu, hw⟩ := List.forall_mem_cons.1 h
    rw [List.cons_append, wordsFrom_unit hu, ih hw, ← List.append_cons]

theorem wordsFrom_border {run rest : Text} (hne : run ≠ []) (h : IsBorder rest) :
    wordsFrom run rest = run :: wordsFrom [] rest := by
  cases rest with
  | nil => exact wordsFrom_nil hne
  | cons u rest =>
    have hempty : ¬run.isEmpty = true := fun hempty => hne (List.isEmpty_iff.1 hempty)
    rw [wordsFrom_space (h u rfl), if_neg hempty, wordsFrom_space (h u rfl)]
    rfl

theorem IsRuns.words_eq {t : Text} {ws : List Text} (h : IsRuns t ws) : words t = ws := by
  rw [words]
  induction h with
  | nil h =>
    have hgap := wordsFrom_blank h []
    rwa [List.append_nil] at hgap
  | cons hgap hw hborder _ ih =>
    rw [List.append_assoc, wordsFrom_blank hgap, wordsFrom_word hw.2, List.nil_append,
      wordsFrom_border hw.1 hborder, ih]

theorem isRuns_wordsFrom (t : Text) {run : Text} (h : ∀ u ∈ run, isSpace u = false) :
    IsRuns (run ++ t) (wordsFrom run t) := by
  fun_induction wordsFrom run t with
  | case1 => exact .nil isBlank_nil
  | case2 run hne => exact .cons isBlank_nil ⟨hne, h⟩ isBorder_nil (.nil isBlank_nil)
  | case3 run u rest hu hempty ih =>
    rw [List.isEmpty_iff.1 hempty]
    exact (ih (List.forall_mem_nil _)).cons_space hu
  | case4 run u rest hu hne ih =>
    have hword : IsWord run := ⟨fun hnil => hne (List.isEmpty_iff.2 hnil), h⟩
    have hborder : IsBorder (u :: rest) := fun v hv => Option.some.inj hv ▸ hu
    exact .cons isBlank_nil hword hborder ((ih (List.forall_mem_nil _)).cons_space hu)
  | case5 run u rest hu ih =>
    rw [List.append_cons]
    refine ih (List.forall_mem_append.2 ⟨h, ?_⟩)
    exact List.forall_mem_singleton.2 (Bool.eq_false_iff.2 hu)

theorem isRuns_words (t : Text) : IsRuns t (words t) := isRuns_wordsFrom t (List.forall_mem_nil _)

/-- The words of a text are its maximal runs. -/
theorem isRuns_iff {t : Text} {ws : List Text} : IsRuns t ws ↔ ws = words t :=
  ⟨fun h => h.words_eq.symm, fun h => h ▸ isRuns_words t⟩

theorem isWord_of_mem_words {t w : Text} (h : w ∈ words t) : IsWord w := (isRuns_words t).isWord w h

/-! ## Tidy texts -/

/-- The only white space is single blanks, and none of them at an end. -/
structure IsTidy (t : Text) : Prop where
  blanks : ∀ u ∈ t, isSpace u = true → u = blank
  single : t.IsChain fun u v => u = blank → v ≠ blank
  start : t.head? ≠ some blank
  finish : t.getLast? ≠ some blank

theorem isTidy_iff {t : Text} : t.IsTidy ↔ (∀ u ∈ t, isSpace u = true → u = blank)
    ∧ t.IsChain (fun u v => u = blank → v ≠ blank) ∧ t.head? ≠ some blank
    ∧ t.getLast? ≠ some blank :=
  ⟨fun ⟨hblanks, hsingle, hstart, hfinish⟩ => ⟨hblanks, hsingle, hstart, hfinish⟩,
    fun ⟨hblanks, hsingle, hstart, hfinish⟩ => ⟨hblanks, hsingle, hstart, hfinish⟩⟩

-- the units of the text are looked at, and not all units
instance (t : Text) : Decidable t.IsTidy :=
  @decidable_of_iff _ _ isTidy_iff.symm
    (@instDecidableAnd _ _ (List.decidableBAll _ t) inferInstance)

theorem isTidy_nil : IsTidy [] := by decide

theorem IsWord.isTidy {w : Text} (h : IsWord w) : w.IsTidy := by
  have hne : ∀ u ∈ w, u ≠ blank := by
    rintro u hu rfl
    exact absurd (h.2 _ hu) (by decide)
  have hpairs : w.Pairwise fun u v => u = blank → v ≠ blank :=
    List.pairwise_of_forall_mem_list fun _ _ v hv _ => hne v hv
  refine ⟨fun u hu hs => absurd hs (by simp [h.2 u hu]), hpairs.isChain, fun hs => ?_,
    fun hs => ?_⟩
  · exact hne _ (List.mem_of_mem_head? hs) rfl
  · exact hne _ (List.mem_of_mem_getLast? hs) rfl

/-- Two texts with a blank between them are tidy exactly if both are, and neither is empty. -/
theorem isTidy_append_blank_iff {s t : Text} :
    IsTidy (s ++ blank :: t) ↔ (s ≠ [] ∧ s.IsTidy) ∧ t ≠ [] ∧ t.IsTidy := by
  constructor
  · intro h
    have hs : s ≠ [] := by
      rintro rfl
      exact h.start rfl
    have ht : t ≠ [] := by
      rintro rfl
      exact h.finish (by simp)
    obtain ⟨hsingle, hrest, hlast⟩ := List.isChain_append.1 h.single
    obtain ⟨hhead, htail⟩ := List.isChain_cons.1 hrest
    obtain ⟨hblanks, hblanks'⟩ := List.forall_mem_append.1 h.blanks
    refine ⟨⟨hs, hblanks, hsingle, fun hb => ?_, fun hb => hlast _ hb _ rfl rfl rfl⟩, ht,
      (List.forall_mem_cons.1 hblanks').2, htail, fun hb => hhead _ hb rfl rfl, fun hb => ?_⟩
    · exact h.start (by rw [List.head?_append, hb]; rfl)
    · exact h.finish (by simp [List.getLast?_append, List.getLast?_cons, hb])
  · rintro ⟨⟨hs, hstidy⟩, ht, httidy⟩
    refine ⟨List.forall_mem_append.2 ⟨hstidy.blanks, List.forall_mem_cons.2 ⟨fun _ => rfl,
      httidy.blanks⟩⟩, List.isChain_append.2 ⟨hstidy.single, List.isChain_cons.2 ⟨?_,
      httidy.single⟩, ?_⟩, ?_, ?_⟩
    · rintro v hv - rfl
      exact httidy.start hv
    · rintro u hu v - rfl
      exact absurd hu hstidy.finish
    · obtain ⟨u, s, rfl⟩ := List.exists_cons_of_ne_nil hs
      exact hstidy.start
    · obtain ⟨t, u, rfl⟩ := List.eq_nil_or_concat t |>.resolve_left ht
      rw [List.append_cons, List.concat_eq_append, ← List.append_assoc, List.getLast?_concat]
      exact fun hb => httidy.finish (by rw [List.concat_eq_append, List.getLast?_concat, hb])

theorem join_cons {w : Text} {ws : List Text} (h : ws ≠ []) :
    join [blank] (w :: ws) = w ++ blank :: join [blank] ws := by
  obtain ⟨v, ws, rfl⟩ := List.exists_cons_of_ne_nil h
  simp [join]

theorem join_ne_nil {w : Text} {ws : List Text} (h : w ≠ []) : join [blank] (w :: ws) ≠ [] := by
  cases ws with
  | nil => simpa [join] using h
  | cons v ws => simp [join, h]

/-- Words with single blanks between them are a tidy text. -/
theorem isTidy_join {ws : List Text} (h : ∀ w ∈ ws, IsWord w) : IsTidy (join [blank] ws) := by
  induction ws with
  | nil => exact isTidy_nil
  | cons w ws ih =>
    obtain ⟨hw, hws⟩ := List.forall_mem_cons.1 h
    cases ws with
    | nil => simpa [join] using hw.isTidy
    | cons v ws =>
      have hv : v ≠ [] := (hws v List.mem_cons_self).1
      rw [join_cons (List.cons_ne_nil v ws)]
      exact isTidy_append_blank_iff.2 ⟨⟨hw.1, hw.isTidy⟩, join_ne_nil hv, ih hws⟩

/-! ## Folding -/

/-- Collapsing leaves white space that is single blanks, none of which goes on an open run. -/
theorem collapseFrom_eq_self {t : Text} {inRun : Bool}
    (hblanks : ∀ u ∈ t, isSpace u = true → u = blank)
    (hsingle : t.IsChain fun u v => u = blank → v ≠ blank)
    (hstart : inRun = true → t.head? ≠ some blank) : collapseFrom inRun t = t := by
  induction t generalizing inRun with
  | nil => rfl
  | cons u t ih =>
    obtain ⟨hu, ht⟩ := List.forall_mem_cons.1 hblanks
    obtain ⟨hnext, htail⟩ := List.isChain_cons.1 hsingle
    cases hspace : isSpace u with
    | true =>
      obtain rfl := hu hspace
      have hclosed : inRun = false := Bool.eq_false_iff.2 fun h => hstart h rfl
      have hrest : collapseFrom true t = t := ih ht htail fun _ hb => hnext _ hb rfl rfl
      simp [collapseFrom, hspace, hclosed, hrest]
    | false =>
      have hrest : collapseFrom false t = t := ih ht htail fun h => absurd h Bool.false_ne_true
      simp [collapseFrom, hspace, hrest]

theorem dropWhile_isSpace_eq_self {t : Text} (h : ∀ u ∈ t.head?, isSpace u = false) :
    t.dropWhile isSpace = t := by
  cases t with
  | nil => rfl
  | cons u t => exact List.dropWhile_cons_of_neg (by simp [h u rfl])

/-- A tidy text is left as it is. -/
theorem fold_of_isTidy {t : Text} (h : t.IsTidy) : fold t = t := by
  have hspace : ∀ u ∈ t, u ≠ blank → isSpace u = false := fun u hu hne =>
    Bool.eq_false_iff.2 fun hs => hne (h.blanks u hu hs)
  have hstart : trimStart t = t := by
    refine dropWhile_isSpace_eq_self fun u hu => hspace u (List.mem_of_mem_head? hu) ?_
    rintro rfl
    exact h.start hu
  have hfinish : trimEnd t = t := by
    rw [trimEnd, dropWhile_isSpace_eq_self, List.reverse_reverse]
    intro u hu
    rw [List.head?_reverse] at hu
    refine hspace u (List.mem_of_mem_getLast? hu) ?_
    rintro rfl
    exact h.finish hu
  have hcollapse : collapse t = t :=
    collapseFrom_eq_self h.blanks h.single fun hb => absurd hb Bool.false_ne_true
  rw [fold, hcollapse, trim, hstart, hfinish]

/-- At a border there may be one more blank. -/
theorem fold_border {rest : Text} (h : IsBorder rest) (pre : Text) :
    fold (pre ++ rest) = fold (pre ++ blank :: rest) := by
  cases rest with
  | nil => rw [fold_append_right isBlank_nil, fold_append_right isBlank_blank]
  | cons u rest =>
    have hu : IsBlank [u] := isBlank_cons.2 ⟨h u rfl, isBlank_nil⟩
    have hmore : IsBlank [blank, u] := isBlank_cons.2 ⟨rfl, hu⟩
    simpa using fold_replace hu hmore nofun nofun pre rest

theorem fold_append_join (pre w : Text) (ws : List Text) :
    fold (pre ++ w ++ blank :: join [blank] ws) = fold (pre ++ join [blank] (w :: ws)) := by
  cases ws with
  | nil =>
    have hone : join [blank] [w] = w := by simp [join]
    rw [hone]
    exact fold_append_right isBlank_blank _
  | cons v ws => rw [join_cons (List.cons_ne_nil v ws), List.append_assoc]

/-- Behind a blank, the gaps of a text may be replaced by single blanks. -/
theorem IsRuns.fold_append {t : Text} {ws : List Text} (h : IsRuns t ws) (pre : Text) :
    fold (pre ++ blank :: t) = fold (pre ++ blank :: join [blank] ws) := by
  induction h generalizing pre with
  | nil h =>
    rw [fold_append_right (isBlank_cons.2 ⟨rfl, h⟩)]
    exact (fold_append_right isBlank_blank pre).symm
  | @cons gap w rest ws hgap hw hborder h ih =>
    have hgap' : IsBlank (blank :: gap) := isBlank_cons.2 ⟨rfl, hgap⟩
    calc fold (pre ++ blank :: (gap ++ w ++ rest))
        = fold (pre ++ blank :: gap ++ (w ++ rest)) := by simp
      _ = fold (pre ++ [blank] ++ (w ++ rest)) :=
        fold_replace hgap' isBlank_blank nofun nofun pre (w ++ rest)
      _ = fold (pre ++ [blank] ++ w ++ rest) := by simp only [List.append_assoc]
      _ = fold (pre ++ [blank] ++ w ++ blank :: rest) := fold_border hborder _
      _ = fold (pre ++ [blank] ++ w ++ blank :: join [blank] ws) := ih _
      _ = fold (pre ++ [blank] ++ join [blank] (w :: ws)) := fold_append_join _ w ws
      _ = fold (pre ++ blank :: join [blank] (w :: ws)) := by simp

/-- A folded text is its words with single blanks between them. -/
theorem fold_eq_join_words (t : Text) : fold t = join [blank] (words t) :=
  calc fold t
      = fold (blank :: t) := (fold_append_left isBlank_blank t).symm
    _ = fold (blank :: join [blank] (words t)) := (isRuns_words t).fold_append []
    _ = fold (join [blank] (words t)) := fold_append_left isBlank_blank _
    _ = join [blank] (words t) := fold_of_isTidy (isTidy_join fun _ => isWord_of_mem_words)

/-- What is folded is tidy. -/
theorem isTidy_fold (t : Text) : (fold t).IsTidy := by
  rw [fold_eq_join_words]
  exact isTidy_join fun _ => isWord_of_mem_words

/-- The texts that folding leaves are the tidy ones. -/
theorem fold_eq_self_iff {t : Text} : fold t = t ↔ t.IsTidy :=
  ⟨fun h => h ▸ isTidy_fold t, fold_of_isTidy⟩

/-- Words with single blanks between them are read back. -/
theorem words_join {ws : List Text} (h : ∀ w ∈ ws, IsWord w) : words (join [blank] ws) = ws := by
  refine IsRuns.words_eq ?_
  induction ws with
  | nil => exact .nil isBlank_nil
  | cons w ws ih =>
    obtain ⟨hw, hws⟩ := List.forall_mem_cons.1 h
    cases ws with
    | nil =>
      have hone := IsRuns.cons isBlank_nil hw isBorder_nil (.nil isBlank_nil)
      simpa [join] using hone
    | cons v ws =>
      rw [join_cons (List.cons_ne_nil v ws)]
      have hborder : IsBorder (blank :: join [blank] (v :: ws)) := fun u hu =>
        Option.some.inj hu ▸ rfl
      exact .cons isBlank_nil hw hborder ((ih hws).cons_space rfl)

/-- Texts are folded to the same text exactly if they have the same words. -/
theorem fold_eq_fold_iff {s t : Text} : fold s = fold t ↔ words s = words t := by
  rw [fold_eq_join_words, fold_eq_join_words]
  constructor
  · intro h
    have hwords := congrArg words h
    rwa [words_join fun _ => isWord_of_mem_words, words_join fun _ => isWord_of_mem_words] at hwords
  · exact congrArg _

end SurfaceGuard.Text
