import SurfaceGuard.Text.Basic
import Mathlib.Tactic

/-!
# The order by code unit

`Text.le` is a linear order, so `Text.sort` has one value for all arrangements of the
same texts (`sort_eq_sort`).
-/

namespace SurfaceGuard.Text

/-! ## A linear order -/

theorem le_cons_iff {u v : CodeUnit} {s t : Text} :
    le (u :: s) (v :: t) = true ↔ u.toNat < v.toNat ∨ u = v ∧ le s t = true := by
  simp [le, UInt16.lt_iff_toNat_lt]

theorem le_total (s t : Text) : le s t = true ∨ le t s = true := by
  induction s generalizing t with
  | nil => exact Or.inl rfl
  | cons u s ih =>
    cases t with
    | nil => exact Or.inr rfl
    | cons v t =>
      rw [le_cons_iff, le_cons_iff]
      rcases lt_trichotomy u.toNat v.toNat with h | h | h
      · exact Or.inl (Or.inl h)
      · have huv : u = v := UInt16.toNat_inj.1 h
        rcases ih t with h' | h'
        · exact Or.inl (Or.inr ⟨huv, h'⟩)
        · exact Or.inr (Or.inr ⟨huv.symm, h'⟩)
      · exact Or.inr (Or.inl h)

theorem le_trans {r s t : Text} (hrs : le r s = true) (hst : le s t = true) : le r t = true := by
  induction r generalizing s t with
  | nil => rfl
  | cons u r ih =>
    cases s with
    | nil => simp [le] at hrs
    | cons v s =>
      cases t with
      | nil => simp [le] at hst
      | cons w t =>
        rw [le_cons_iff] at hrs hst ⊢
        rcases hrs with huv | ⟨rfl, hrs⟩
        · rcases hst with hvw | ⟨rfl, -⟩
          · exact Or.inl (huv.trans hvw)
          · exact Or.inl huv
        · rcases hst with huw | ⟨rfl, hst⟩
          · exact Or.inl huw
          · exact Or.inr ⟨rfl, ih hrs hst⟩

theorem le_antisymm {s t : Text} (hst : le s t = true) (hts : le t s = true) : s = t := by
  induction s generalizing t with
  | nil =>
    cases t with
    | nil => rfl
    | cons v t => simp [le] at hts
  | cons u s ih =>
    cases t with
    | nil => simp [le] at hst
    | cons v t =>
      rw [le_cons_iff] at hst hts
      rcases hst with huv | ⟨rfl, hst⟩
      · rcases hts with hvu | ⟨rfl, -⟩
        · exact absurd hvu huv.asymm
        · exact absurd huv (Nat.lt_irrefl _)
      · rcases hts with huu | ⟨-, hts⟩
        · exact absurd huu (Nat.lt_irrefl _)
        · rw [ih hst hts]

/-! ## Sorting -/

theorem sort_perm (l : List Text) : (sort l).Perm l := List.mergeSort_perm l le

theorem sort_pairwise (l : List Text) : (sort l).Pairwise fun s t => le s t = true :=
  @List.pairwise_mergeSort Text le (fun _ _ _ => le_trans)
    (fun s t => Bool.or_eq_true_iff.2 (le_total s t)) l

/-- Arrangements of the same texts have the same sorted list. -/
theorem sort_eq_sort {l m : List Text} (h : l.Perm m) : sort l = sort m := by
  refine List.Perm.eq_of_pairwise (fun s t _ _ => le_antisymm) (sort_pairwise l) (sort_pairwise m)
    ?_
  exact ((sort_perm l).trans h).trans (sort_perm m).symm

theorem sort_eq_nil_iff {l : List Text} : sort l = [] ↔ l = [] := by
  constructor
  · intro h
    have hp := sort_perm l
    rw [h] at hp
    exact hp.symm.eq_nil
  · rintro rfl
    exact List.mergeSort_nil

end SurfaceGuard.Text
