import SurfaceGuard.Proofs.Number.Decimal

/-!
# Numbers that are naturals

A number that is whole and positive is exactly some natural, and what is asked of the number can be
asked of that natural.
-/

namespace SurfaceGuard.Number

/-- The number is the natural, exactly. -/
def Is (x : Number) (n : Nat) : Prop :=
  ∃ k : Fin limit, x = finite false k ∧ units k = n * unitsPerOne

variable {x : Number} {n m : Nat}

theorem units_zero : units 0 = 0 := units_of_lt (by decide)

/-- The whole positive numbers are the positive naturals that are numbers. -/
theorem isWhole_and_isPositive_iff :
    x.isWhole = true ∧ x.isPositive = true ↔ ∃ n, 0 < n ∧ x.Is n := by
  constructor
  · rintro ⟨hwhole, hpositive⟩
    cases x with
    | finite negative k =>
      rw [isPositive, Bool.and_eq_true, Bool.not_eq_true', bne_iff_ne] at hpositive
      obtain ⟨rfl, hk⟩ := hpositive
      obtain ⟨n, hn⟩ := Nat.dvd_of_mod_eq_zero (beq_iff_eq.1 hwhole)
      refine ⟨n, Nat.pos_of_ne_zero ?_, k, rfl, by rw [hn, Nat.mul_comm]⟩
      rintro rfl
      rw [Nat.mul_zero] at hn
      exact (units_pos hk).ne' hn
    | infinite negative => cases hwhole
    | nan => cases hwhole
  · rintro ⟨n, hn, k, rfl, hk⟩
    have hzero : k.val ≠ 0 := by
      intro h
      rw [h, units_zero] at hk
      exact (Nat.mul_pos hn unitsPerOne_pos).ne hk
    refine ⟨?_, ?_⟩
    · rw [isWhole, hk, Nat.mul_mod_left]
      rfl
    · rw [isPositive, Bool.not_false, Bool.true_and, bne_iff_ne]
      exact hzero

theorem Is.ltNat_iff (h : x.Is n) : x.ltNat m = true ↔ n < m := by
  obtain ⟨k, rfl, hk⟩ := h
  rw [ltNat, decide_eq_true_iff, hk]
  exact Nat.mul_lt_mul_right unitsPerOne_pos

theorem Is.toInt_eq (h : x.Is n) : x.toInt = n := by
  obtain ⟨k, rfl, hk⟩ := h
  rw [toInt, hk, Nat.mul_div_cancel _ unitsPerOne_pos]

theorem Is.eq (h : x.Is n) (h' : x.Is m) : n = m :=
  Int.ofNat_inj.1 (h.toInt_eq.symm.trans h'.toInt_eq)

end SurfaceGuard.Number
