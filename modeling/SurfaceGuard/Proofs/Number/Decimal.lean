import SurfaceGuard.Number.Decimal
import SurfaceGuard.Proofs.Number.Rounding

/-!
# The decimal of a magnitude

The decimal that is written for a magnitude is rounded to that magnitude
(`value_decimalOf`).  The search for the shortest digits only returns digits that were
read back, and the exact value, which stands behind it, is read without any rounding.
-/

namespace SurfaceGuard.Number

namespace Decimal

/-- The number that a decimal is rounded to. -/
def value (negative : Bool) (d : Decimal) : Number := ofDecimal negative d.digits d.exponent

theorem readsAs_iff {d : Decimal} {k : Fin limit} :
    d.readsAs k = true ↔ d.value false = finite false k := by
  rw [readsAs, beq_iff_eq, value]

/-- Zeros at the end of the digits do not change the number. -/
theorem value_strip (negative : Bool) (fuel : Nat) (d : Decimal) :
    (strip fuel d).value negative = d.value negative := by
  induction fuel generalizing d with
  | zero => rfl
  | succ fuel ih =>
    rw [strip]
    split
    · rename_i h
      have hd : d.digits / 10 * 10 = d.digits := by omega
      rw [ih, value, value, ← ofDecimal_mul_ten, hd]
    · rfl

end Decimal

/-! ## The shortest digits -/

theorem value_of_onGrid? {k : Fin limit} {exponent : Int} {d : Decimal}
    (h : onGrid? k exponent = some d) : d.value false = finite false k := by
  rw [← Decimal.readsAs_iff]
  simp only [onGrid?] at h
  split at h
  · rename_i hb _
    cases h
    exact hb
  · rename_i _ ha
    cases h
    exact ha
  · rename_i hb ha
    split at h
    · cases h
      exact hb
    · cases h
      exact ha
  · cases h

theorem value_of_shortest? {k : Fin limit} {d : Decimal} (h : shortest? k = some d) :
    d.value false = finite false k := by
  obtain ⟨n, -, hn⟩ := List.exists_of_findSome?_eq_some h
  obtain ⟨d', hd', rfl⟩ := Option.map_eq_some_iff.1 hn
  rw [Decimal.value_strip]
  exact value_of_onGrid? hd'

/-! ## The exact digits -/

theorem units_pos {k : Nat} (hk : k ≠ 0) : 0 < units k := by
  by_cases h : k < binade
  · rw [units_of_lt h]
    omega
  · rw [units_of_le (Nat.not_lt.1 h)]
    exact Nat.mul_pos (Nat.add_pos_left (by decide) _) (Nat.two_pow_pos _)

theorem units_lt {k n : ℕ} (hk : k < limit) (hn : 2098 ≤ n) : units k < 2 ^ n := by
  by_cases h : k < binade
  · rw [units_of_lt h]
    calc k < 2 ^ 52 := h
      _ ≤ 2 ^ n := Nat.pow_le_pow_right (by decide) (by omega)
  · have hb : binade ≤ k := Nat.not_lt.1 h
    have hm : k % binade < binade := Nat.mod_lt k (by decide)
    have hs : k / binade < 2047 := (Nat.div_lt_iff_lt_mul (by decide)).2 (hk.trans_le (by decide))
    rw [units_of_le hb]
    calc (binade + k % binade) * 2 ^ (k / binade - 1)
        < 2 ^ 53 * 2 ^ (k / binade - 1) :=
          Nat.mul_lt_mul_of_pos_right (Nat.add_lt_add_left hm _) (Nat.two_pow_pos _)
      _ = 2 ^ (53 + (k / binade - 1)) := (pow_add 2 53 _).symm
      _ ≤ 2 ^ n := Nat.pow_le_pow_right (by decide) (by omega)

theorem mul_five_pow_lt {u p r n : ℕ} (hu : u < 2 ^ (p + r)) (hr : r ≤ 3 * n) :
    u * 5 ^ p < 10 ^ (p + n) := by
  have h8 : (2 : ℕ) ^ r ≤ 10 ^ n := by
    calc (2 : ℕ) ^ r ≤ 2 ^ (3 * n) := Nat.pow_le_pow_right (by decide) hr
      _ = 8 ^ n := by rw [pow_mul]; norm_num
      _ ≤ 10 ^ n := Nat.pow_le_pow_left (by decide) n
  calc u * 5 ^ p < 2 ^ (p + r) * 5 ^ p := Nat.mul_lt_mul_of_pos_right hu (by positivity)
    _ = 10 ^ p * 2 ^ r := by
      rw [show (10 : ℕ) = 2 * 5 from rfl, mul_pow, pow_add]
      ring
    _ ≤ 10 ^ p * 10 ^ n := Nat.mul_le_mul_left _ h8
    _ = 10 ^ (p + n) := (pow_add _ _ _).symm

theorem le_mul_five_pow {u p n : ℕ} (hu : 0 < u) (hn : 3 * n ≤ p) :
    10 ^ (2 * n) ≤ u * 5 ^ p := by
  calc (10 : ℕ) ^ (2 * n) = 100 ^ n := by rw [pow_mul]; norm_num
    _ ≤ 125 ^ n := Nat.pow_le_pow_left (by decide) n
    _ = 5 ^ (3 * n) := by rw [pow_mul]; norm_num
    _ ≤ 5 ^ p := Nat.pow_le_pow_right (by decide) hn
    _ ≤ u * 5 ^ p := Nat.le_mul_of_pos_left _ hu

/-- The exact value has neither too many places nor too few, so it is not cut off. -/
theorem ofDecimal_exact {u p : ℕ} (hp : p = 1074) (hu : 0 < u) (hlt : u < 2 ^ (p + 1024)) :
    ofDecimal false (u * 5 ^ p) (-p) = ofRatio false u (2 ^ p) := by
  obtain ⟨n, hn⟩ : ∃ n, n = 358 := ⟨358, rfl⟩
  have hlow : 10 ^ (2 * n) ≤ u * 5 ^ p := le_mul_five_pow hu (by omega)
  have hhigh : u * 5 ^ p < 10 ^ (p + n) := mul_five_pow_lt hlt (by omega)
  have hne : u * 5 ^ p ≠ 0 := by positivity
  have h1 : (Nat.toDigits 10 (u * 5 ^ p)).length ≤ p + n :=
    (Nat.length_toDigits_le_iff (by decide) (by omega)).2 hhigh
  have h2 : ¬(Nat.toDigits 10 (u * 5 ^ p)).length ≤ 2 * n := by
    rw [Nat.length_toDigits_le_iff (by decide) (by omega)]
    exact Nat.not_lt.2 hlow
  obtain ⟨q, rfl⟩ : ∃ q, p = q + 1 := ⟨p - 1, by omega⟩
  have hs : ofScaled false (u * 5 ^ (q + 1)) (Int.negSucc q) = ofRatio false u (2 ^ (q + 1)) := by
    rw [ofScaled, show (10 : ℕ) = 2 * 5 from rfl, mul_pow, ofRatio_mul_mul _ _ _ (by positivity)]
  rw [ofDecimal_eq, if_neg hne, if_neg (by omega), if_neg (by omega), ← hs]
  rfl

theorem value_exactDigits {k : Fin limit} (hk : k.val ≠ 0) :
    (exactDigits k).value false = finite false k := by
  obtain ⟨p, hp, hone⟩ := exists_unitsPerOne_eq
  have hexact : exactDigits k = Decimal.strip 1100 ⟨units k * 5 ^ p, -p⟩ := by
    rw [show -(p : Int) = -1074 by rw [hp]; rfl]
    unfold exactDigits
    generalize 1074 = q at hp ⊢
    rw [hp, Nat.pow_eq]
  have hlt : units k < 2 ^ (p + 1024) := units_lt k.isLt (by omega)
  rw [hexact, Decimal.value_strip, Decimal.value, ofDecimal_exact hp (units_pos hk) hlt, ← hone,
    ofRatio_units]

/-- The decimal that is written for a magnitude is rounded to that magnitude. -/
theorem value_decimalOf {k : Fin limit} (hk : k.val ≠ 0) (negative : Bool) :
    (decimalOf k).value negative = finite negative k := by
  refine ofDecimal_negative negative ?_
  rw [decimalOf]
  cases h : shortest? k with
  | none =>
    rw [Option.getD_none]
    exact value_exactDigits hk
  | some d => exact value_of_shortest? h

theorem digits_decimalOf_ne_zero {k : Fin limit} (hk : k.val ≠ 0) : (decimalOf k).digits ≠ 0 := by
  intro h
  have hv := value_decimalOf hk false
  rw [Decimal.value, h, ofDecimal_zero, zero, finite.injEq] at hv
  exact hk (congrArg Fin.val hv.2).symm

end SurfaceGuard.Number
