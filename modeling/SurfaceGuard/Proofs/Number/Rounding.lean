import SurfaceGuard.Number.Basic
import Mathlib.Tactic

/-!
# Rounding to binary64

What the round trip of numbers needs of rounding.  It depends on the value of a quotient
alone (`position_mul_mul`), so zeros can be moved between the digits and the exponent of a
decimal (`ofDecimal_mul_pow`); and it fixes the magnitudes themselves (`position_units`).
-/

namespace SurfaceGuard.Number

/-! ## The value of a quotient -/

theorem roundHalfEven_mul_mul (num den : Nat) {c : Nat} (hc : 0 < c) :
    roundHalfEven (num * c) (den * c) = roundHalfEven num den := by
  have hq : num * c / (den * c) = num / den := Nat.mul_div_mul_right num den hc
  have hr : num * c % (den * c) = num % den * c := Nat.mul_mod_mul_right c num den
  have hlt : den * c < 2 * (num % den * c) ↔ den < 2 * (num % den) := by
    rw [← Nat.mul_assoc]
    exact Nat.mul_lt_mul_right hc
  have heq : den * c = 2 * (num % den * c) ↔ den = 2 * (num % den) := by
    rw [← Nat.mul_assoc]
    exact Nat.mul_left_inj hc.ne'
  simp only [roundHalfEven, hq, hr, hlt, Bool.or_eq_true, Bool.and_eq_true, beq_iff_eq,
    decide_eq_true_eq, heq]

/-- Rounding only depends on the value of a quotient. -/
theorem position_mul_mul (num den : Nat) {c : Nat} (hc : 0 < c) :
    position (num * c) (den * c) = position num den := by
  have hs : num * c * unitsPerOne = num * unitsPerOne * c := Nat.mul_right_comm _ _ _
  have hq : num * unitsPerOne * c / (den * c) = num * unitsPerOne / den :=
    Nat.mul_div_mul_right _ _ hc
  have hd : ∀ k, den * c * 2 ^ k = den * 2 ^ k * c := fun k => Nat.mul_right_comm _ _ _
  simp only [position, Nat.pow_eq, hs, hq, hd, roundHalfEven_mul_mul _ _ hc]

theorem ofRatio_mul_mul (negative : Bool) (num den : Nat) {c : Nat} (hc : 0 < c) :
    ofRatio negative (num * c) (den * c) = ofRatio negative num den := by
  simp only [ofRatio, position_mul_mul num den hc]

/-! ## Magnitudes -/

/-- The exponent is a variable, because powers as large as this must not be multiplied out. -/
theorem exists_unitsPerOne_eq : ∃ p, p = 1074 ∧ unitsPerOne = 2 ^ p := by
  unfold unitsPerOne
  generalize 1074 = p
  exact ⟨p, rfl, Nat.pow_eq⟩

theorem unitsPerOne_pos : 0 < unitsPerOne := by
  obtain ⟨p, -, hp⟩ := exists_unitsPerOne_eq
  rw [hp]
  exact Nat.two_pow_pos p

theorem roundHalfEven_mul_self (n : Nat) {d : Nat} (hd : 0 < d) : roundHalfEven (n * d) d = n := by
  simp [roundHalfEven, Nat.mul_div_cancel n hd, hd.ne']

theorem units_of_lt {k : Nat} (h : k < binade) : units k = k := by
  have hs : shift k = 0 := by
    rw [shift, Nat.div_eq_of_lt h]
  rw [units, significand, if_pos h, hs, Nat.pow_eq, pow_zero, mul_one]

theorem units_of_le {k : Nat} (h : binade ≤ k) :
    units k = (binade + k % binade) * 2 ^ (k / binade - 1) := by
  rw [units, significand, if_neg (Nat.not_lt.2 h), shift, Nat.pow_eq]

theorem log2_units_of_lt {k : Nat} (h : k < binade) : (units k).log2 - 52 = 0 := by
  rw [units_of_lt h]
  by_cases hk : k = 0
  · subst hk
    rfl
  · have hl : k.log2 < 52 := (Nat.log2_lt hk).2 h
    omega

theorem log2_units_of_le {k : Nat} (h : binade ≤ k) : (units k).log2 - 52 = k / binade - 1 := by
  have hb : binade = 2 ^ 52 := rfl
  have hm : k % binade < binade := Nat.mod_lt k (Nat.two_pow_pos 52)
  rw [units_of_le h]
  have hne : (binade + k % binade) * 2 ^ (k / binade - 1) ≠ 0 := by
    have h1 : 0 < binade := Nat.two_pow_pos 52
    have h2 : 0 < 2 ^ (k / binade - 1) := Nat.two_pow_pos _
    positivity
  have hl : ((binade + k % binade) * 2 ^ (k / binade - 1)).log2 = 52 + (k / binade - 1) := by
    refine (Nat.log2_eq_iff hne).2 ⟨?_, ?_⟩
    · rw [pow_add, ← hb]
      exact Nat.mul_le_mul_right _ (Nat.le_add_right _ _)
    · rw [show 52 + (k / binade - 1) + 1 = 53 + (k / binade - 1) by omega, pow_add]
      refine Nat.mul_lt_mul_of_pos_right ?_ (Nat.two_pow_pos _)
      calc binade + k % binade < binade + binade := Nat.add_lt_add_left hm _
        _ = 2 ^ 53 := rfl
  rw [hl]
  omega

/-- A magnitude is rounded to itself. -/
theorem position_units (k : Nat) : position (units k) unitsPerOne = k := by
  have hq : units k * unitsPerOne / unitsPerOne = units k := Nat.mul_div_cancel _ unitsPerOne_pos
  rw [position, hq, Nat.pow_eq]
  by_cases h : k < binade
  · rw [log2_units_of_lt h, units_of_lt h, zero_mul, zero_add, pow_zero, mul_one,
      roundHalfEven_mul_self k unitsPerOne_pos]
  · have hb : binade ≤ k := Nat.not_lt.1 h
    have hdiv : 0 < k / binade := Nat.div_pos hb (Nat.two_pow_pos 52)
    have hunits : units k * unitsPerOne
        = (binade + k % binade) * (unitsPerOne * 2 ^ (k / binade - 1)) := by
      rw [units_of_le hb]
      ring
    have hpos : 0 < unitsPerOne * 2 ^ (k / binade - 1) :=
      Nat.mul_pos unitsPerOne_pos (Nat.two_pow_pos _)
    rw [log2_units_of_le hb, hunits, roundHalfEven_mul_self _ hpos]
    obtain ⟨q, hq⟩ : ∃ q, k / binade = q + 1 := ⟨k / binade - 1, by omega⟩
    have hk : binade * (k / binade) + k % binade = k := Nat.div_add_mod k binade
    rw [hq, Nat.mul_add, Nat.mul_one, Nat.mul_comm] at hk
    rw [hq, Nat.add_sub_cancel, ← Nat.add_assoc, hk]

theorem ofRatio_units (negative : Bool) (k : Fin limit) :
    ofRatio negative (units k) unitsPerOne = finite negative k := by
  simp only [ofRatio, position_units, k.isLt, dite_true]

/-! ## Decimals -/

theorem ofDecimal_zero (negative : Bool) (exponent : Int) :
    ofDecimal negative 0 exponent = zero negative :=
  if_pos rfl

/-- The number nearest to digits with an exponent, by exact arithmetic alone. -/
def ofScaled (negative : Bool) (digits : Nat) : Int → Number
  | .ofNat e => ofRatio negative (digits * 10 ^ e) 1
  | .negSucc e => ofRatio negative digits (10 ^ (e + 1))

theorem ofDecimal_eq (negative : Bool) (d : Nat) (exponent : Int) :
    ofDecimal negative d exponent =
      if d = 0 then zero negative
      else if 400 < exponent + (Nat.toDigits 10 d).length then infinite negative
      else if exponent + (Nat.toDigits 10 d).length < -400 then zero negative
      else ofScaled negative d exponent := by
  cases exponent <;> rfl

theorem ofScaled_mul_ten (negative : Bool) (d : Nat) (exponent : Int) :
    ofScaled negative (d * 10) exponent = ofScaled negative d (exponent + 1) := by
  match exponent with
  | .ofNat e =>
    rw [show Int.ofNat e + 1 = Int.ofNat (e + 1) from rfl, ofScaled, ofScaled, pow_succ, mul_assoc,
      mul_comm 10]
  | .negSucc 0 =>
    rw [show Int.negSucc 0 + 1 = Int.ofNat 0 from rfl, ofScaled, ofScaled, pow_zero, mul_one,
      pow_succ, pow_zero, ofRatio_mul_mul negative d 1 (by decide)]
  | .negSucc (e + 1) =>
    rw [show Int.negSucc (e + 1) + 1 = Int.negSucc e from rfl, ofScaled, ofScaled,
      pow_succ _ (e + 1),
      ofRatio_mul_mul negative d _ (by decide)]

theorem length_toDigits_mul_ten {d : Nat} (hd : d ≠ 0) :
    (Nat.toDigits 10 (d * 10)).length = (Nat.toDigits 10 d).length + 1 := by
  rw [Nat.toDigits_of_base_le (by decide) (by omega), List.length_append,
    Nat.mul_div_cancel d (by decide), List.length_singleton]

/-- A zero at the end of the digits can be moved to the exponent. -/
theorem ofDecimal_mul_ten (negative : Bool) (d : Nat) (exponent : Int) :
    ofDecimal negative (d * 10) exponent = ofDecimal negative d (exponent + 1) := by
  by_cases hd : d = 0
  · subst hd
    rfl
  have hd10 : d * 10 ≠ 0 := by omega
  have htop : exponent + ((Nat.toDigits 10 (d * 10)).length : Int)
      = exponent + 1 + ((Nat.toDigits 10 d).length : Int) := by
    rw [length_toDigits_mul_ten hd]
    push_cast
    ring
  rw [ofDecimal_eq, ofDecimal_eq, if_neg hd, if_neg hd10, htop, ofScaled_mul_ten]

/-- Zeros at the end of the digits can be moved to the exponent. -/
theorem ofDecimal_mul_pow (negative : Bool) (d n : Nat) (exponent : Int) :
    ofDecimal negative (d * 10 ^ n) exponent = ofDecimal negative d (exponent + n) := by
  induction n generalizing exponent with
  | zero => simp
  | succ n ih =>
    rw [pow_succ, ← mul_assoc, ofDecimal_mul_ten, ih]
    congr 1
    push_cast
    ring

theorem ofRatio_negative {num den : Nat} {k : Fin limit} (negative : Bool)
    (h : ofRatio false num den = finite false k) :
    ofRatio negative num den = finite negative k := by
  simp only [ofRatio] at h ⊢
  split at h
  · rename_i hk
    rw [finite.injEq] at h
    rw [dif_pos hk, h.2]
  · cases h

theorem zero_negative {k : Fin limit} (negative : Bool) (h : zero false = finite false k) :
    zero negative = finite negative k := by
  rw [zero, finite.injEq] at h
  rw [zero, h.2]

/-- The sign of a decimal is the sign of its number. -/
theorem ofDecimal_negative {d : Nat} {exponent : Int} {k : Fin limit} (negative : Bool)
    (h : ofDecimal false d exponent = finite false k) :
    ofDecimal negative d exponent = finite negative k := by
  rw [ofDecimal_eq] at h ⊢
  split_ifs at h ⊢ with hd htop hlow
  · exact zero_negative negative h
  · exact zero_negative negative h
  · cases exponent with
    | ofNat e =>
      rw [ofScaled] at h ⊢
      exact ofRatio_negative negative h
    | negSucc e =>
      rw [ofScaled] at h ⊢
      exact ofRatio_negative negative h

end SurfaceGuard.Number
