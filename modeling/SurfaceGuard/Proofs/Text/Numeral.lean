import SurfaceGuard.Text.Basic
import Mathlib.Tactic

/-!
# Decimal numerals

What the decimal form of a natural looks like, and what a list of digits is worth.  The
reader of numbers only needs three facts about `Text.ofNat`: it is made of digits
(`ofNat_digits`), it does not start with a zero unless it is zero (`head?_ofNat_ne_zero`),
and `Text.toNat` takes it back (`toNat_ofNat`).
-/

namespace SurfaceGuard.Text

/-! ## The value of digits -/

theorem foldl_digits (a : Nat) (t : Text) :
    t.foldl (fun n u => n * 10 + (u.toNat - 0x30)) a = a * 10 ^ t.length + toNat t := by
  induction t generalizing a with
  | nil => simp [toNat]
  | cons u t ih =>
    have h : toNat (u :: t) = (u.toNat - 0x30) * 10 ^ t.length + toNat t := by
      rw [toNat, List.foldl_cons, ih]
      simp
    rw [List.foldl_cons, ih, h, List.length_cons, pow_succ]
    ring

theorem toNat_append (s t : Text) : toNat (s ++ t) = toNat s * 10 ^ t.length + toNat t := by
  rw [toNat, List.foldl_append, foldl_digits]
  rfl

theorem toNat_cons (u : CodeUnit) (t : Text) :
    toNat (u :: t) = (u.toNat - 0x30) * 10 ^ t.length + toNat t := by
  rw [toNat, List.foldl_cons, foldl_digits]
  simp

theorem toNat_replicate_zero (k : Nat) : toNat (List.replicate k 0x30) = 0 := by
  induction k with
  | zero => rfl
  | succ k ih => rw [List.replicate_succ, toNat_cons, ih]; simp

/-! ## The digits of a natural -/

theorem toNat_decimalDigit {d : Nat} (h : d < 10) : (0x30 + d).toUInt16.toNat = 0x30 + d := by
  rw [Nat.toUInt16_eq, UInt16.toNat_ofNat']
  omega

theorem isDigit_iff {u : CodeUnit} : isDigit u = true ↔ 0x30 ≤ u.toNat ∧ u.toNat ≤ 0x39 := by
  simp [isDigit, UInt16.le_iff_toNat_le]

theorem ofNat_of_lt {n : Nat} (h : n < 10) : ofNat n = [(0x30 + n).toUInt16] := by
  rw [ofNat, Nat.toDigits_of_lt_base h, List.map_singleton, Nat.toNat_digitChar_of_lt_ten h]

theorem ofNat_of_le {n : Nat} (h : 10 ≤ n) :
    ofNat n = ofNat (n / 10) ++ [(0x30 + n % 10).toUInt16] := by
  have hd : n % 10 < 10 := Nat.mod_lt n (by decide)
  rw [ofNat, Nat.toDigits_of_base_le (by decide) h, List.map_append, List.map_singleton,
    Nat.toNat_digitChar_of_lt_ten hd]
  rfl

/-- The decimal form of a natural is made of digits. -/
theorem ofNat_digits (n : Nat) : ∀ u ∈ ofNat n, isDigit u = true := by
  induction n using Nat.strong_induction_on with
  | _ n ih =>
    intro u hu
    by_cases h : n < 10
    · rw [ofNat_of_lt h, List.mem_singleton] at hu
      rw [hu, isDigit_iff, toNat_decimalDigit h]
      omega
    · rw [ofNat_of_le (by omega)] at hu
      rcases List.mem_append.1 hu with hu | hu
      · exact ih (n / 10) (by omega) u hu
      · have hd : n % 10 < 10 := Nat.mod_lt n (by decide)
        rw [List.mem_singleton.1 hu, isDigit_iff, toNat_decimalDigit hd]
        omega

theorem ofNat_ne_nil (n : Nat) : ofNat n ≠ [] := by
  simp [ofNat]

/-- Reading the decimal form of a natural gives the natural. -/
theorem toNat_ofNat (n : Nat) : toNat (ofNat n) = n := by
  induction n using Nat.strong_induction_on with
  | _ n ih =>
    by_cases h : n < 10
    · rw [ofNat_of_lt h, toNat_cons, toNat_decimalDigit h]
      simp [toNat]
    · have hd : n % 10 < 10 := Nat.mod_lt n (by decide)
      rw [ofNat_of_le (by omega), toNat_append, ih (n / 10) (by omega), toNat_cons,
        toNat_decimalDigit hd]
      simp [toNat]
      omega

/-- The decimal form of a positive natural does not start with a zero. -/
theorem head?_ofNat_ne_zero {n : Nat} (h : n ≠ 0) : (ofNat n).head? ≠ some 0x30 := by
  induction n using Nat.strong_induction_on with
  | _ n ih =>
    by_cases h10 : n < 10
    · rw [ofNat_of_lt h10, List.head?_cons]
      intro hc
      have hz := congrArg UInt16.toNat (Option.some.inj hc)
      rw [toNat_decimalDigit h10] at hz
      simp at hz
      exact h hz
    · rw [ofNat_of_le (by omega), List.head?_append_of_ne_nil _ (ofNat_ne_nil _)]
      exact ih (n / 10) (by omega) (by omega)

end SurfaceGuard.Text
