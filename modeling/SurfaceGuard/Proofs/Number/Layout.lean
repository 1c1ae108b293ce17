import SurfaceGuard.Number.Decimal
import SurfaceGuard.Proofs.Text.Numeral

/-!
# The units of a number

The text of a number has no separators of paths in it, and one point at most
(`toText_cases`).
-/

namespace SurfaceGuard

/-- A text of ASCII without a point and without a separator of paths. -/
def Text.IsPlain (t : Text) : Prop := ∀ u ∈ t, u.toNat < 0x80 ∧ u ≠ 0x2E ∧ u ≠ 0x2F

namespace Text

instance (t : Text) : Decidable t.IsPlain := List.decidableBAll _ t

theorem IsPlain.append {s t : Text} (hs : s.IsPlain) (ht : t.IsPlain) : IsPlain (s ++ t) := by
  intro u hu
  rcases List.mem_append.1 hu with hu | hu
  · exact hs u hu
  · exact ht u hu

theorem isPlain_ofNat (n : Nat) : IsPlain (ofNat n) := by
  intro u hu
  have hdigit := isDigit_iff.1 (ofNat_digits n u hu)
  refine ⟨by omega, ?_, ?_⟩ <;> rintro rfl <;> exact absurd hdigit (by decide)

theorem IsPlain.of_subset {s t : Text} (ht : t.IsPlain) (h : s ⊆ t) : s.IsPlain :=
  fun u hu => ht u (h hu)

end Text

namespace Number

open Text

theorem isPlain_zeros (n : Nat) : IsPlain (zeros n) := by
  intro u hu
  rw [List.eq_of_mem_replicate hu]
  decide

theorem isPlain_exponentText (e : Int) : IsPlain (exponentText e) := by
  have hsign : IsPlain [0x65, if e < 0 then 0x2D else 0x2B] := by
    split <;> decide
  exact hsign.append (isPlain_ofNat e.natAbs)

/-- There is one point at most in the text of a decimal. -/
theorem layout_cases (d : Decimal) :
    IsPlain (layout d) ∨ ∃ s t, layout d = s ++ 0x2E :: t ∧ IsPlain s ∧ IsPlain t := by
  have hdigits := isPlain_ofNat d.digits
  rw [layout]
  split
  · exact Or.inl (hdigits.append (isPlain_zeros _))
  split
  · exact Or.inr ⟨_, _, rfl, hdigits.of_subset (List.take_subset _ _),
      hdigits.of_subset (List.drop_subset _ _)⟩
  split
  · exact Or.inr ⟨[0x30], _, rfl, isPlain_ofNat 0, (isPlain_zeros _).append hdigits⟩
  split
  · exact Or.inl (by simp [IsPlain])
  · next lead hlead =>
    rw [hlead] at hdigits
    exact Or.inl (hdigits.append (isPlain_exponentText _))
  · next lead more _ hmore =>
    rw [hmore] at hdigits
    have hlead : IsPlain [lead] := hdigits.of_subset (by simp)
    have htail : IsPlain more := hdigits.of_subset (List.subset_cons_self _ _)
    exact Or.inr ⟨[lead], _, rfl, hlead, htail.append (isPlain_exponentText _)⟩

/-- There is one point at most in the text of a number. -/
theorem toText_cases (n : Number) :
    IsPlain n.toText ∨ ∃ s t, n.toText = s ++ 0x2E :: t ∧ IsPlain s ∧ IsPlain t := by
  cases n with
  | finite negative k =>
    rw [toText]
    split
    · exact Or.inl (isPlain_ofNat 0)
    split
    · rcases layout_cases (decimalOf k) with h | ⟨s, t, h, hs, ht⟩
      · exact Or.inl (IsPlain.append (s := [0x2D]) (by decide) h)
      · refine Or.inr ⟨0x2D :: s, t, by rw [h]; rfl, ?_, ht⟩
        exact IsPlain.append (s := [0x2D]) (by decide) hs
    · exact layout_cases (decimalOf k)
  | infinite negative =>
    left
    cases negative <;> decide
  | nan => exact Or.inl (by decide)

end Number

end SurfaceGuard
