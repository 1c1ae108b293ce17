import Mathlib.Data.List.Forall2
import SurfaceGuard.Proofs.Text.Space
import SurfaceGuard.Text.LowerCase

/-!
# Lower case of ASCII

A text of ASCII is lowered unit by unit, whatever is beside a unit (`lower_of_ascii`).  So a word
of small letters is what every choice of capitals among its letters is lowered to.
-/

namespace SurfaceGuard.Text

/-- The small letter for a capital one of ASCII; any other unit stays. -/
def lowerUnit (u : CodeUnit) : CodeUnit := if 0x41 ≤ u && u ≤ 0x5A then u + 0x20 else u

/-- What holds of the first units holds of every unit of ASCII. -/
theorem forall_ascii {P : CodeUnit → Prop} (h : ∀ n < 0x80, P (UInt16.ofNat n)) {u : CodeUnit}
    (hu : u < 0x80) : P u := by
  have hn := h u.toNat (by simpa [UInt16.lt_iff_toNat_lt] using hu)
  rwa [UInt16.ofNat_toNat] at hn

theorem isHigh_of_ascii {u : CodeUnit} (h : u < 0x80) : isHigh u = false := by
  have hbelow : ¬(0xD800 : CodeUnit) ≤ u := UInt16.not_le.2 (UInt16.lt_trans h (by decide))
  rw [isHigh, decide_eq_false hbelow, Bool.false_and]

theorem pieces_cons_of_ascii {u : CodeUnit} (h : u < 0x80) (t : Text) :
    pieces (u :: t) = .unit u :: pieces t := by
  cases t with
  | nil => rfl
  | cons v t => rw [pieces, isHigh_of_ascii h, Bool.false_and, if_neg Bool.false_ne_true]

/-- The capitals of ASCII. -/
def capitals : CaseRange := ⟨0x41, 0x5A, 1, 32⟩

/-- A unit of ASCII is lowered as one of the first range of the table, or stays: the other ranges
begin beyond ASCII. -/
theorem lowerScalar_of_ascii {u : CodeUnit} (h : u < 0x80) :
    ofScalar (lowerScalar u.toNat) = [lowerUnit u] := by
  have htable : lowerRanges = capitals :: lowerRanges.tail := rfl
  have hbeyond : ∀ r ∈ lowerRanges.tail, 0x80 ≤ r.first := by decide +kernel
  have hnone : lowerRanges.tail.find? (·.contains u.toNat) = none := by
    refine List.find?_eq_none.2 fun r hr hcontains => ?_
    have hfirst : r.first ≤ u.toNat := by
      rw [CaseRange.contains, Bool.and_eq_true, Bool.and_eq_true, decide_eq_true_eq] at hcontains
      exact hcontains.1.1
    exact absurd (UInt16.lt_iff_toNat_lt.1 h) (Nat.not_lt.2 ((hbeyond r hr).trans hfirst))
  have hlower : lowerScalar u.toNat
      = if capitals.contains u.toNat then u.toNat + 0x20 else u.toNat := by
    rw [lowerScalar, htable, List.find?_cons, hnone]
    cases capitals.contains u.toNat <;> rfl
  rw [hlower]
  refine forall_ascii (P := fun u => ofScalar
    (if capitals.contains u.toNat then u.toNat + 0x20 else u.toNat) = [lowerUnit u]) ?_ h
  decide +kernel

/-- The scalar value of a unit of ASCII has a lower case that does not depend on its neighbours. -/
theorem scalar?_of_ascii {u : CodeUnit} (h : u < 0x80) :
    (Piece.unit u).scalar? = some u.toNat ∧ (u.toNat == 0x130) = false
      ∧ (u.toNat == capitalSigma) = false ∧ ofScalar (lowerScalar u.toNat) = [lowerUnit u] := by
  have hn : u.toNat < 0x80 := UInt16.lt_iff_toNat_lt.1 h
  have hlow : ¬(0xDC00 : CodeUnit) ≤ u := UInt16.not_le.2 (UInt16.lt_trans h (by decide))
  have hsurrogate : isSurrogate u = false := by
    rw [isSurrogate, isHigh_of_ascii h, isLow, decide_eq_false hlow, Bool.false_and, Bool.or_false]
  refine ⟨?_, beq_false_of_ne (by omega), beq_false_of_ne ?_, lowerScalar_of_ascii h⟩
  · rw [Piece.scalar?, hsurrogate]
    rfl
  · rw [capitalSigma]
    omega

/-- A unit of ASCII is lowered by itself. -/
theorem lowerPiece_of_ascii {u : CodeUnit} (h : u < 0x80) (before after : List Piece) :
    lowerPiece before (.unit u) after = [lowerUnit u] := by
  obtain ⟨hscalar, hdot, hsigma, hlower⟩ := scalar?_of_ascii h
  rw [lowerPiece, hscalar]
  simp only [hdot, hsigma, Bool.false_eq_true, if_false, hlower]

theorem lowerPieces_of_ascii {t : Text} (h : ∀ u ∈ t, u < 0x80) (before : List Piece) :
    lowerPieces before (pieces t) = t.map lowerUnit := by
  induction t generalizing before with
  | nil => rfl
  | cons u t ih =>
    obtain ⟨hu, ht⟩ := List.forall_mem_cons.1 h
    rw [pieces_cons_of_ascii hu, lowerPieces, lowerPiece_of_ascii hu, ih ht]
    rfl

/-- A text of ASCII is lowered unit by unit. -/
theorem lower_of_ascii {t : Text} (h : ∀ u ∈ t, u < 0x80) : lower t = t.map lowerUnit :=
  lowerPieces_of_ascii h []

/-! ## Choices of capitals -/

/-- The letters of a word of small letters, some of them capital. -/
def IsCased (word t : Text) : Prop := List.Forall₂ (fun v u => u = v ∨ u = v - 0x20) word t

/-- Is the unit a small letter of ASCII? -/
def isSmall (u : CodeUnit) : Bool := 0x61 ≤ u && u ≤ 0x7A

theorem ascii_of_isSmall {v : CodeUnit} (h : isSmall v = true) : v < 0x80 := by
  rw [isSmall, Bool.and_eq_true, decide_eq_true_eq, decide_eq_true_eq] at h
  exact UInt16.lt_of_le_of_lt h.2 (by decide)

theorem lowerUnit_of_isSmall {v u : CodeUnit} (hv : isSmall v = true) (hu : u = v ∨ u = v - 0x20) :
    lowerUnit u = v ∧ u < 0x80 ∧ isSpace u = false := by
  have hboth : isSmall v = true → (lowerUnit v = v ∧ v < 0x80 ∧ isSpace v = false)
      ∧ lowerUnit (v - 0x20) = v ∧ v - 0x20 < 0x80 ∧ isSpace (v - 0x20) = false := by
    refine forall_ascii (P := fun v => isSmall v = true →
      (lowerUnit v = v ∧ v < 0x80 ∧ isSpace v = false)
        ∧ lowerUnit (v - 0x20) = v ∧ v - 0x20 < 0x80 ∧ isSpace (v - 0x20) = false) ?_
      (ascii_of_isSmall hv)
    decide +kernel
  rcases hu with rfl | rfl
  · exact (hboth hv).1
  · exact (hboth hv).2

/-- Whatever letters of it are capital, a word is lowered to itself and has no white space. -/
theorem lower_of_isCased {word t : Text} (hword : ∀ v ∈ word, isSmall v = true)
    (h : IsCased word t) : lower t = word ∧ ∀ u ∈ t, isSpace u = false := by
  have hunits : (∀ u ∈ t, u < 0x80) ∧ t.map lowerUnit = word ∧ ∀ u ∈ t, isSpace u = false := by
    induction h with
    | nil => simp
    | cons hu _ ih =>
      obtain ⟨hv, hword⟩ := List.forall_mem_cons.1 hword
      obtain ⟨hlower, hascii, hspace⟩ := lowerUnit_of_isSmall hv hu
      obtain ⟨hasciis, hlowers, hspaces⟩ := ih hword
      refine ⟨List.forall_mem_cons.2 ⟨hascii, hasciis⟩, ?_,
        List.forall_mem_cons.2 ⟨hspace, hspaces⟩⟩
      rw [List.map_cons, hlower, hlowers]
  exact ⟨(lower_of_ascii hunits.1).trans hunits.2.1, hunits.2.2⟩

end SurfaceGuard.Text
