import SurfaceGuard.Text.Surrogate
import Mathlib.Tactic

/-!
# Texts without lone surrogates

A text is well-formed if every piece of it stands for a scalar value.  Well-formed texts
are read piece by piece whatever follows them (`pieces_append`), and replacing lone
surrogates leaves them as they are (`wellFormed_eq_self`).
-/

namespace SurfaceGuard.Text

/-- Does every piece of the text stand for a scalar value? -/
def isWellFormed (t : Text) : Bool := (pieces t).all fun p => p.scalar?.isSome

/-! ## Surrogates as numbers -/

theorem isHigh_iff {u : CodeUnit} : isHigh u = true ↔ 0xD800 ≤ u.toNat ∧ u.toNat ≤ 0xDBFF := by
  simp [isHigh, UInt16.le_iff_toNat_le]

theorem isLow_iff {u : CodeUnit} : isLow u = true ↔ 0xDC00 ≤ u.toNat ∧ u.toNat ≤ 0xDFFF := by
  simp [isLow, UInt16.le_iff_toNat_le]

theorem isSurrogate_iff {u : CodeUnit} :
    isSurrogate u = true ↔ 0xD800 ≤ u.toNat ∧ u.toNat ≤ 0xDFFF := by
  rw [isSurrogate, Bool.or_eq_true, isHigh_iff, isLow_iff]
  omega

theorem isHigh_of_not_surrogate {u : CodeUnit} (h : isSurrogate u = false) : isHigh u = false := by
  rw [isSurrogate, Bool.or_eq_false_iff] at h
  exact h.1

/-! ## Pieces -/

theorem pieces_pair {u v : CodeUnit} (hu : isHigh u = true) (hv : isLow v = true) (t : Text) :
    pieces (u :: v :: t) = .pair u v :: pieces t := by
  rw [pieces, hu, hv]
  rfl

/-- A unit stands by itself unless it is the first half of a pair. -/
theorem pieces_cons {u : CodeUnit} {t : Text} (h : isHigh u = true → t.head?.any isLow = false) :
    pieces (u :: t) = .unit u :: pieces t := by
  cases t with
  | nil => rfl
  | cons v t =>
    have hp : (isHigh u && isLow v) = false := by
      rcases Bool.eq_false_or_eq_true (isHigh u) with hu | hu
      · have hv : isLow v = false := by simpa using h hu
        rw [hu, hv]
        rfl
      · rw [hu, Bool.false_and]
    rw [pieces, hp]
    rfl

/-- Every piece of a text is a single unit or a high surrogate with a low one. -/
theorem pieces_pairs (t : Text) :
    ∀ p ∈ pieces t, ∀ u v, p = .pair u v → isHigh u = true ∧ isLow v = true := by
  fun_induction pieces t with
  | case1 => intro p hp; simp at hp
  | case2 u =>
    intro p hp a b hab
    rw [List.mem_singleton.1 hp] at hab
    cases hab
  | case3 u v rest h ih =>
    intro p hp a b hab
    rcases List.mem_cons.1 hp with rfl | hp
    · cases hab
      exact Bool.and_eq_true_iff.1 h
    · exact ih p hp a b hab
  | case4 u v rest h ih =>
    intro p hp a b hab
    rcases List.mem_cons.1 hp with rfl | hp
    · cases hab
    · exact ih p hp a b hab

/-- The pieces of a text put together are the text. -/
theorem flatMap_units_pieces (t : Text) : (pieces t).flatMap Piece.units = t := by
  fun_induction pieces t with
  | case1 => rfl
  | case2 u => rfl
  | case3 u v rest h ih => rw [List.flatMap_cons, ih]; rfl
  | case4 u v rest h ih => rw [List.flatMap_cons, ih]; rfl

/-! ## Well-formed texts -/

@[simp]
theorem isWellFormed_nil : isWellFormed [] = true := rfl

theorem isWellFormed_singleton {u : CodeUnit} (h : isSurrogate u = false) :
    isWellFormed [u] = true := by
  simp [isWellFormed, pieces, Piece.scalar?, h]

/-- A well-formed text is read to its end before what follows it. -/
theorem pieces_append {s : Text} (hs : isWellFormed s = true) (t : Text) :
    pieces (s ++ t) = pieces s ++ pieces t := by
  rw [isWellFormed] at hs
  fun_induction pieces s with
  | case1 => rfl
  | case2 u =>
    have hu : isSurrogate u = false := by
      by_contra hc
      simp [Piece.scalar?, hc] at hs
    rw [List.singleton_append, pieces_cons, List.singleton_append]
    rw [isHigh_of_not_surrogate hu]
    exact fun hc => absurd hc Bool.false_ne_true
  | case3 u v rest h ih =>
    obtain ⟨hu, hv⟩ := Bool.and_eq_true_iff.1 h
    rw [List.all_cons, Bool.and_eq_true] at hs
    rw [List.cons_append, List.cons_append, pieces_pair hu hv, ih hs.2, List.cons_append]
  | case4 u v rest h ih =>
    rw [List.all_cons, Bool.and_eq_true] at hs
    have hu : isSurrogate u = false := by
      by_contra hc
      simp [Piece.scalar?, hc] at hs
    rw [List.cons_append, pieces_cons, ih hs.2, List.cons_append]
    rw [isHigh_of_not_surrogate hu]
    exact fun hc => absurd hc Bool.false_ne_true

theorem isWellFormed_append {s t : Text} (hs : isWellFormed s = true) (ht : isWellFormed t = true) :
    isWellFormed (s ++ t) = true := by
  rw [isWellFormed, pieces_append hs, List.all_append, Bool.and_eq_true]
  exact ⟨hs, ht⟩

theorem isWellFormed_cons {u : CodeUnit} {t : Text} (hu : isSurrogate u = false)
    (ht : isWellFormed t = true) : isWellFormed (u :: t) = true :=
  isWellFormed_append (isWellFormed_singleton hu) ht

/-- A text without surrogates is well-formed. -/
theorem isWellFormed_of_no_surrogate {t : Text} (h : ∀ u ∈ t, isSurrogate u = false) :
    isWellFormed t = true := by
  induction t with
  | nil => rfl
  | cons u t ih =>
    exact isWellFormed_cons (h u List.mem_cons_self)
      (ih fun v hv => h v (List.mem_cons_of_mem _ hv))

theorem isWellFormed_pair {u v : CodeUnit} (hu : isHigh u = true) (hv : isLow v = true) :
    isWellFormed [u, v] = true := by
  rw [isWellFormed, pieces_pair hu hv]
  rfl

/-! ## Scalar values -/

/-- The scalar values: everything below `0x110000` but the surrogates. -/
def IsScalar (n : Nat) : Prop := n < 0xD800 ∨ 0xE000 ≤ n ∧ n < 0x110000

theorem ofScalar_unit {u : CodeUnit} : ofScalar u.toNat = [u] := by
  have hu : u.toNat < 0x10000 := UInt16.toNat_lt u
  rw [ofScalar, if_pos hu]
  simp

theorem ofScalar_pair {u v : CodeUnit} (hu : isHigh u = true) (hv : isLow v = true) :
    ofScalar (0x10000 + (u.toNat - 0xD800) * 0x400 + (v.toNat - 0xDC00)) = [u, v] := by
  rw [isHigh_iff] at hu
  rw [isLow_iff] at hv
  rw [ofScalar, if_neg (by omega)]
  have h1 : (0xD800 + (0x10000 + (u.toNat - 0xD800) * 0x400 + (v.toNat - 0xDC00) - 0x10000) / 0x400)
      = u.toNat := by omega
  have h2 : (0xDC00 + (0x10000 + (u.toNat - 0xD800) * 0x400 + (v.toNat - 0xDC00) - 0x10000) % 0x400)
      = v.toNat := by omega
  rw [h1, h2]
  simp

/-- A piece with a scalar value is the text of that value. -/
theorem ofScalar_of_mem_pieces {t : Text} {p : Piece} (hp : p ∈ pieces t) {n : Nat}
    (hn : p.scalar? = some n) : ofScalar n = p.units := by
  cases p with
  | unit u =>
    rw [Piece.scalar?] at hn
    split at hn
    · cases hn
    · rw [Option.some.injEq] at hn
      rw [← hn]
      exact ofScalar_unit
  | pair u v =>
    obtain ⟨hu, hv⟩ := pieces_pairs t _ hp u v rfl
    rw [Piece.scalar?, Option.some.injEq] at hn
    rw [← hn]
    exact ofScalar_pair hu hv

theorem isScalar_of_mem_scalars {t : Text} {n : Nat} (hn : n ∈ scalars t) : IsScalar n := by
  obtain ⟨p, hp, rfl⟩ := List.mem_map.1 hn
  cases p with
  | unit u =>
    rw [Piece.scalar?]
    split
    · exact Or.inr (by simp [replacement])
    · rename_i hs
      have hu : u.toNat < 0x10000 := UInt16.toNat_lt u
      have hs' : ¬(0xD800 ≤ u.toNat ∧ u.toNat ≤ 0xDFFF) := fun hc => hs (isSurrogate_iff.2 hc)
      rw [Option.getD_some, IsScalar]
      omega
  | pair u v =>
    obtain ⟨hu, hv⟩ := pieces_pairs t _ hp u v rfl
    rw [isHigh_iff] at hu
    rw [isLow_iff] at hv
    rw [Piece.scalar?, Option.getD_some, IsScalar]
    omega

/-- Replacing lone surrogates leaves a well-formed text as it is. -/
theorem wellFormed_eq_self {t : Text} (h : isWellFormed t = true) : wellFormed t = t := by
  have hp : (pieces t).map (fun p => ofScalar (p.scalar?.getD replacement))
      = (pieces t).map Piece.units := by
    apply List.map_congr_left
    intro p hp
    obtain ⟨n, hn⟩ := Option.isSome_iff_exists.1 (List.all_eq_true.1 h p hp)
    rw [hn]
    exact ofScalar_of_mem_pieces hp hn
  calc wellFormed t
      = ((pieces t).map fun p => ofScalar (p.scalar?.getD replacement)).flatten := by
        rw [wellFormed, scalars, List.flatMap_map, List.flatMap_def]
    _ = (pieces t).flatMap Piece.units := by rw [hp, List.flatMap_def]
    _ = t := flatMap_units_pieces t

end SurfaceGuard.Text
