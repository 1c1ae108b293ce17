import SurfaceGuard.Json.Reader
import SurfaceGuard.Proofs.Text.Surrogate

/-!
# Quoted text, read back

The two definitions of the written form agree (`escape_eq_escapePieces`): looking at both
neighbours finds exactly the surrogates that stand alone in the reading from left to
right.  The written form is well-formed whatever the text is (`isWellFormed_escape`), and
the reader of JSON strings takes it back unit by unit (`readString_escape`).
-/

namespace SurfaceGuard.Quoted

open Text Json

/-! ## Units -/

theorem digit_lt {n : Nat} (h : n < 16) : (digit n).toNat < 0x80 := by
  revert n
  decide

theorem hexValue?_digit {n : Nat} (h : n < 16) : hexValue? (digit n) = some n := by
  revert n
  decide

/-- The four digits of a unit are read as the unit. -/
theorem unhex4?_hex4 (u : CodeUnit) :
    unhex4? (digit (u.toNat / 0x1000)) (digit (u.toNat / 0x100 % 0x10))
      (digit (u.toNat / 0x10 % 0x10)) (digit (u.toNat % 0x10)) = some u := by
  have hu : u.toNat < 0x10000 := UInt16.toNat_lt u
  have hv : u.toNat / 0x1000 * 0x1000 + u.toNat / 0x100 % 0x10 * 0x100
      + u.toNat / 0x10 % 0x10 * 0x10 + u.toNat % 0x10 = u.toNat := by omega
  rw [unhex4?, hexValue?_digit (by omega), hexValue?_digit (by omega), hexValue?_digit (by omega),
    hexValue?_digit (by omega)]
  simp only [hv]
  simp

theorem unescape?_of_shortEscape? {u letter : CodeUnit} (h : shortEscape? u = some letter) :
    unescape? letter = some u ∧ letter ≠ 0x75 ∧ letter.toNat < 0x80 := by
  unfold shortEscape? at h
  split_ifs at h with h1 h2 h3 h4 h5 h6 h7 <;> rw [Option.some.injEq] at h <;> subst h
  · rw [beq_iff_eq] at h1
    subst h1
    decide
  · rw [beq_iff_eq] at h2
    subst h2
    decide
  · rw [beq_iff_eq] at h3
    subst h3
    decide
  · rw [beq_iff_eq] at h4
    subst h4
    decide
  · rw [beq_iff_eq] at h5
    subst h5
    decide
  · rw [beq_iff_eq] at h6
    subst h6
    decide
  · rw [beq_iff_eq] at h7
    subst h7
    decide

theorem escapeUnit_ascii (u : CodeUnit) : ∀ x ∈ escapeUnit u, x.toNat < 0x80 := by
  have hu : u.toNat < 0x10000 := UInt16.toNat_lt u
  intro x hx
  rw [escapeUnit] at hx
  split at hx
  · rename_i letter hl
    rcases List.mem_cons.1 hx with rfl | hx
    · decide
    · rw [List.mem_singleton.1 hx]
      exact (unescape?_of_shortEscape? hl).2.2
  · simp only [hex4, List.mem_cons, List.not_mem_nil, or_false] at hx
    rcases hx with rfl | rfl | rfl | rfl | rfl | rfl
    · decide
    · decide
    all_goals exact digit_lt (by omega)

theorem alwaysEscaped_lt {u : CodeUnit} (h : alwaysEscaped u = true) : u.toNat < 0x80 := by
  simp only [alwaysEscaped, quote, backslash, isControl, Bool.or_eq_true, beq_iff_eq,
    decide_eq_true_eq, UInt16.lt_iff_toNat_lt] at h
  rcases h with (rfl | rfl) | h
  · decide
  · decide
  · exact h.trans (by decide)

theorem alwaysEscaped_of_surrogate {u : CodeUnit} (h : isSurrogate u = true) :
    alwaysEscaped u = false := by
  by_contra hc
  have h1 := alwaysEscaped_lt (Bool.not_eq_false _ ▸ hc)
  have h2 := isSurrogate_iff.1 h
  omega

/-! ## The two written forms -/

/-- Between neighbours that leave no pair open in front, the text is escaped piece by piece. -/
theorem escapeAfter_eq_flatMap (t : Text) : ∀ before? : Option CodeUnit,
    (before?.any isHigh = true → t.head?.any isLow = false) →
      escapeAfter before? t = (pieces t).flatMap escapePiece := by
  fun_induction pieces t with
  | case1 => intro before? _; rfl
  | case2 u =>
    intro before? h
    have hn : needsEscape before? u none = (alwaysEscaped u || isSurrogate u) := by
      rcases Bool.eq_false_or_eq_true (isLow u) with hl | hl
      · have hb : before?.any isHigh = false := by
          by_contra hc
          simp [hl] at h
          simp [h] at hc
        simp [needsEscape, isSurrogate, hl, hb]
      · simp [needsEscape, isSurrogate, hl]
    rw [escapeAfter, List.head?_nil, hn, escapeAfter, List.flatMap_singleton, List.append_nil,
      escapePiece]
  | case3 u v rest h ih =>
    intro before? _
    obtain ⟨hu, hv⟩ := Bool.and_eq_true_iff.1 h
    have hul : isLow u = false := by
      by_contra hc
      have h1 := isHigh_iff.1 hu
      have h2 := isLow_iff.1 (Bool.not_eq_false _ ▸ hc)
      omega
    have hvh : isHigh v = false := by
      by_contra hc
      have h1 := isLow_iff.1 hv
      have h2 := isHigh_iff.1 (Bool.not_eq_false _ ▸ hc)
      omega
    have hua : alwaysEscaped u = false := alwaysEscaped_of_surrogate (by simp [isSurrogate, hu])
    have hva : alwaysEscaped v = false := alwaysEscaped_of_surrogate (by simp [isSurrogate, hv])
    have h1 : needsEscape before? u (some v) = false := by simp [needsEscape, hua, hul, hv]
    have h2 : needsEscape (some u) v rest.head? = false := by simp [needsEscape, hva, hvh, hu]
    rw [escapeAfter, List.head?_cons, h1, escapeAfter, h2, ih (some v) (by simp [hvh]),
      List.flatMap_cons, escapePiece]
    rfl
  | case4 u v rest h ih =>
    intro before? hb
    have huv : isHigh u = true → isLow v = false := by
      intro hu
      by_contra hc
      exact h (Bool.and_eq_true_iff.2 ⟨hu, Bool.not_eq_false _ ▸ hc⟩)
    have hn : needsEscape before? u (some v) = (alwaysEscaped u || isSurrogate u) := by
      rcases Bool.eq_false_or_eq_true (isHigh u) with hu | hu
      · simp [needsEscape, isSurrogate, hu, huv hu]
      · rcases Bool.eq_false_or_eq_true (isLow u) with hl | hl
        · have hb' : before?.any isHigh = false := by
            by_contra hc
            simp [hl] at hb
            simp [hb] at hc
          simp [needsEscape, isSurrogate, hl, hb']
        · simp [needsEscape, isSurrogate, hu, hl]
    rw [escapeAfter, List.head?_cons, hn, ih (some u) (by simpa using huv), List.flatMap_cons,
      escapePiece]

/-- Deciding by neighbours and deciding by pieces give the same written form. -/
theorem escape_eq_escapePieces (t : Text) : escape t = escapePieces t := by
  rw [escape, escapePieces, escapeAfter_eq_flatMap t none (by simp)]

/-! ## Well-formedness -/

theorem isWellFormed_escapePiece {t : Text} {p : Piece} (hp : p ∈ pieces t) :
    isWellFormed (escapePiece p) = true := by
  cases p with
  | unit u =>
    rw [escapePiece]
    split
    · refine isWellFormed_of_no_surrogate fun x hx => ?_
      by_contra hc
      have h1 := isSurrogate_iff.1 (Bool.not_eq_false _ ▸ hc)
      have h2 := escapeUnit_ascii u x hx
      omega
    · rename_i h
      rw [Bool.or_eq_true, not_or] at h
      exact isWellFormed_singleton (Bool.eq_false_iff.2 h.2)
  | pair u v =>
    obtain ⟨hu, hv⟩ := pieces_pairs t _ hp u v rfl
    exact isWellFormed_pair hu hv

theorem isWellFormed_flatMap {α : Type} {f : α → Text} {l : List α}
    (h : ∀ a ∈ l, isWellFormed (f a) = true) : isWellFormed (l.flatMap f) = true := by
  induction l with
  | nil => rfl
  | cons a l ih =>
    rw [List.flatMap_cons]
    have hl := ih fun b hb => h b (List.mem_cons_of_mem a hb)
    exact isWellFormed_append (h a List.mem_cons_self) hl

/-- No surrogate stands alone in a written text. -/
theorem isWellFormed_escape (t : Text) : isWellFormed (escape t) = true := by
  rw [escape_eq_escapePieces, escapePieces]
  refine isWellFormed_cons (by decide) (isWellFormed_append ?_ (by decide))
  exact isWellFormed_flatMap fun p hp => isWellFormed_escapePiece hp

/-! ## Reading back -/

theorem readString_quote (rest : Text) : readString (quote :: rest) = some ([], rest) := by
  rw [readString.eq_def]
  exact if_pos (by decide)

/-- A unit that needs no escape stands for itself. -/
theorem readString_plain {u : CodeUnit} (h : alwaysEscaped u = false) (rest : Text) :
    readString (u :: rest) = prepend (some u) (readString rest) := by
  simp only [alwaysEscaped, Bool.or_eq_false_iff] at h
  obtain ⟨⟨hq, hb⟩, hc⟩ := h
  rw [readString.eq_def]
  simp only [hq, hc, hb, Bool.false_eq_true, if_false]

theorem readString_short {letter : CodeUnit} (h : letter ≠ 0x75) (rest : Text) :
    readString (backslash :: letter :: rest) = prepend (unescape? letter) (readString rest) := by
  have hl : (letter == 0x75) = false := beq_false_of_ne h
  rw [readString.eq_def]
  simp only [hl, Bool.false_eq_true, if_false]
  rfl

theorem readString_long (a b c d : CodeUnit) (rest : Text) :
    readString (backslash :: 0x75 :: a :: b :: c :: d :: rest)
      = prepend (unhex4? a b c d) (readString rest) := by
  rw [readString.eq_def]
  rfl

/-- An escape is read as the unit that it was written for. -/
theorem readString_escapeUnit (u : CodeUnit) (rest : Text) :
    readString (escapeUnit u ++ rest) = prepend (some u) (readString rest) := by
  rw [escapeUnit]
  split
  · rename_i letter hl
    obtain ⟨hu, h75, -⟩ := unescape?_of_shortEscape? hl
    rw [List.cons_append, List.singleton_append, readString_short h75, hu]
  · rw [← unhex4?_hex4 u, ← readString_long]
    rfl

theorem readString_escapeAfter (t rest : Text) : ∀ before? : Option CodeUnit,
    readString (escapeAfter before? t ++ quote :: rest) = some (t, rest) := by
  induction t with
  | nil => intro before?; exact readString_quote rest
  | cons u t ih =>
    intro before?
    rw [escapeAfter, List.append_assoc]
    split
    · rw [readString_escapeUnit, ih (some u)]
      rfl
    · rename_i hn
      have hu : alwaysEscaped u = false := by
        by_contra hc
        exact hn (by simp [needsEscape, Bool.not_eq_false _ ▸ hc])
      rw [List.singleton_append, readString_plain hu, ih (some u)]
      rfl

/-- The reader takes back any text from its written form. -/
theorem readString_escape (t rest : Text) :
    readString (escapeAfter none t ++ [quote] ++ rest) = some (t, rest) := by
  rw [List.append_assoc]
  exact readString_escapeAfter t rest none

end SurfaceGuard.Quoted
