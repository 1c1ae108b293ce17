import SurfaceGuard.Proofs.Json.RoundTrip
import SurfaceGuard.Proofs.Text.Utf8

/-!
# What a written text is made of

Which units of a text are escaped is found by looking at both neighbours of each one, and yet it is
what a reading from left to right would find, which pairs a high surrogate with a low one right
after it: the text is written piece by piece of that reading, and a piece is copied unless it is a
quote, a backslash, a control unit or a surrogate alone (`escape_follows_reading`).

So a written text has no control unit (`isPrintable_escape`) and no surrogate alone, and outside its
escapes no quotes but the first and the last unit (`outsideEscapes_escape`).  It survives being
stored as bytes, and is read as the text that it was written for.
-/

namespace SurfaceGuard.Quoted

open Text

/-! ## Text on one line -/

/-- No unit of the text is below the first printable one. -/
def IsPrintable (t : Text) : Prop := ∀ u ∈ t, isControl u = false

instance (t : Text) : Decidable (IsPrintable t) := List.decidableBAll _ t

theorem isPrintable_append {s t : Text} :
    IsPrintable (s ++ t) ↔ IsPrintable s ∧ IsPrintable t := List.forall_mem_append

theorem isPrintable_cons {u : CodeUnit} {t : Text} :
    IsPrintable (u :: t) ↔ isControl u = false ∧ IsPrintable t := List.forall_mem_cons

theorem isControl_digit {n : Nat} (h : n < 16) : isControl (Text.digit n) = false := by
  revert n
  decide

theorem isControl_of_shortEscape? {u letter : CodeUnit} (h : shortEscape? u = some letter) :
    isControl letter = false := by
  unfold shortEscape? at h
  split_ifs at h <;> cases h <;> decide

theorem isPrintable_escapeUnit (u : CodeUnit) : IsPrintable (escapeUnit u) := by
  have hu : u.toNat < 0x10000 := UInt16.toNat_lt u
  have hbackslash : isControl backslash = false := by decide
  rw [escapeUnit]
  split
  · next letter hletter =>
    refine isPrintable_cons.2 ⟨hbackslash, isPrintable_cons.2 ⟨?_, List.forall_mem_nil _⟩⟩
    exact isControl_of_shortEscape? hletter
  · refine isPrintable_cons.2 ⟨hbackslash, isPrintable_cons.2 ⟨by decide, ?_⟩⟩
    simp only [hex4, isPrintable_cons]
    exact ⟨isControl_digit (by omega), isControl_digit (by omega), isControl_digit (by omega),
      isControl_digit (by omega), List.forall_mem_nil _⟩

theorem isPrintable_escapeAfter (t : Text) :
    ∀ before? : Option CodeUnit, IsPrintable (escapeAfter before? t) := by
  induction t with
  | nil => exact fun before? => List.forall_mem_nil _
  | cons u t ih =>
    intro before?
    rw [escapeAfter, isPrintable_append]
    refine ⟨?_, ih (some u)⟩
    split
    · exact isPrintable_escapeUnit u
    · next hneeds =>
      refine isPrintable_cons.2 ⟨?_, List.forall_mem_nil _⟩
      by_contra hcontrol
      exact hneeds (by simp [needsEscape, alwaysEscaped, Bool.not_eq_false _ ▸ hcontrol])

/-- The written form of a text has no control unit, whatever the text has. -/
theorem isPrintable_escape (t : Text) : IsPrintable (escape t) := by
  rw [escape, isPrintable_append, isPrintable_cons]
  exact ⟨⟨by decide, isPrintable_escapeAfter t none⟩, by decide⟩

/-! ## Outside escapes -/

/-- The units of a text outside its escapes: a backslash is passed over, with the unit after it. -/
def outsideEscapes : Text → Text
  | [] => []
  | [u] => if u == backslash then [] else [u]
  | u :: v :: rest =>
    if u == backslash then outsideEscapes rest else u :: outsideEscapes (v :: rest)

theorem outsideEscapes_cons {u : CodeUnit} (h : u ≠ backslash) (t : Text) :
    outsideEscapes (u :: t) = u :: outsideEscapes t := by
  cases t with
  | nil => simp [outsideEscapes, h]
  | cons v t => simp [outsideEscapes, h]

theorem outsideEscapes_append {s : Text} (h : backslash ∉ s) (t : Text) :
    outsideEscapes (s ++ t) = s ++ outsideEscapes t := by
  induction s with
  | nil => rfl
  | cons u s ih =>
    obtain ⟨hu, hs⟩ := not_or.1 (List.mem_cons.not.1 h)
    rw [List.cons_append, outsideEscapes_cons (Ne.symm hu), ih hs, List.cons_append]

theorem digit_ne {n : Nat} (h : n < 16) : digit n ≠ quote ∧ digit n ≠ backslash := by
  revert n
  decide

theorem not_mem_hex4 (u : CodeUnit) : quote ∉ hex4 u ∧ backslash ∉ hex4 u := by
  have hu : u.toNat < 0x10000 := UInt16.toNat_lt u
  have hdigits : ∀ v ∈ hex4 u, v ≠ quote ∧ v ≠ backslash := by
    simp only [hex4, List.forall_mem_cons]
    exact ⟨digit_ne (by omega), digit_ne (by omega), digit_ne (by omega), digit_ne (by omega),
      List.forall_mem_nil _⟩
  exact ⟨fun h => (hdigits _ h).1 rfl, fun h => (hdigits _ h).2 rfl⟩

/-- What an escape leaves over are digits at most. -/
theorem outsideEscapes_escapeUnit (u : CodeUnit) :
    ∃ body, quote ∉ body ∧ ∀ t, outsideEscapes (escapeUnit u ++ t) = body ++ outsideEscapes t := by
  rw [escapeUnit]
  split
  · exact ⟨[], List.not_mem_nil, fun t => rfl⟩
  · obtain ⟨hquote, hbackslash⟩ := not_mem_hex4 u
    exact ⟨hex4 u, hquote, fun t => outsideEscapes_append hbackslash t⟩

/-- No quote stands for itself, and no escape is open at the end. -/
theorem outsideEscapes_escapeAfter (t : Text) : ∀ before? : Option CodeUnit, ∃ body, quote ∉ body
    ∧ ∀ rest, outsideEscapes (escapeAfter before? t ++ rest) = body ++ outsideEscapes rest := by
  induction t with
  | nil => exact fun before? => ⟨[], List.not_mem_nil, fun rest => rfl⟩
  | cons u t ih =>
    intro before?
    obtain ⟨body, hbody, hrest⟩ := ih (some u)
    rw [escapeAfter]
    split
    · obtain ⟨digits, hdigits, hunit⟩ := outsideEscapes_escapeUnit u
      refine ⟨digits ++ body, List.not_mem_append hdigits hbody, fun rest => ?_⟩
      rw [List.append_assoc, hunit, hrest, List.append_assoc]
    · next hplain =>
      have hu : quote ≠ u ∧ u ≠ backslash := by
        constructor
        · rintro rfl
          exact hplain rfl
        · rintro rfl
          exact hplain rfl
      refine ⟨u :: body, List.not_mem_cons_of_ne_of_not_mem hu.1 hbody, fun rest => ?_⟩
      rw [List.singleton_append, List.cons_append, outsideEscapes_cons hu.2, hrest,
        List.cons_append]

/-- Outside its escapes, a written text has no quotes but those around it. -/
theorem outsideEscapes_escape (t : Text) :
    ∃ body, outsideEscapes (escape t) = quote :: body ++ [quote] ∧ quote ∉ body := by
  obtain ⟨body, hbody, hrest⟩ := outsideEscapes_escapeAfter t none
  refine ⟨body, ?_, hbody⟩
  rw [escape, List.cons_append, outsideEscapes_cons (by decide), hrest]
  rfl

/-! ## By reading from left to right -/

/-- The pieces of a reading that cannot be copied: quotes, backslashes, control units, and
surrogates that stand alone. -/
inductive IsReplaced : Piece → Prop
  | quote : IsReplaced (.unit quote)
  | backslash : IsReplaced (.unit backslash)
  | control {u : CodeUnit} (h : u < 0x20) : IsReplaced (.unit u)
  | alone {u : CodeUnit} (h : isSurrogate u = true) : IsReplaced (.unit u)

theorem isReplaced_unit_iff {u : CodeUnit} :
    IsReplaced (.unit u) ↔ (alwaysEscaped u || isSurrogate u) = true := by
  rw [alwaysEscaped, isControl, Bool.or_eq_true, Bool.or_eq_true, Bool.or_eq_true, beq_iff_eq,
    beq_iff_eq, decide_eq_true_eq]
  constructor
  · intro h
    cases h with
    | quote => exact .inl (.inl (.inl rfl))
    | backslash => exact .inl (.inl (.inr rfl))
    | control h => exact .inl (.inr h)
    | alone h => exact .inr h
  · rintro (((rfl | rfl) | h) | h)
    · exact .quote
    · exact .backslash
    · exact .control h
    · exact .alone h

theorem escapeUnit_ne (u : CodeUnit) : escapeUnit u ≠ [u] := by
  rw [escapeUnit]
  split <;> simp

/-- A piece is copied exactly if it can be. -/
theorem escapePiece_eq_units_iff {p : Piece} : escapePiece p = p.units ↔ ¬IsReplaced p := by
  cases p with
  | pair u v => exact iff_of_true rfl nofun
  | unit u =>
    rw [isReplaced_unit_iff, escapePiece, Piece.units]
    split
    · next h => exact iff_of_false (escapeUnit_ne u) (not_not_intro h)
    · next h => exact iff_of_true rfl h

/-- A text is written as one reads it from left to right.  Each piece of that reading is copied,
unless it is a quote, a backslash, a control unit or a surrogate that stands alone.  The written
text has no surrogate that stands alone, no control unit, and outside its escapes no quotes but
those around it; it survives being stored as bytes, and is read as the text that was written. -/
theorem escape_follows_reading (t : Text) :
    (pieces t).flatMap Piece.units = t
      ∧ escape t = quote :: (pieces t).flatMap escapePiece ++ [quote]
      ∧ (∀ p ∈ pieces t, escapePiece p = p.units ↔ ¬IsReplaced p)
      ∧ (∀ p ∈ pieces (escape t), ∀ u, p = .unit u → isSurrogate u = false)
      ∧ IsPrintable (escape t)
      ∧ (∃ body, outsideEscapes (escape t) = quote :: body ++ [quote] ∧ quote ∉ body)
      ∧ Utf8.decode (Utf8.encode (escape t)) = escape t
      ∧ Json.read? (escape t) = some (.string t) := by
  have hwellFormed := isWellFormed_escape t
  refine ⟨flatMap_units_pieces t, escape_eq_escapePieces t, fun p _ => escapePiece_eq_units_iff,
    ?_, isPrintable_escape t, outsideEscapes_escape t,
    Utf8.decode_encode_of_isWellFormed hwellFormed, Json.read?_write (.string t)⟩
  rintro p hp u rfl
  have hscalar := List.all_eq_true.1 hwellFormed _ hp
  rw [Piece.scalar?] at hscalar
  split at hscalar
  · cases hscalar
  · next hsurrogate => exact Bool.not_eq_true _ ▸ hsurrogate

/-- In a run of surrogates, the last high and the first low one are a pair. -/
example : escape [0xD83D, 0xD83D, 0xDE00, 0xDE00]
    = quote :: ofString "\\ud83d" ++ [0xD83D, 0xDE00] ++ ofString "\\ude00" ++ [quote] := by decide

end SurfaceGuard.Quoted
