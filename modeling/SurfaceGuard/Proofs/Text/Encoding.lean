import SurfaceGuard.Proofs.Text.Utf8
import SurfaceGuard.Text.Ascii

/-!
# Cutting encoded texts

Encoding works piece by piece, so it commutes with cutting a text at a unit that is no
surrogate (`encode_append_cons`).  A unit of ASCII is a byte of its own, and no other unit
has such a byte, so cutting the bytes at it and cutting the text at it is the same
(`splitOn_encode`).  The names of a file system are byte strings; texts with the same
bytes differ in lone surrogates at most (`eq_of_encode_eq`).
-/

namespace SurfaceGuard

theorem Ascii.splitOn_eq (u : UInt8) (t : Bytes) : Ascii.splitOn u t = List.splitOn u t := by
  induction t with
  | nil => rfl
  | cons v t ih =>
    rw [Ascii.splitOn, List.splitOn_cons_eq_if_modifyHead, ih]
    by_cases h : v == u
    · rw [if_pos h, if_pos h]
    · rw [if_neg h, if_neg h]
      cases hsplit : List.splitOn u t with
      | nil => exact absurd hsplit (List.splitOn_ne_nil u t)
      | cons piece pieces => rfl

/-- Cutting loses nothing. -/
theorem splitOn_inj {α : Type} [BEq α] [LawfulBEq α] {u : α} {s t : List α}
    (h : List.splitOn u s = List.splitOn u t) : s = t := by
  have hjoined := congrArg (List.intercalate [u]) h
  rwa [List.intercalate_splitOn, List.intercalate_splitOn] at hjoined

namespace Text

theorem splitOn_eq (u : CodeUnit) (t : Text) : splitOn u t = List.splitOn u t := by
  induction t with
  | nil => rfl
  | cons v t ih =>
    rw [splitOn, List.splitOn_cons_eq_if_modifyHead, ih]
    by_cases h : v = u
    · rw [if_pos h, if_pos (beq_iff_eq.2 h)]
    · rw [if_neg h, if_neg (by simpa using h)]
      cases hsplit : List.splitOn u t with
      | nil => exact absurd hsplit (List.splitOn_ne_nil u t)
      | cons piece pieces => rfl

theorem not_mem_of_mem_splitOn {u : CodeUnit} {p s : Text} (h : s ∈ splitOn u p) : u ∉ s := by
  induction p generalizing s with
  | nil => simp_all [splitOn]
  | cons v p ih =>
    rw [splitOn] at h
    split at h
    · rcases List.mem_cons.1 h with rfl | h
      · exact List.not_mem_nil
      · exact ih h
    · next hu =>
      cases hsplit : splitOn u p with
      | nil =>
        rw [splitOn_eq] at hsplit
        exact absurd hsplit (List.splitOn_ne_nil _ p)
      | cons piece pieces =>
        rw [hsplit] at h ih
        rcases List.mem_cons.1 h with rfl | h
        · rw [List.mem_cons, not_or]
          exact ⟨fun h => hu h.symm, ih List.mem_cons_self⟩
        · exact ih (List.mem_cons_of_mem _ h)

/-- Before a unit that is no surrogate, a text is read to its end. -/
theorem pieces_append_cons (s t : Text) {u : CodeUnit} (hu : isSurrogate u = false) :
    pieces (s ++ u :: t) = pieces s ++ pieces (u :: t) := by
  have hlow : isLow u = false := (Bool.or_eq_false_iff.1 hu).2
  fun_induction pieces s with
  | case1 => rfl
  | case2 v => exact pieces_cons fun _ => by simpa using hlow
  | case3 v w rest h ih =>
    obtain ⟨hv, hw⟩ := Bool.and_eq_true_iff.1 h
    rw [List.cons_append, List.cons_append, pieces_pair hv hw, ih, List.cons_append]
  | case4 v w rest h ih =>
    rw [List.cons_append, List.cons_append, pieces, if_neg h]
    exact congrArg _ ih

theorem scalars_append_cons (s t : Text) {u : CodeUnit} (hu : isSurrogate u = false) :
    scalars (s ++ u :: t) = scalars s ++ scalars (u :: t) := by
  rw [scalars, pieces_append_cons s t hu, List.map_append, scalars, scalars]

theorem wellFormed_append_cons (s t : Text) {u : CodeUnit} (hu : isSurrogate u = false) :
    wellFormed (s ++ u :: t) = wellFormed s ++ wellFormed (u :: t) := by
  rw [wellFormed, scalars_append_cons s t hu, List.flatMap_append, wellFormed, wellFormed]

/-- A text is well-formed if replacing its lone surrogates leaves no replacement character. -/
theorem isWellFormed_of_not_mem {t : Text} (h : 0xFFFD ∉ wellFormed t) : isWellFormed t = true := by
  rw [isWellFormed, List.all_eq_true]
  intro p hp
  by_contra hscalar
  refine h (List.mem_flatMap.2 ⟨replacement, List.mem_map.2 ⟨p, hp, ?_⟩, by decide⟩)
  cases hs : p.scalar? with
  | none => rfl
  | some n => simp [hs] at hscalar

end Text

namespace Utf8

open Text

theorem encode_append_cons (s t : Text) {u : CodeUnit} (hu : isSurrogate u = false) :
    encode (s ++ u :: t) = encode s ++ encode (u :: t) := by
  rw [encode, scalars_append_cons s t hu, List.flatMap_append, encode, encode]

/-- A unit of ASCII is no surrogate. -/
theorem not_surrogate_of_lt {u : CodeUnit} (hu : u.toNat < 0x80) : isSurrogate u = false := by
  rw [← Bool.not_eq_true, isSurrogate_iff]
  omega

theorem encode_cons_of_lt (t : Text) {u : CodeUnit} (hu : u.toNat < 0x80) :
    encode (u :: t) = u.toUInt8 :: encode t := by
  have hs := not_surrogate_of_lt hu
  rw [encode, scalars, pieces_cons fun h => absurd h (by simp [isHigh_of_not_surrogate hs]),
    List.map_cons, List.flatMap_cons, Piece.scalar?, hs]
  simp [encodeScalar, hu, encode, scalars]

/-- Beyond ASCII, no byte of a scalar value is one of ASCII. -/
theorem le_of_mem_encodeScalar {n : Nat} {b : UInt8} (h1 : 0x80 ≤ n) (h2 : n < 0x110000)
    (h : b ∈ encodeScalar n) : 0x80 ≤ b.toNat := by
  rw [encodeScalar, if_neg (by omega)] at h
  split_ifs at h <;> simp only [List.mem_cons, List.not_mem_nil, or_false] at h
  · rcases h with rfl | rfl <;> rw [toNat_byte (by omega)] <;> omega
  · rcases h with rfl | rfl | rfl <;> rw [toNat_byte (by omega)] <;> omega
  · rcases h with rfl | rfl | rfl | rfl <;> rw [toNat_byte (by omega)] <;> omega

/-- A byte of ASCII stands for the unit that it is. -/
theorem mem_of_mem_encode {t : Text} {u : CodeUnit} (hu : u.toNat < 0x80)
    (h : u.toUInt8 ∈ encode t) : u ∈ t := by
  obtain ⟨n, hn, hb⟩ := List.mem_flatMap.1 h
  have hbyte : u.toUInt8.toNat = u.toNat := by simp; omega
  have hscalar := isScalar_of_mem_scalars hn
  have hlt : n < 0x80 := by
    by_contra hge
    have hle := le_of_mem_encodeScalar (by omega) (by rw [IsScalar] at hscalar; omega) hb
    omega
  rw [encodeScalar, if_pos hlt, List.mem_singleton] at hb
  obtain ⟨p, hp, rfl⟩ := List.mem_map.1 hn
  have hunits : ∀ v ∈ p.units, v ∈ t := by
    intro v hv
    rw [← flatMap_units_pieces t]
    exact List.mem_flatMap.2 ⟨p, hp, hv⟩
  cases p with
  | unit v =>
    rw [Piece.scalar?] at hlt hb
    split at hlt
    · simp [replacement] at hlt
    · next hs =>
      rw [if_neg hs, Option.getD_some] at hb
      have huv : u = v := by
        rw [← UInt16.toNat_inj]
        have := congrArg UInt8.toNat hb
        rw [Option.getD_some] at hlt
        rw [toNat_byte (by omega)] at this
        omega
      exact hunits u (by rw [huv]; exact List.mem_singleton_self v)
  | pair v w =>
    rw [Piece.scalar?, Option.getD_some] at hlt
    omega

theorem encode_intercalate (pieces : List Text) {u : CodeUnit} (hu : u.toNat < 0x80) :
    encode ([u].intercalate pieces) = [u.toUInt8].intercalate (pieces.map encode) := by
  induction pieces with
  | nil => rfl
  | cons piece pieces ih =>
    cases pieces with
    | nil => simp
    | cons next pieces =>
      rw [List.map_cons, List.map_cons, List.intercalate_cons_cons, List.intercalate_cons_cons,
        ← List.map_cons, ← ih, List.append_assoc, List.append_assoc, List.singleton_append,
        List.singleton_append, encode_append_cons _ _ (not_surrogate_of_lt hu),
        encode_cons_of_lt _ hu]

/-- Cutting the bytes of a text is cutting the text. -/
theorem splitOn_encode (t : Text) {u : CodeUnit} (hu : u.toNat < 0x80) :
    Ascii.splitOn u.toUInt8 (encode t) = (Text.splitOn u t).map encode := by
  have hjoined : encode t = [u.toUInt8].intercalate ((Text.splitOn u t).map encode) := by
    rw [← encode_intercalate _ hu, Text.splitOn_eq, List.intercalate_splitOn]
  rw [hjoined, Ascii.splitOn_eq]
  refine List.splitOn_intercalate _ ?_ ?_
  · intro piece hpiece hmem
    obtain ⟨s, hs, rfl⟩ := List.mem_map.1 hpiece
    exact not_mem_of_mem_splitOn hs (mem_of_mem_encode hu hmem)
  · rw [Text.splitOn_eq]
    simp [List.splitOn_ne_nil]

/-- Well-formed texts with the same bytes are the same. -/
theorem eq_of_encode_eq {s t : Text} (hs : isWellFormed s = true) (ht : isWellFormed t = true)
    (h : encode s = encode t) : s = t := by
  rw [← decode_encode_of_isWellFormed hs, h, decode_encode_of_isWellFormed ht]

end Utf8

end SurfaceGuard
