import SurfaceGuard.Json.Reader
import SurfaceGuard.Proofs.Number.Decimal
import SurfaceGuard.Proofs.Text.Numeral

/-!
# Numbers, read back

The text of a finite number is JSON number text, and reading it gives the number again,
with zero without its sign (`readNumber_toText`).  A written number has up to three parts:
digits, digits after a point, and an exponent; each part is read to its end, because what
follows it cannot continue it.
-/

namespace SurfaceGuard.Json

open Text Number

/-- Can no number go on here?  That is so at the end and before a comma or a bracket. -/
def endsNumber (t : Text) : Bool :=
  t.head?.all fun u => !(isDigit u || u == 0x2E || u == 0x65 || u == 0x45)

/-- The part of a number after its point, with the point; nothing if it has no digits. -/
def fractionText (fs : Text) : Text := if fs.isEmpty then [] else 0x2E :: fs

/-! ## Digits -/

theorem not_digit_of_endsNumber {t : Text} (h : endsNumber t = true) :
    t.head?.any isDigit = false := by
  cases t with
  | nil => rfl
  | cons u t =>
    simp only [endsNumber, List.head?_cons, Option.all_some, Bool.not_eq_true',
      Bool.or_eq_false_iff] at h
    simpa using h.1.1.1

/-- Digits are read up to the first unit that is none. -/
theorem readDigits_append {ds rest : Text} (hne : ds ≠ []) (hd : ∀ u ∈ ds, isDigit u = true)
    (hr : rest.head?.any isDigit = false) : readDigits (ds ++ rest) = some (ds, rest) := by
  have hstop : rest.takeWhile isDigit = [] ∧ rest.dropWhile isDigit = rest := by
    cases rest with
    | nil => exact ⟨rfl, rfl⟩
    | cons u rest =>
      have hu : isDigit u = false := by simpa using hr
      simp [hu]
  have ht : (ds ++ rest).takeWhile isDigit = ds := by
    rw [List.takeWhile_append_of_pos hd, hstop.1, List.append_nil]
  have hw : (ds ++ rest).dropWhile isDigit = rest := by
    rw [List.dropWhile_append_of_pos hd, hstop.2]
  rw [readDigits, ht, hw]
  cases ds with
  | nil => exact absurd rfl hne
  | cons u ds => rfl

/-! ## The three parts -/

theorem readWhole_append {ds rest : Text} (hne : ds ≠ []) (hd : ∀ u ∈ ds, isDigit u = true)
    (hz : ds.head? ≠ some 0x30 ∨ ds.length = 1) (hr : rest.head?.any isDigit = false) :
    readWhole (ds ++ rest) = some (ds, rest) := by
  rw [readWhole, readDigits_append hne hd hr]
  split
  · rename_i v w r heq
    simp only [Option.some.injEq, Prod.mk.injEq] at heq
    rcases hz with hz | hz
    · rw [heq.1] at hz
      exact absurd rfl hz
    · rw [heq.1] at hz
      simp at hz
  · rfl

theorem readFraction_fractionText {fs rest : Text} (hd : ∀ u ∈ fs, isDigit u = true)
    (hr : rest.head?.any isDigit = false) (hp : rest.head? ≠ some 0x2E) :
    readFraction (fractionText fs ++ rest) = some (fs, rest) := by
  cases fs with
  | nil =>
    rw [fractionText, List.isEmpty_nil, if_pos rfl, List.nil_append, readFraction]
    rintro r rfl
    exact hp rfl
  | cons u fs =>
    rw [fractionText, List.isEmpty_cons, if_neg Bool.false_ne_true, List.cons_append, readFraction,
      readDigits_append (List.cons_ne_nil u fs) hd hr]

theorem readExponent_none {rest : Text} (h : endsNumber rest = true) :
    readExponent rest = some (0, rest) := by
  cases rest with
  | nil => rfl
  | cons u rest =>
    simp only [endsNumber, List.head?_cons, Option.all_some, Bool.not_eq_true',
      Bool.or_eq_false_iff] at h
    have hu : (u == 0x65 || u == 0x45) = false := by rw [h.1.2, h.2]; rfl
    rw [readExponent.eq_def]
    simp only [hu, Bool.false_eq_true, if_false]

theorem readExponent_exponentText (e : Int) {rest : Text} (hr : rest.head?.any isDigit = false) :
    readExponent (exponentText e ++ rest) = some (e, rest) := by
  have hds := readDigits_append (ofNat_ne_nil e.natAbs) (ofNat_digits e.natAbs) hr
  have hv : toNat (Text.ofNat e.natAbs) = e.natAbs := toNat_ofNat e.natAbs
  rw [exponentText]
  by_cases he : e < 0
  · rw [if_pos he]
    show (readDigits (Text.ofNat e.natAbs ++ rest)).map _ = _
    rw [hds, Option.map_some]
    simp only [hv]
    congr 2
    omega
  · rw [if_neg he]
    show (readDigits (Text.ofNat e.natAbs ++ rest)).map _ = _
    rw [hds, Option.map_some]
    simp only [hv]
    congr 2
    omega

/-! ## Whole magnitudes -/

theorem head?_fractionText (fs rest : Text) (h : endsNumber rest = true) :
    (fractionText fs ++ rest).head?.any isDigit = false := by
  cases fs with
  | nil => exact not_digit_of_endsNumber h
  | cons u fs => rfl

theorem readMagnitude_of_parts (negative : Bool) {t t₁ t₂ rest whole fraction : Text} {e : Int}
    (hw : readWhole t = some (whole, t₁)) (hf : readFraction t₁ = some (fraction, t₂))
    (he : readExponent t₂ = some (e, rest)) :
    readMagnitude negative t
      = some (ofDecimal negative (toNat (whole ++ fraction)) (e - fraction.length), rest) := by
  rw [readMagnitude]
  simp only [Option.bind_eq_bind, hw, hf, he, Option.bind_some]

/-- Digits with or without a fraction, and without an exponent. -/
theorem readMagnitude_positional (negative : Bool) {ds fs rest : Text} (hne : ds ≠ [])
    (hd : ∀ u ∈ ds, isDigit u = true) (hz : ds.head? ≠ some 0x30 ∨ ds.length = 1)
    (hf : ∀ u ∈ fs, isDigit u = true) (hr : endsNumber rest = true) :
    readMagnitude negative (ds ++ fractionText fs ++ rest)
      = some (ofDecimal negative (toNat (ds ++ fs)) (-fs.length), rest) := by
  have hp : rest.head? ≠ some 0x2E := by
    intro hc
    rw [endsNumber, hc] at hr
    simp at hr
  have hwhole := readWhole_append hne hd hz (head?_fractionText fs rest hr)
  have hfraction := readFraction_fractionText hf (not_digit_of_endsNumber hr) hp
  rw [List.append_assoc, readMagnitude_of_parts negative hwhole hfraction (readExponent_none hr),
    zero_sub]

/-- Digits with or without a fraction, and an exponent. -/
theorem readMagnitude_exponential (negative : Bool) {ds fs rest : Text} (e : Int) (hne : ds ≠ [])
    (hd : ∀ u ∈ ds, isDigit u = true) (hz : ds.head? ≠ some 0x30 ∨ ds.length = 1)
    (hf : ∀ u ∈ fs, isDigit u = true) (hr : endsNumber rest = true) :
    readMagnitude negative (ds ++ fractionText fs ++ exponentText e ++ rest)
      = some (ofDecimal negative (toNat (ds ++ fs)) (e - fs.length), rest) := by
  have hh : (fractionText fs ++ (exponentText e ++ rest)).head?.any isDigit = false := by
    cases fs <;> rfl
  have hwhole := readWhole_append hne hd hz hh
  have hfraction : readFraction (fractionText fs ++ (exponentText e ++ rest))
      = some (fs, exponentText e ++ rest) :=
    readFraction_fractionText hf rfl (by simp [exponentText])
  have hexponent := readExponent_exponentText e (not_digit_of_endsNumber hr)
  rw [List.append_assoc, List.append_assoc,
    readMagnitude_of_parts negative hwhole hfraction hexponent]

/-! ## The four notations -/

theorem fractionText_of_ne_nil {fs : Text} (h : fs ≠ []) : fractionText fs = 0x2E :: fs := by
  rw [fractionText, List.isEmpty_eq_false_iff.2 h, if_neg Bool.false_ne_true]

theorem zero_digits : ∀ u ∈ [(0x30 : CodeUnit)], isDigit u = true :=
  List.forall_mem_singleton.2 (by decide)

theorem zeros_digits (n : Nat) : ∀ u ∈ zeros n, isDigit u = true := by
  intro u hu
  rw [List.eq_of_mem_replicate hu]
  decide

theorem append_digits {ds es : Text} (hd : ∀ u ∈ ds, isDigit u = true)
    (he : ∀ u ∈ es, isDigit u = true) : ∀ u ∈ ds ++ es, isDigit u = true := by
  intro u hu
  rcases List.mem_append.1 hu with h | h
  · exact hd u h
  · exact he u h

section Notations

variable {ds rest : Text} (negative : Bool)

/-- Zeros before the point. -/
theorem readMagnitude_zeros (k : Nat) (hne : ds ≠ []) (hd : ∀ u ∈ ds, isDigit u = true)
    (hz : ds.head? ≠ some 0x30) (hr : endsNumber rest = true) :
    readMagnitude negative (ds ++ zeros k ++ rest)
      = some (ofDecimal negative (toNat ds) k, rest) := by
  have hz' : (ds ++ zeros k).head? ≠ some 0x30 := by
    rwa [List.head?_append_of_ne_nil _ hne]
  have hv : toNat (ds ++ zeros k ++ []) = toNat ds * 10 ^ k := by
    rw [List.append_nil, toNat_append, zeros, toNat_replicate_zero, List.length_replicate,
      Nat.add_zero]
  have hread := readMagnitude_positional negative (List.append_ne_nil_of_left_ne_nil hne _)
    (append_digits hd (zeros_digits k)) (Or.inl hz') (List.forall_mem_nil _) hr
  rw [hv, ofDecimal_mul_pow, fractionText, List.isEmpty_nil, if_pos rfl, List.append_nil] at hread
  rw [hread]
  simp

/-- The point among the digits. -/
theorem readMagnitude_point {k : Nat} (hk : 0 < k) (hlt : k < ds.length)
    (hd : ∀ u ∈ ds, isDigit u = true) (hz : ds.head? ≠ some 0x30) (hr : endsNumber rest = true) :
    readMagnitude negative (ds.take k ++ 0x2E :: ds.drop k ++ rest)
      = some (ofDecimal negative (toNat ds) (k - ds.length), rest) := by
  have htake : ds.take k ≠ [] := by
    apply List.ne_nil_of_length_pos
    rw [List.length_take]
    omega
  have hdrop : ds.drop k ≠ [] := by
    apply List.ne_nil_of_length_pos
    rw [List.length_drop]
    omega
  have hz' : (ds.take k).head? ≠ some 0x30 := by
    rwa [List.head?_take, if_neg hk.ne']
  have hdd : ∀ u ∈ ds.drop k, isDigit u = true := fun u hu => hd u (List.mem_of_mem_drop hu)
  have hread := readMagnitude_positional negative htake
    (fun u hu => hd u (List.mem_of_mem_take hu)) (Or.inl hz') hdd hr
  have he : -((ds.drop k).length : Int) = k - ds.length := by
    rw [List.length_drop]
    omega
  rw [fractionText_of_ne_nil hdrop, List.take_append_drop, he] at hread
  exact hread

/-- Zeros after the point. -/
theorem readMagnitude_small (k : Nat) (hne : ds ≠ []) (hd : ∀ u ∈ ds, isDigit u = true)
    (hr : endsNumber rest = true) :
    readMagnitude negative (0x30 :: 0x2E :: zeros k ++ ds ++ rest)
      = some (ofDecimal negative (toNat ds) (-(k + ds.length)), rest) := by
  have hv : Text.toNat ([0x30] ++ (zeros k ++ ds)) = Text.toNat ds := by
    rw [toNat_append, toNat_append, zeros, toNat_replicate_zero]
    simp [Text.toNat]
  have he : -((zeros k ++ ds).length : Int) = -(k + ds.length) := by
    rw [List.length_append, zeros, List.length_replicate]
    push_cast
    rfl
  have hread := readMagnitude_positional negative (List.cons_ne_nil 0x30 []) zero_digits
    (Or.inr rfl) (append_digits (zeros_digits k) hd) hr
  rw [fractionText_of_ne_nil (List.append_ne_nil_of_right_ne_nil _ hne), hv, he] at hread
  rw [← hread]
  simp

/-- One digit before the point, and an exponent. -/
theorem readMagnitude_scientific {lead : CodeUnit} {more : Text} (e : Int)
    (hd : ∀ u ∈ lead :: more, isDigit u = true) (hr : endsNumber rest = true) :
    readMagnitude negative (lead :: fractionText more ++ exponentText e ++ rest)
      = some (ofDecimal negative (toNat (lead :: more)) (e - more.length), rest) := by
  have hlead : ∀ u ∈ [lead], isDigit u = true := by
    intro u hu
    rw [List.mem_singleton.1 hu]
    exact hd lead List.mem_cons_self
  exact readMagnitude_exponential negative e (List.cons_ne_nil lead []) hlead (Or.inr rfl)
    (fun u hu => hd u (List.mem_cons_of_mem _ hu)) hr

end Notations

/-! ## The layout of a decimal -/

/-- The layout of a decimal is a number whose value is that of the decimal: the four notations
only put the point in different places. -/
theorem readMagnitude_layout (negative : Bool) {d : Decimal} (hd : d.digits ≠ 0) {rest : Text}
    (hr : endsNumber rest = true) :
    readMagnitude negative (layout d ++ rest) = some (d.value negative, rest) := by
  have hne := ofNat_ne_nil d.digits
  have hdig := ofNat_digits d.digits
  have hhead := head?_ofNat_ne_zero hd
  have hval := toNat_ofNat d.digits
  rw [Decimal.value, layout]
  generalize Text.ofNat d.digits = ds at hne hdig hhead hval
  split_ifs with h1 h2 h3
  · have he : ((d.exponent + ds.length - ds.length).toNat : Int) = d.exponent := by omega
    rw [readMagnitude_zeros negative _ hne hdig hhead hr, hval, he]
  · have he : ((d.exponent + ds.length).toNat - ds.length : Int) = d.exponent := by omega
    rw [readMagnitude_point negative (by omega) (by omega) hdig hhead hr, hval, he]
  · have he : -((-(d.exponent + ds.length)).toNat + ds.length : Int) = d.exponent := by omega
    rw [readMagnitude_small negative _ hne hdig hr, hval, he]
  · cases ds with
    | nil => exact absurd rfl hne
    | cons lead more =>
      have he : d.exponent + (lead :: more).length - 1 - more.length = d.exponent := by
        rw [List.length_cons]
        omega
      have hread :=
        readMagnitude_scientific negative (d.exponent + (lead :: more).length - 1) hdig hr
      rw [hval, he] at hread
      cases more with
      | nil => exact hread
      | cons m more => exact hread

/-- The layout of a decimal starts with a digit. -/
theorem layout_eq_cons (d : Decimal) :
    ∃ u t, layout d = u :: t ∧ isDigit u = true := by
  have hne := ofNat_ne_nil d.digits
  have hdig := ofNat_digits d.digits
  rw [layout]
  generalize Text.ofNat d.digits = ds at hne hdig
  cases ds with
  | nil => exact absurd rfl hne
  | cons lead more =>
    have hlead := hdig lead List.mem_cons_self
    split_ifs with h1 h2 h3
    · exact ⟨lead, _, rfl, hlead⟩
    · obtain ⟨k, hk⟩ : ∃ k, (d.exponent + (lead :: more).length).toNat = k + 1 :=
        ⟨(d.exponent + (lead :: more).length).toNat - 1, by omega⟩
      rw [hk]
      exact ⟨lead, _, rfl, hlead⟩
    · exact ⟨0x30, _, rfl, by decide⟩
    · cases more with
      | nil => exact ⟨lead, _, rfl, hlead⟩
      | cons m more => exact ⟨lead, _, rfl, hlead⟩

/-! ## Numbers -/

theorem readNumber_digit {u : CodeUnit} (hu : isDigit u = true) (t : Text) :
    readNumber (u :: t) = readMagnitude false (u :: t) := by
  rw [readNumber]
  rintro r hr
  cases hr
  exact absurd hu (by decide)

/-- The text of a finite number starts with a digit or a minus. -/
theorem toText_eq_cons (negative : Bool) (k : Fin limit) :
    ∃ u t, toText (.finite negative k) = u :: t ∧ (isDigit u = true ∨ u = 0x2D) := by
  by_cases hk : k.val = 0
  · exact ⟨0x30, [], by rw [toText, if_pos hk], Or.inl (by decide)⟩
  · obtain ⟨u, t, hut, hu⟩ := layout_eq_cons (decimalOf k)
    cases negative with
    | false => exact ⟨u, t, by rw [toText, if_neg hk, ← hut]; rfl, Or.inl hu⟩
    | true => exact ⟨0x2D, u :: t, by rw [toText, if_neg hk, ← hut]; rfl, Or.inr rfl⟩

/-- Reading the text of a finite number gives the number, zero without its sign. -/
theorem readNumber_toText (negative : Bool) (k : Fin limit) {rest : Text}
    (hr : endsNumber rest = true) :
    readNumber (toText (.finite negative k) ++ rest)
      = some (.finite (negative && k.val != 0) k, rest) := by
  by_cases hk : k.val = 0
  · have hz : Number.finite (negative && k.val != 0) k = zero false := by
      have hk' : k = ⟨0, by decide⟩ := Fin.ext hk
      rw [hk', zero]
      simp
    have hread := readMagnitude_positional false (List.cons_ne_nil 0x30 []) zero_digits
      (Or.inr rfl) (List.forall_mem_nil _) hr
    rw [toText, if_pos hk, List.singleton_append, readNumber_digit (by decide), hz]
    exact hread
  · have hne : (k.val != 0) = true := bne_iff_ne.2 hk
    have hd := digits_decimalOf_ne_zero hk
    rw [toText, if_neg hk, hne, Bool.and_true, ← value_decimalOf hk negative]
    cases negative with
    | false =>
      obtain ⟨u, t, hut, hu⟩ := layout_eq_cons (decimalOf k)
      have hread := readMagnitude_layout false hd hr
      rw [hut] at hread
      rw [if_neg Bool.false_ne_true, hut, List.cons_append, readNumber_digit hu]
      exact hread
    | true =>
      rw [if_pos rfl, List.cons_append, readNumber]
      exact readMagnitude_layout true hd hr

end SurfaceGuard.Json
