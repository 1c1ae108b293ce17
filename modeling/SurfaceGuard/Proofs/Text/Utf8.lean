import SurfaceGuard.Text.Utf8
import SurfaceGuard.Proofs.Text.Surrogate

/-!
# Reading UTF-8 back

The decoder returns the scalar values that were encoded (`decode_encode`): the text itself
if it is well-formed, and else the text with its lone surrogates replaced.  Each range of
scalar values is one case, followed through the decoder byte by byte.
-/

namespace SurfaceGuard.Utf8

open Text

namespace Decoder

/-! ## First bytes -/

theorem lead_one {b : UInt8} (h : b.toNat < 0x80) : lead b = (ready, [b.toUInt16]) := by
  have hb : b < 0x80 := UInt8.lt_iff_toNat_lt.2 h
  rw [lead, if_pos hb]

theorem lead_two {b : UInt8} (h1 : 0xC2 ≤ b.toNat) (h2 : b.toNat ≤ 0xDF) :
    lead b = (expecting 1 0x80 0xBF (b.toNat - 0xC0), []) := by
  have hb : ¬b < 0x80 := by
    intro hc
    have hc' : b.toNat < 0x80 := UInt8.lt_iff_toNat_lt.1 hc
    omega
  have hb' : (0xC2 ≤ b && b ≤ 0xDF) = true := by
    simp [UInt8.le_iff_toNat_le, h1, h2]
  rw [lead, if_neg hb, if_pos hb']

/-- The bounds of the second of three bytes keep out long forms and surrogates. -/
theorem lead_three {b : UInt8} (h1 : 0xE0 ≤ b.toNat) (h2 : b.toNat ≤ 0xEF) :
    lead b = (expecting 2 (if b.toNat = 0xE0 then 0xA0 else 0x80)
      (if b.toNat = 0xED then 0x9F else 0xBF) (b.toNat - 0xE0), []) := by
  obtain ⟨n, hn, rfl⟩ : ∃ n, n < 16 ∧ b = (0xE0 + n).toUInt8 := by
    refine ⟨b.toNat - 0xE0, by omega, ?_⟩
    rw [Nat.add_sub_cancel' h1]
    simp
  revert n
  decide

/-- The bounds of the second of four bytes keep out long forms and values that are too large. -/
theorem lead_four {b : UInt8} (h1 : 0xF0 ≤ b.toNat) (h2 : b.toNat ≤ 0xF4) :
    lead b = (expecting 3 (if b.toNat = 0xF0 then 0x90 else 0x80)
      (if b.toNat = 0xF4 then 0x8F else 0xBF) (b.toNat - 0xF0), []) := by
  obtain ⟨n, hn, rfl⟩ : ∃ n, n < 5 ∧ b = (0xF0 + n).toUInt8 := by
    refine ⟨b.toNat - 0xF0, by omega, ?_⟩
    rw [Nat.add_sub_cancel' h1]
    simp
  revert n
  decide

/-! ## Later bytes -/

theorem step_last {low high b : UInt8} (value : Nat) (h1 : low.toNat ≤ b.toNat)
    (h2 : b.toNat ≤ high.toNat) :
    step (expecting 1 low high value) b
      = (ready, ofScalar (value * 0x40 + (b.toNat - 0x80))) := by
  have hb : (low ≤ b && b ≤ high) = true := by
    simp [UInt8.le_iff_toNat_le, h1, h2]
  rw [step, if_pos hb]
  rfl

theorem step_more {low high b : UInt8} (needed value : Nat) (h1 : low.toNat ≤ b.toNat)
    (h2 : b.toNat ≤ high.toNat) :
    step (expecting (needed + 2) low high value) b
      = (expecting (needed + 1) 0x80 0xBF (value * 0x40 + (b.toNat - 0x80)), []) := by
  have hb : (low ≤ b && b ≤ high) = true := by
    simp [UInt8.le_iff_toNat_le, h1, h2]
  have hn : ¬needed + 2 ≤ 1 := by omega
  rw [step, if_pos hb]
  simp only [if_neg hn]
  rfl

theorem run_cons (d : Decoder) (b : UInt8) (rest : Bytes) :
    d.run (b :: rest) = (d.step b).2 ++ (d.step b).1.run rest := rfl

end Decoder

open Decoder

theorem toNat_byte {n : Nat} (h : n < 0x100) : n.toUInt8.toNat = n := by
  rw [Nat.toUInt8_eq, UInt8.toNat_ofNat']
  omega

/-! ## Scalar values -/

theorem run_encodeScalar_one {n : Nat} (h : n < 0x80) (rest : Bytes) :
    ready.run (encodeScalar n ++ rest) = ofScalar n ++ ready.run rest := by
  have hb : n.toUInt8.toNat = n := toNat_byte (by omega)
  have hu : n.toUInt8.toUInt16 = n.toUInt16 := by
    apply UInt16.toNat_inj.1
    rw [UInt8.toNat_toUInt16, hb, Nat.toUInt16_eq, UInt16.toNat_ofNat']
    omega
  rw [encodeScalar, if_pos h, List.singleton_append, run_cons, step, lead_one (by omega), ofScalar,
    if_pos (by omega), hu]

theorem run_encodeScalar_two {n : Nat} (h1 : 0x80 ≤ n) (h2 : n < 0x800) (rest : Bytes) :
    ready.run (encodeScalar n ++ rest) = ofScalar n ++ ready.run rest := by
  have hb : (0xC0 + n / 0x40).toUInt8.toNat = 0xC0 + n / 0x40 := toNat_byte (by omega)
  have hc : (0x80 + n % 0x40).toUInt8.toNat = 0x80 + n % 0x40 := toNat_byte (by omega)
  have hv : (0xC0 + n / 0x40 - 0xC0) * 0x40 + (0x80 + n % 0x40 - 0x80) = n := by omega
  rw [encodeScalar, if_neg (by omega), if_pos h2, List.cons_append, List.singleton_append, run_cons,
    step, lead_two (by omega) (by omega), run_cons, step_last _ (by simp; omega) (by simp; omega),
    hb, hc, hv]
  rfl

theorem run_encodeScalar_three {n : Nat} (h1 : 0x800 ≤ n) (h2 : n < 0x10000) (hs : IsScalar n)
    (rest : Bytes) : ready.run (encodeScalar n ++ rest) = ofScalar n ++ ready.run rest := by
  have hb : (0xE0 + n / 0x1000).toUInt8.toNat = 0xE0 + n / 0x1000 := toNat_byte (by omega)
  have hc : (0x80 + n / 0x40 % 0x40).toUInt8.toNat = 0x80 + n / 0x40 % 0x40 :=
    toNat_byte (by omega)
  have hd : (0x80 + n % 0x40).toUInt8.toNat = 0x80 + n % 0x40 := toNat_byte (by omega)
  have hv : ((0xE0 + n / 0x1000 - 0xE0) * 0x40 + (0x80 + n / 0x40 % 0x40 - 0x80)) * 0x40
      + (0x80 + n % 0x40 - 0x80) = n := by omega
  rw [IsScalar] at hs
  rw [encodeScalar, if_neg (by omega), if_neg (by omega), if_pos h2, List.cons_append,
    List.cons_append, List.singleton_append, run_cons, step, lead_three (by omega) (by omega),
    run_cons, step_more 0 _ (by rw [hb, hc]; split <;> simp; omega)
      (by rw [hb, hc]; split <;> simp <;> omega),
    run_cons, step_last _ (by simp; omega) (by simp; omega), hb, hc, hd, hv]
  rfl

theorem run_encodeScalar_four {n : Nat} (h1 : 0x10000 ≤ n) (h2 : n < 0x110000) (rest : Bytes) :
    ready.run (encodeScalar n ++ rest) = ofScalar n ++ ready.run rest := by
  have hb : (0xF0 + n / 0x40000).toUInt8.toNat = 0xF0 + n / 0x40000 := toNat_byte (by omega)
  have hc : (0x80 + n / 0x1000 % 0x40).toUInt8.toNat = 0x80 + n / 0x1000 % 0x40 :=
    toNat_byte (by omega)
  have hd : (0x80 + n / 0x40 % 0x40).toUInt8.toNat = 0x80 + n / 0x40 % 0x40 :=
    toNat_byte (by omega)
  have he : (0x80 + n % 0x40).toUInt8.toNat = 0x80 + n % 0x40 := toNat_byte (by omega)
  have hv : (((0xF0 + n / 0x40000 - 0xF0) * 0x40 + (0x80 + n / 0x1000 % 0x40 - 0x80)) * 0x40
      + (0x80 + n / 0x40 % 0x40 - 0x80)) * 0x40 + (0x80 + n % 0x40 - 0x80) = n := by omega
  rw [encodeScalar, if_neg (by omega), if_neg (by omega), if_neg (by omega), List.cons_append,
    List.cons_append, List.cons_append, List.singleton_append, run_cons, step,
    lead_four (by omega) (by omega),
    run_cons, step_more 1 _ (by rw [hb, hc]; split <;> simp; omega)
      (by rw [hb, hc]; split <;> simp <;> omega),
    run_cons, step_more 0 _ (by simp; omega) (by simp; omega),
    run_cons, step_last _ (by simp; omega) (by simp; omega), hb, hc, hd, he, hv]
  rfl

/-- The decoder reads the bytes of a scalar value as that value, whatever follows. -/
theorem run_encodeScalar {n : Nat} (h : IsScalar n) (rest : Bytes) :
    ready.run (encodeScalar n ++ rest) = ofScalar n ++ ready.run rest := by
  by_cases h1 : n < 0x80
  · exact run_encodeScalar_one h1 rest
  by_cases h2 : n < 0x800
  · exact run_encodeScalar_two (by omega) h2 rest
  by_cases h3 : n < 0x10000
  · exact run_encodeScalar_three (by omega) h3 h rest
  · refine run_encodeScalar_four (by omega) ?_ rest
    rw [IsScalar] at h
    omega

/-! ## Texts -/

theorem decode_flatMap_encodeScalar {ns : List Nat} (h : ∀ n ∈ ns, IsScalar n) :
    decode (ns.flatMap encodeScalar) = ns.flatMap ofScalar := by
  induction ns with
  | nil => rfl
  | cons n ns ih =>
    have hn : IsScalar n := h n List.mem_cons_self
    have hns := ih fun m hm => h m (List.mem_cons_of_mem _ hm)
    rw [List.flatMap_cons, List.flatMap_cons, decode, run_encodeScalar hn, ← hns]
    rfl

/-- Decoding the bytes of a text gives the text with its lone surrogates replaced. -/
theorem decode_encode (t : Text) : decode (encode t) = wellFormed t :=
  decode_flatMap_encodeScalar fun _ => isScalar_of_mem_scalars

/-- A text without lone surrogates survives as it is. -/
theorem decode_encode_of_isWellFormed {t : Text} (h : isWellFormed t = true) :
    decode (encode t) = t := by
  rw [decode_encode, wellFormed_eq_self h]

end SurfaceGuard.Utf8
