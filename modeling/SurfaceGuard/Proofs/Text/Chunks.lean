import SurfaceGuard.Proofs.Text.Utf8

/-!
# Decoding chunk by chunk

The decoder is a machine, so what it writes for some bytes is what it writes for the first ones
and then for the others from where it stands (`Decoder.run_append`).  Decoding chunk by chunk lets
it start afresh at every border instead.  That makes no difference where no sequence of bytes is
open, or where it ends anyway (`decode_append`); everywhere else the border cuts a character, and
leaves more replacement characters behind than there are in the text of the whole
(`count_decode_append`).

So decoding chunk by chunk gives the text of the whole exactly if no border cuts a character
(`flatMap_decode_eq_iff`), and bytes can be cut anywhere exactly if none of their characters has
more than one (`cuttable_iff`).
-/

namespace SurfaceGuard.Utf8

open Text

/-- The number of replacement characters in a text. -/
def replacements (t : Text) : Nat := t.count 0xFFFD

@[simp]
theorem replacements_append (s t : Text) :
    replacements (s ++ t) = replacements s + replacements t := List.count_append

/-- A scalar value is written with one replacement character at most. -/
theorem replacements_ofScalar_le (n : Nat) : replacements (ofScalar n) ≤ 1 := by
  rw [ofScalar]
  split
  · exact List.count_le_length
  · have hlow : (0xDC00 + (n - 0x10000) % 0x400).toUInt16 ≠ 0xFFFD := by
      intro h
      have hnat := congrArg UInt16.toNat h
      rw [Nat.toUInt16_eq, UInt16.toNat_ofNat'] at hnat
      simp at hnat
      omega
    rw [replacements, List.count_cons, List.count_singleton, if_neg (by simpa using hlow)]
    split <;> simp

namespace Decoder

/-! ## The decoder in two parts -/

/-- Where the decoder stands after some bytes. -/
def after (d : Decoder) (bytes : Bytes) : Decoder := bytes.foldl (fun d b => (d.step b).1) d

/-- What the decoder has written after some bytes. -/
def written : Decoder → Bytes → Text
  | _, [] => []
  | d, b :: rest => (d.step b).2 ++ written (d.step b).1 rest

theorem run_append (d : Decoder) (a b : Bytes) :
    d.run (a ++ b) = d.written a ++ (d.after a).run b := by
  induction a generalizing d with
  | nil => rfl
  | cons next a ih =>
    rw [List.cons_append, run_cons, ih, written, List.append_assoc]
    rfl

theorem run_eq_written (d : Decoder) (bytes : Bytes) :
    d.run bytes = d.written bytes ++ (d.after bytes).finish := by
  have h := d.run_append bytes []
  rwa [List.append_nil] at h

/-! ## Open sequences -/

/-- Does the decoder go on with an open sequence at a byte? -/
def continues : Decoder → UInt8 → Bool
  | ready, _ => false
  | expecting _ low high _, b => low ≤ b && b ≤ high

/-- No byte that the decoder goes on with starts a sequence itself. -/
def IsBounded : Decoder → Prop
  | ready => True
  | expecting _ low high _ => 0x80 ≤ low.toNat ∧ high.toNat ≤ 0xBF

theorem isBounded_lead (b : UInt8) : (lead b).1.IsBounded := by
  unfold lead
  split_ifs <;> simp [IsBounded]

theorem IsBounded.step {d : Decoder} (b : UInt8) : (d.step b).1.IsBounded := by
  cases d with
  | ready => exact isBounded_lead b
  | expecting needed low high value =>
    rw [Decoder.step]
    split
    · split
      · trivial
      · exact ⟨le_rfl, le_rfl⟩
    · exact isBounded_lead b

theorem IsBounded.after {d : Decoder} (h : d.IsBounded) (bytes : Bytes) :
    (d.after bytes).IsBounded := by
  induction bytes generalizing d with
  | nil => exact h
  | cons b rest ih => exact ih (IsBounded.step b)

/-- A byte that the decoder goes on with is no character by itself. -/
theorem step_ready_of_continues {d : Decoder} {b : UInt8} (hd : d.IsBounded)
    (h : d.continues b = true) : ready.step b = (ready, [0xFFFD]) := by
  cases d with
  | ready => cases h
  | expecting needed low high value =>
    simp only [continues, Bool.and_eq_true, decide_eq_true_eq, UInt8.le_iff_toNat_le] at h
    obtain ⟨n, hn, rfl⟩ : ∃ n, n < 0x40 ∧ b = (0x80 + n).toUInt8 := by
      refine ⟨b.toNat - 0x80, ?_, ?_⟩
      · have hhigh := hd.2
        omega
      · rw [Nat.add_sub_cancel' (hd.1.trans h.1)]
        simp
    clear hd h
    revert n
    decide

/-- At a byte that it does not go on with, the decoder ends what is open and starts afresh. -/
theorem run_of_not_continues {d : Decoder} {bytes : Bytes}
    (h : bytes.head?.any d.continues = false) : d.run bytes = d.finish ++ ready.run bytes := by
  cases d with
  | ready => rfl
  | expecting needed low high value =>
    cases bytes with
    | nil => rfl
    | cons b rest =>
      have hb : ¬(low ≤ b && b ≤ high) = true := Bool.eq_false_iff.1 h
      have hstep : (expecting needed low high value).step b
          = ((lead b).1, 0xFFFD :: (lead b).2) := by
        rw [step, if_neg hb]
      rw [run_cons, hstep]
      rfl

/-- Starting afresh writes at least as many replacement characters as going on, and more of them
if the decoder would have gone on with an open sequence. -/
theorem replacements_run_le {d : Decoder} (hd : d.IsBounded) (bytes : Bytes) :
    replacements (d.run bytes) + (bytes.head?.any d.continues).toNat
      ≤ replacements d.finish + replacements (ready.run bytes) := by
  induction bytes generalizing d with
  | nil => exact le_rfl
  | cons b rest ih =>
    cases hb : d.continues b with
    | false =>
      have hhead : (b :: rest).head?.any d.continues = false := hb
      rw [run_of_not_continues hhead, hhead, replacements_append]
      exact le_rfl
    | true =>
      have hafresh : replacements (ready.run (b :: rest)) = 1 + replacements (ready.run rest) := by
        rw [run_cons, step_ready_of_continues hd hb, replacements_append]
        rfl
      have hlast := replacements_ofScalar_le
      rw [run_cons, replacements_append, hafresh, List.head?_cons, Option.any_some, hb]
      cases d with
      | ready => cases hb
      | expecting needed low high value =>
        have hfinish : replacements (expecting needed low high value).finish = 1 := rfl
        have hrest := ih (IsBounded.step (d := expecting needed low high value) b)
        have hb : (low ≤ b && b ≤ high) = true := hb
        rw [hfinish, Bool.toNat_true]
        rw [step, if_pos hb] at hrest ⊢
        -- the byte was the last one of its sequence, or the sequence is open still
        split at hrest
        · next hneeded =>
          rw [if_pos hneeded]
          have hone := hlast (value * 0x40 + (b.toNat - 0x80))
          dsimp only
          omega
        · next hneeded =>
          rw [if_neg hneeded]
          have hnone : replacements [] = 0 := rfl
          have hopen : ∀ needed low high value,
              replacements (expecting needed low high value).finish = 1 := fun _ _ _ _ => rfl
          simp only [hopen] at hrest
          dsimp only
          omega

end Decoder

open Decoder

/-! ## One border -/

/-- Does the border between some bytes and those that follow cut a character? -/
def cuts (a b : Bytes) : Bool := b.head?.any (ready.after a).continues

theorem decode_append_eq (a b : Bytes) :
    decode (a ++ b) = ready.written a ++ (ready.after a).run b := ready.run_append a b

theorem decode_eq (a : Bytes) : decode a = ready.written a ++ (ready.after a).finish :=
  ready.run_eq_written a

/-- Bytes can be decoded in two parts if the border cuts no character. -/
theorem decode_append {a b : Bytes} (h : cuts a b = false) :
    decode (a ++ b) = decode a ++ decode b := by
  rw [decode_append_eq, run_of_not_continues h, decode_eq a, List.append_assoc]
  rfl

/-- Decoding in two parts never loses a replacement character, and adds one to a character that is
cut. -/
theorem count_decode_append (a b : Bytes) :
    replacements (decode (a ++ b)) + (cuts a b).toNat
      ≤ replacements (decode a) + replacements (decode b) := by
  have hrun := replacements_run_le (IsBounded.after (d := ready) trivial a) b
  rw [decode_append_eq, decode_eq a, replacements_append, replacements_append]
  have hb : decode b = ready.run b := rfl
  rw [cuts, hb]
  omega

/-! ## Chunks -/

/-- Some border between the chunks cuts a character. -/
def Severed (chunks : List Bytes) : Prop :=
  ∃ before after, chunks = before ++ after ∧ cuts before.flatten after.flatten = true

theorem severed_concat_iff {chunks : List Bytes} {c : Bytes} :
    Severed (chunks ++ [c]) ↔ Severed chunks ∨ cuts chunks.flatten c = true := by
  constructor
  · rintro ⟨before, after, hsplit, hcuts⟩
    rcases List.eq_nil_or_concat after with rfl | ⟨after, last, rfl⟩
    · cases hcuts
    · rw [List.concat_eq_append, ← List.append_assoc] at hsplit
      obtain ⟨rfl, hlast⟩ := List.append_inj' hsplit rfl
      obtain rfl := List.singleton_inj.1 hlast
      rw [List.concat_eq_append, List.flatten_concat] at hcuts
      cases hflat : after.flatten with
      | nil =>
        rw [hflat, List.nil_append] at hcuts
        rw [List.flatten_append, hflat, List.append_nil]
        exact Or.inr hcuts
      | cons b rest =>
        rw [hflat] at hcuts
        exact Or.inl ⟨before, after, rfl, by rw [hflat]; exact hcuts⟩
  · rintro (⟨before, after, rfl, hcuts⟩ | hcuts)
    · refine ⟨before, after ++ [c], List.append_assoc _ _ _, ?_⟩
      cases hflat : after.flatten with
      | nil =>
        rw [hflat] at hcuts
        cases hcuts
      | cons b rest =>
        rw [hflat] at hcuts
        rw [List.flatten_concat, hflat]
        exact hcuts
    · exact ⟨chunks, [c], rfl, by simpa using hcuts⟩

theorem flatMap_decode_concat (chunks : List Bytes) (c : Bytes) :
    (chunks ++ [c]).flatMap decode = chunks.flatMap decode ++ decode c := by
  simp

/-- Where no character is cut, decoding chunk by chunk is decoding the whole. -/
theorem flatMap_decode_of_not_severed {chunks : List Bytes} (h : ¬Severed chunks) :
    chunks.flatMap decode = decode chunks.flatten := by
  induction chunks using List.reverseRecOn with
  | nil => rfl
  | append_singleton chunks c ih =>
    rw [severed_concat_iff, not_or, Bool.not_eq_true] at h
    rw [flatMap_decode_concat, ih h.1, List.flatten_concat, decode_append h.2]

/-- Where a character is cut, more replacement characters are left behind. -/
theorem replacements_lt_of_severed {chunks : List Bytes} (h : Severed chunks) :
    replacements (decode chunks.flatten) < replacements (chunks.flatMap decode) := by
  induction chunks using List.reverseRecOn with
  | nil =>
    obtain ⟨before, after, hsplit, hcuts⟩ := h
    obtain ⟨-, rfl⟩ := List.append_eq_nil_iff.1 hsplit.symm
    cases hcuts
  | append_singleton chunks c ih =>
    have hlast := count_decode_append chunks.flatten c
    rw [flatMap_decode_concat, List.flatten_concat, replacements_append]
    by_cases hbefore : Severed chunks
    · have hlt := ih hbefore
      omega
    · have hcuts := (severed_concat_iff.1 h).resolve_left hbefore
      rw [hcuts, Bool.toNat_true] at hlast
      rw [flatMap_decode_of_not_severed hbefore]
      omega

/-- Decoding chunk by chunk gives the text of the whole exactly if no border cuts a character. -/
theorem flatMap_decode_eq_iff {chunks : List Bytes} :
    chunks.flatMap decode = decode chunks.flatten ↔ ¬Severed chunks := by
  refine ⟨fun h hsevered => ?_, flatMap_decode_of_not_severed⟩
  have hlt := replacements_lt_of_severed hsevered
  rw [h] at hlt
  exact lt_irrefl _ hlt

/-- The euro sign in three chunks. -/
example : [[0xE2], [0x82], [0xAC]].flatMap decode = [0xFFFD, 0xFFFD, 0xFFFD]
    ∧ decode [0xE2, 0x82, 0xAC] = [0x20AC] := by decide

/-- No border in some bytes would cut a character. -/
def IsCuttable (bytes : Bytes) : Prop := ∀ a b, bytes = a ++ b → cuts a b = false

/-- Bytes can be cut anywhere exactly if every way to decode them chunk by chunk gives the text of
the whole. -/
theorem cuttable_iff {bytes : Bytes} : IsCuttable bytes ↔
    ∀ chunks : List Bytes, chunks.flatten = bytes → chunks.flatMap decode = decode bytes := by
  constructor
  · rintro h chunks rfl
    refine flatMap_decode_of_not_severed ?_
    rintro ⟨before, after, rfl, hcuts⟩
    rw [h _ _ List.flatten_append] at hcuts
    cases hcuts
  · rintro h a b rfl
    have hboth := h [a, b] (by simp)
    have hflat : [a, b].flatten = a ++ b := by simp
    rw [← hflat, flatMap_decode_eq_iff] at hboth
    by_contra hcuts
    refine hboth ⟨[a], [b], rfl, ?_⟩
    simpa using hcuts

/-- ASCII can be cut anywhere. -/
theorem isCuttable_of_ascii {bytes : Bytes} (h : ∀ b ∈ bytes, b.toNat < 0x80) :
    IsCuttable bytes := by
  rintro a b rfl
  have hready : ready.after a = ready := by
    induction a using List.reverseRecOn with
    | nil => rfl
    | append_singleton a last ih =>
      have ha : ready.after a = ready := ih fun b hb => h b (by
        rw [List.append_assoc]
        exact List.mem_append.2 ((List.mem_append.1 hb).imp_right (List.mem_append_right _)))
      have hlast : last.toNat < 0x80 := h last (by simp)
      rw [after] at ha
      rw [after, List.foldl_append, ha, List.foldl_cons, List.foldl_nil, step, lead_one hlast]
  rw [cuts, hready]
  cases b <;> rfl

end SurfaceGuard.Utf8
