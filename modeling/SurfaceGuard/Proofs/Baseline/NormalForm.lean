import SurfaceGuard.Proofs.Baseline.RoundTrip
import SurfaceGuard.Proofs.Config
import SurfaceGuard.Proofs.Text.Encoding
import SurfaceGuard.Proofs.Text.Escapes

/-!
# The normal form of baselines

A text that decodes as a baseline need not be one that was written here: it may be laid out in any
way, repeat names and have members that nobody reads.  What comes out of it has no symbol with the
reserved name (`reservedName_not_mem_of_decode`), and on such snapshots writing and reading are
inverse to each other.  So the bytes that such a text is written to are its normal form
(`decoded_has_normal_form`): reading and writing them again gives the same bytes, and two texts have
the same normal form if and only if they decode to the same.
-/

namespace SurfaceGuard

open Quoted

/-! ## Text on one line -/

theorem Json.isPrintable_writeMembers {members : List (Text × Json)}
    (h : ∀ m ∈ members, IsPrintable (write m.2)) : IsPrintable (writeMembers members) := by
  have hcolon : isControl 0x3A = false := by decide
  have hcomma : isControl 0x2C = false := by decide
  induction members with
  | nil => decide
  | cons m members ih =>
    obtain ⟨name, value⟩ := m
    have hvalue : IsPrintable (write value) := h (name, value) List.mem_cons_self
    have hrec := ih fun x hx => h x (List.mem_cons_of_mem _ hx)
    cases members with
    | nil =>
      rw [writeMembers, isPrintable_append, isPrintable_append, isPrintable_cons]
      exact ⟨⟨isPrintable_escape name, hcolon, hvalue⟩, by decide⟩
    | cons n members =>
      rw [writeMembers_cons (List.cons_ne_nil n members), isPrintable_append, isPrintable_append,
        isPrintable_cons, isPrintable_cons]
      exact ⟨⟨isPrintable_escape name, hcolon, hvalue⟩, hcomma, hrec⟩

theorem Json.isPrintable_write_object {members : List (Text × Json)}
    (h : ∀ m ∈ members, IsPrintable (write m.2)) : IsPrintable (write (.object members)) :=
  isPrintable_cons.2 ⟨by decide, isPrintable_writeMembers h⟩

/-! ## Well-formed bytes -/

namespace Utf8

/-- The bytes are those of scalar values, one after the other. -/
def IsWellFormed (b : Bytes) : Prop :=
  ∃ ns : List Nat, (∀ n ∈ ns, Text.IsScalar n) ∧ b = ns.flatMap encodeScalar

theorem isWellFormed_encode (t : Text) : IsWellFormed (encode t) :=
  ⟨Text.scalars t, fun _ => Text.isScalar_of_mem_scalars, rfl⟩

end Utf8

/-! ## Records that are read -/

namespace Shape

variable {α : Type} {shape : Shape α} {j? : Option Json} {es : List (Text × α)}

theorem record_eq_valid_iff : record shape j? = .valid es ↔
    ∃ members read, j? = some (.object members)
      ∧ entries shape (Members.enumerated members) = .valid read
      ∧ (read.filter fun e => e.1 ≠ reservedName) = es := by
  unfold record
  split
  · exact iff_of_false nofun (by rintro ⟨_, _, ⟨⟩, -⟩)
  · next members =>
    refine Checked.map_eq_valid_iff.trans ⟨fun ⟨read, h⟩ => ⟨members, read, rfl, h⟩, ?_⟩
    rintro ⟨_, read, ⟨⟩, h⟩
    exact ⟨read, h⟩
  · next j hj =>
    refine iff_of_false nofun ?_
    rintro ⟨members, -, heq, -⟩
    exact hj members (Option.some.inj heq)

/-- No record has the reserved name. -/
theorem reservedName_not_mem_of_record (h : record shape j? = .valid es) :
    reservedName ∉ Members.names es := by
  obtain ⟨-, read, -, -, rfl⟩ := record_eq_valid_iff.1 h
  intro hmem
  obtain ⟨e, he, hname⟩ := List.mem_map.1 hmem
  exact absurd hname (of_decide_eq_true (List.mem_filter.1 he).2)

end Shape

deriving instance DecidableEq for SymbolTable, Snapshot

namespace Baseline

open Shape

variable {t source : Text} {s : Snapshot}

/-- A baseline is an object, and each part of the snapshot is that of one member. -/
theorem shape_eq_valid_iff {j? : Option Json} : shape j? = .valid s ↔
    ∃ o symbols, j? = some (.object o)
      ∧ Shape.text (Members.get? "target" o) = .valid s.target
      ∧ Shape.text (Members.get? "createdAt" o) = .valid s.createdAt
      ∧ record Shape.text (Members.get? "symbols" o) = .valid symbols
      ∧ SymbolTable.ofList symbols = s.symbols := by
  rw [shape, object_eq_valid_iff]
  simp only [Checked.seq_eq_valid_iff, Checked.map_eq_valid_iff, field_eq_valid_iff]
  constructor
  · rintro ⟨o, hj, _, symbols, ⟨_, createdAt, ⟨target, htarget, rfl⟩, hcreated, rfl⟩, hsymbols,
      rfl⟩
    exact ⟨o, symbols, hj, htarget, hcreated, hsymbols, rfl⟩
  · rintro ⟨o, symbols, hj, htarget, hcreated, hsymbols, htable⟩
    refine ⟨o, hj, _, symbols, ⟨_, _, ⟨_, htarget, rfl⟩, hcreated, rfl⟩, hsymbols, ?_⟩
    rw [htable]

/-- A text is accepted exactly if it is JSON of the shape of a baseline. -/
theorem decode_eq_ok_iff : decode t source = .ok s ↔
    ∃ json, Json.read? t = some json ∧ shape (some json) = .valid s := by
  rw [decode]
  cases hread : Json.read? t with
  | none => simp
  | some json => cases hshape : shape (some json) <;> simp [hshape]

/-- No symbol of what is decoded has the reserved name. -/
theorem reservedName_not_mem_of_decode (h : decode t source = .ok s) :
    reservedName ∉ s.symbols.ids := by
  obtain ⟨json, -, hshape⟩ := decode_eq_ok_iff.1 h
  obtain ⟨o, symbols, -, -, -, hrecord, htable⟩ := shape_eq_valid_iff.1 hshape
  rw [← htable, SymbolTable.mem_ids_ofList]
  exact reservedName_not_mem_of_record hrecord

/-! ## The normal form -/

theorem isPrintable_write_toJson (s : Snapshot) : IsPrintable (toJson s).write := by
  have hsymbols : ∀ m ∈ (Members.sort s.symbols.toList).map fun e => (e.1, Json.string e.2),
      IsPrintable m.2.write := by
    intro m hm
    obtain ⟨e, -, rfl⟩ := List.mem_map.1 hm
    exact isPrintable_escape e.2
  refine Json.isPrintable_write_object fun m hm => ?_
  simp only [List.mem_cons, List.not_mem_nil, or_false] at hm
  rcases hm with rfl | rfl | rfl
  · exact isPrintable_escape s.createdAt
  · exact Json.isPrintable_write_object hsymbols
  · exact isPrintable_escape s.target

/-- The bytes of a baseline end in a line feed, and have no other. -/
theorem encode_eq_line (s : Snapshot) : ∃ body, encode s = body ++ [0x0A] ∧ 0x0A ∉ body := by
  have hfeed : (0x0A : CodeUnit).toNat < 0x80 := by decide
  refine ⟨Utf8.encode (toJson s).write, ?_, fun hmem => ?_⟩
  · have hbytes := Utf8.encode_append_cons (toJson s).write [] (Utf8.not_surrogate_of_lt hfeed)
    rw [Utf8.encode_cons_of_lt [] hfeed] at hbytes
    exact hbytes
  · have hunit : (0x0A : CodeUnit) ∈ (toJson s).write := Utf8.mem_of_mem_encode hfeed hmem
    exact absurd (isPrintable_write_toJson s _ hunit) (by decide)

/-- What is decoded is written to a normal form.  Its bytes are well-formed, with one line feed, at
the end; they decode to the same target, the same time and the same symbols, and what they decode to
is written to the same bytes.  Two decoded snapshots have the same normal form if and only if they
agree in target, time and symbols. -/
theorem decoded_has_normal_form (t source : Text) (s : Snapshot) (h : decode t source = .ok s) :
    Utf8.IsWellFormed (encode s)
      ∧ (∃ body, encode s = body ++ [0x0A] ∧ 0x0A ∉ body)
      ∧ (∀ source', ∃ s', decode (Utf8.decode (encode s)) source' = .ok s'
        ∧ s'.target = s.target ∧ s'.createdAt = s.createdAt ∧ s'.symbols.Agree s.symbols
        ∧ encode s' = encode s)
      ∧ ∀ t' source' s', decode t' source' = .ok s' →
        (encode s = encode s' ↔
          s.target = s'.target ∧ s.createdAt = s'.createdAt ∧ s.symbols.Agree s'.symbols) := by
  have hagree : (SymbolTable.ofList (kept s.symbols)).Agree s.symbols :=
    agree_ofList_kept_iff.2 (reservedName_not_mem_of_decode h)
  refine ⟨Utf8.isWellFormed_encode _, encode_eq_line s, fun source' => ?_,
    fun t' source' s' _ => ?_⟩
  · refine ⟨_, decode_decode_encode s source', rfl, rfl, hagree, ?_⟩
    exact encode_eq_iff.2 (toJson_eq_iff.2 ⟨rfl, rfl, hagree⟩)
  · exact encode_eq_iff.trans toJson_eq_iff

/-- A text with blanks, names that come twice, the reserved name, a member that nobody reads and an
escaped surrogate without its other half, and a text in another order that decodes to the same. -/
theorem decoded_has_normal_form_of_texts :
    let t : Text := "\x7b \"symbols\": \x7b\"b\": \"1\", \"__proto__\": \"z\", "
      ++ "\"a\": \"\\uD800\", \"b\": \"2\"\x7d, \"target\": \"A\", \"more\": [1], "
      ++ "\"createdAt\": \"now\", \"target\": \"Mod\" \x7d"
    let t' : Text := "\x7b\"target\":\"Mod\",\"createdAt\":\"now\","
      ++ "\"symbols\":\x7b\"a\":\"\\ud800\",\"b\":\"2\"\x7d\x7d"
    ∃ s s', decode t "old" = .ok s ∧ decode t' "new" = .ok s' ∧ s ≠ s' ∧ encode s = encode s'
      ∧ Utf8.IsWellFormed (encode s)
      ∧ ∃ u, decode (Utf8.decode (encode s)) "again" = .ok u ∧ encode u = encode s := by
  intro t t'
  let es : List (Text × Text) := [("b", "2"), ("a", [0xD800])]
  let es' : List (Text × Text) := [("a", [0xD800]), ("b", "2")]
  let s : Snapshot := ⟨"Mod", "now", SymbolTable.ofList es⟩
  let s' : Snapshot := ⟨"Mod", "now", SymbolTable.ofList es'⟩
  have hs : decode t "old" = .ok s := by decide +kernel
  have hs' : decode t' "new" = .ok s' := by decide +kernel
  obtain ⟨hwell, -, hstable, hsame⟩ := decoded_has_normal_form t "old" s hs
  obtain ⟨u, hu, -, -, -, hbytes⟩ := hstable "again"
  have hagree : s.symbols.Agree s'.symbols := by
    have hd : (Members.names es).Nodup := by decide
    have hd' : (Members.names es').Nodup := by decide
    intro id
    rw [SymbolTable.get?, SymbolTable.get?, SymbolTable.entries_ofList hd,
      SymbolTable.entries_ofList hd']
    exact Members.get?_of_perm (List.Perm.swap ..) hd id
  exact ⟨s, s', hs, hs', by decide, (hsame t' "new" s' hs').2 ⟨rfl, rfl, hagree⟩, hwell, u, hu,
    hbytes⟩

end Baseline

end SurfaceGuard
