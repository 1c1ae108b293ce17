import SurfaceGuard.Baseline.File
import SurfaceGuard.Proofs.Value.Canonical

/-!
# One byte sequence for each snapshot

A baseline file is the canonical text of a record, and a line feed (`canonicalJson_toValue`).
Its bytes are therefore equal for two snapshots exactly if these agree in target, time and
symbols, as those of two values are if they are the same.
-/

namespace SurfaceGuard

namespace Snapshot

/-- The record whose canonical text is stored. -/
def toValue (s : Snapshot) : Value :=
  .record [("target", .string s.target), ("createdAt", .string s.createdAt),
    ("symbols", .record (s.symbols.toList.map fun e => (e.1, .string e.2)))]

theorem supported_toValue (s : Snapshot) : s.toValue.Supported := by
  have hsymbols : (Value.record (s.symbols.toList.map fun e => (e.1, .string e.2))).Supported := by
    refine .object .plain ?_ fun m hm => ?_
    · rw [Members.names_map]
      exact s.symbols.distinct
    · obtain ⟨e, -, rfl⟩ := List.mem_map.1 hm
      exact .string e.2
  refine .object .plain ?_ fun m hm => ?_
  · show ([Text.ofString "target", Text.ofString "createdAt", Text.ofString "symbols"]).Nodup
    decide
  · simp only [List.mem_cons, List.not_mem_nil, or_false] at hm
    rcases hm with rfl | rfl | rfl
    · exact .string s.target
    · exact .string s.createdAt
    · exact hsymbols

/-- The table of symbols is stored as an object with ascending names. -/
theorem canonicalJson_symbols (table : SymbolTable) :
    (Value.record (table.toList.map fun e => (e.1, .string e.2))).canonicalJson
      = .object ((Members.sort table.toList).map fun e => (e.1, .string e.2)) := by
  have h : ∀ m ∈ table.toList.map fun e => (e.1, Value.string e.2), m.2.Supported := by
    intro m hm
    obtain ⟨e, -, rfl⟩ := List.mem_map.1 hm
    exact .string e.2
  rw [Value.record, Value.canonicalJson_object .plain h, List.map_map, Members.sort_map]
  rfl

/-- The stored JSON value is the canonical one of the record. -/
theorem canonicalJson_toValue (s : Snapshot) : s.toValue.canonicalJson = Baseline.toJson s := by
  have hv := supported_toValue s
  rw [toValue, Value.record] at *
  cases hv with
  | object _ hd h =>
    rw [Value.canonicalJson_object .plain h, Baseline.toJson]
    refine congrArg Json.object (Members.sort_eq_of_pairwise ?_ ?_ ?_)
    · rw [List.map_cons, List.map_cons, List.map_cons, List.map_nil, canonicalJson_symbols]
      exact @List.perm_append_comm _ [_] [_, _]
    · rwa [Members.names_map]
    · simp only [List.pairwise_cons, List.mem_cons, List.not_mem_nil, or_false, forall_eq_or_imp,
        forall_eq, List.Pairwise.nil, IsEmpty.forall_iff, implies_true, and_true]
      decide

end Snapshot

namespace Baseline

theorem lossless_toJson (s : Snapshot) : (toJson s).Lossless := by
  rw [← s.canonicalJson_toValue]
  exact Value.lossless_canonicalJson s.supported_toValue

/-- The bytes of a baseline are those of the canonical text of its record, and a line feed. -/
theorem text_eq_canonicalText (s : Snapshot) :
    s.toValue.canonicalText.map (· ++ Text.newline) = .ok (text s) := by
  rw [Value.canonicalText_eq s.supported_toValue, s.canonicalJson_toValue]
  rfl

/-- Equal bytes come from equal JSON values. -/
theorem encode_eq_iff {s t : Snapshot} : encode s = encode t ↔ toJson s = toJson t := by
  constructor
  · exact Value.eq_of_encode_write_eq (lossless_toJson s) (lossless_toJson t) (by decide)
  · intro h
    rw [encode, encode, text, text, h]

theorem toJson_eq_iff {s t : Snapshot} :
    toJson s = toJson t ↔ s.target = t.target ∧ s.createdAt = t.createdAt
      ∧ ∀ id, s.symbols.get? id = t.symbols.get? id := by
  constructor
  · intro h
    simp only [toJson, Json.object.injEq, List.cons.injEq, Prod.mk.injEq, Json.string.injEq,
      true_and, and_true] at h
    obtain ⟨hcreated, hsymbols, htarget⟩ := h
    refine ⟨htarget, hcreated, fun id => ?_⟩
    have hget := congrArg (Members.get? id) hsymbols
    have hs : Members.get? id (Members.sort s.symbols.toList) = s.symbols.get? id :=
      Members.get?_sort s.symbols.distinct id
    have ht : Members.get? id (Members.sort t.symbols.toList) = t.symbols.get? id :=
      Members.get?_sort t.symbols.distinct id
    rw [Members.get?_map, Members.get?_map, hs, ht] at hget
    exact Option.map_injective (fun _ _ => Json.string.inj) hget
  · rintro ⟨htarget, hcreated, hsymbols⟩
    have hsort : Members.sort s.symbols.toList = Members.sort t.symbols.toList :=
      Members.sort_eq_sort s.symbols.distinct t.symbols.distinct hsymbols
    rw [toJson, toJson, htarget, hcreated, hsort]

end Baseline

/-- Canonical bytes are equal for the same values only, and so are baselines: two of them have
the same bytes if and only if they agree in target, time and symbols. -/
theorem canonicalBytes_eq_iff_same :
    (∀ v w : Value, v.Supported → w.Supported → ∃ x y,
      v.canonicalBytes = .ok x ∧ w.canonicalBytes = .ok y ∧ (x = y ↔ v.Same w))
    ∧ ∀ s t : Snapshot, Baseline.encode s = Baseline.encode t ↔
      s.target = t.target ∧ s.createdAt = t.createdAt
        ∧ ∀ id, s.symbols.get? id = t.symbols.get? id := by
  refine ⟨fun v w hv hw => ?_, fun s t => ?_⟩
  · exact ⟨_, _, Value.canonicalBytes_eq hv, Value.canonicalBytes_eq hw,
      Value.encode_write_eq_iff_same hv hw⟩
  · rw [Baseline.encode_eq_iff, Baseline.toJson_eq_iff]

/-- Two objects that differ in ancestry, in the order of members and in the sign of zero. -/
theorem canonicalBytes_eq_iff_same_objects :
    let v : Value := .object .plain [("a", .number (.zero true)), ("b", .null)]
    let w : Value := .object .none [("b", .null), ("a", .number (.zero false))]
    v.Supported ∧ w.Supported ∧ ∃ x y,
      v.canonicalBytes = .ok x ∧ w.canonicalBytes = .ok y ∧ (x = y ↔ v.Same w) := by
  intro v w
  have hv : v.Supported := by
    refine .object .plain (by decide) fun m hm => ?_
    rcases List.mem_pair.1 hm with rfl | rfl
    · exact .number true _
    · exact .null
  have hw : w.Supported := by
    refine .object .none (by decide) fun m hm => ?_
    rcases List.mem_pair.1 hm with rfl | rfl
    · exact .null
    · exact .number false _
  exact ⟨hv, hw, canonicalBytes_eq_iff_same.1 v w hv hw⟩

end SurfaceGuard
