import SurfaceGuard.Proofs.Baseline.Bytes
import SurfaceGuard.Proofs.Snapshot

/-!
# Baselines read back

Decoding the bytes of a baseline gives a snapshot with the same target and the same time.
Its symbols are the stored ones without the reserved name, which the shape of a record
reads and drops: they are all there if and only if no symbol has that name.
-/

namespace SurfaceGuard

namespace Shape

/-- An object of texts is read as it is. -/
theorem entries_text (es : List (Text × Text)) :
    entries text (es.map fun e => (e.1, Json.string e.2)) = .valid es := by
  induction es with
  | nil => rfl
  | cons e es ih =>
    rw [List.map_cons, entries, ih]
    rfl

/-- A record drops the reserved name of an object of texts, and nothing else. -/
theorem record_text (es : List (Text × Text)) :
    record text (some (.object (es.map fun e => (e.1, Json.string e.2))))
      = .valid ((Members.enumerated es).filter fun e => e.1 ≠ reservedName) := by
  rw [record, Members.enumerated_map, entries_text]
  rfl

end Shape

namespace Baseline

/-- What a table keeps when it is stored. -/
def kept (table : SymbolTable) : List (Text × Text) :=
  (Members.enumerated (Members.sort table.toList)).filter fun e => e.1 ≠ Shape.reservedName

theorem nodup_kept (table : SymbolTable) : (Members.names (kept table)).Nodup := by
  have hd : (Members.names (Members.enumerated (Members.sort table.toList))).Nodup :=
    (Members.nodup_names_of_perm (Members.enumerated_perm _)).2
      (Members.nodup_names_sort table.nodup)
  exact hd.sublist (List.filter_sublist.map Prod.fst)

theorem get?_kept (table : SymbolTable) (id : Text) :
    Members.get? id (kept table) = if id = Shape.reservedName then none else table.get? id := by
  have hd := Members.nodup_names_sort table.nodup
  have hget : Members.get? id (Members.enumerated (Members.sort table.toList)) = table.get? id := by
    rw [← Members.get?_of_perm (Members.enumerated_perm _).symm hd, Members.get?_sort table.nodup]
    rfl
  have hfilter := Members.get?_filter (fun name => decide (name ≠ Shape.reservedName)) id
    (Members.enumerated (Members.sort table.toList))
  rw [kept, hfilter, hget]
  by_cases h : id = Shape.reservedName <;> simp [h]

theorem shape_toJson (s : Snapshot) :
    shape (some (toJson s))
      = .valid ⟨s.target, s.createdAt, SymbolTable.ofList (kept s.symbols)⟩ := by
  have hsymbols := Shape.record_text (Members.sort s.symbols.toList)
  have hfield : Shape.field "symbols" (Shape.record Shape.text)
      [("createdAt", .string s.createdAt),
        ("symbols", .object ((Members.sort s.symbols.toList).map fun e => (e.1, .string e.2))),
        ("target", .string s.target)] = .valid (kept s.symbols) := by
    rw [Shape.field]
    show (Shape.record Shape.text (some _)).within _ = _
    rw [hsymbols]
    rfl
  rw [toJson, shape, Shape.object]
  show Checked.both _ _ = _
  rw [hfield]
  rfl

/-- What is decoded from the bytes of a snapshot. -/
theorem decode_decode_encode (s : Snapshot) (source : Text) :
    decode (Utf8.decode (encode s)) source
      = .ok ⟨s.target, s.createdAt, SymbolTable.ofList (kept s.symbols)⟩ := by
  have hl := lossless_toJson s
  have hw : Text.isWellFormed (text s) = true :=
    Text.isWellFormed_append (Json.isWellFormed_write hl) (by decide)
  have hread : Json.read? (text s) = some (toJson s) := Json.read?_write_append hl (by rfl) (by rfl)
  rw [encode, Utf8.decode_encode_of_isWellFormed hw, decode]
  simp only [hread, shape_toJson]

theorem get?_ofList_kept (table : SymbolTable) (id : Text) :
    (SymbolTable.ofList (kept table)).get? id
      = if id = Shape.reservedName then none else table.get? id := by
  rw [SymbolTable.get?, SymbolTable.entries_ofList (nodup_kept table), get?_kept]

theorem agree_ofList_kept_iff {table : SymbolTable} :
    (SymbolTable.ofList (kept table)).Agree table ↔ Shape.reservedName ∉ table.ids := by
  rw [← SymbolTable.get?_eq_none_iff]
  constructor
  · intro h
    rw [← h, get?_ofList_kept, if_pos rfl]
  · intro h id
    rw [get?_ofList_kept]
    split
    · next hid => rw [hid, h]
    · rfl

/-- A baseline is decoded, and gives back the target, the time, and every symbol but one with
the reserved name: all symbols, if and only if there is none with that name. -/
theorem decode_encode_of_snapshot (s : Snapshot) (source : Text) :
    ∃ t, decode (Utf8.decode (encode s)) source = .ok t
      ∧ t.target = s.target ∧ t.createdAt = s.createdAt
      ∧ (∀ id, t.symbols.get? id
          = if id = Shape.reservedName then none else s.symbols.get? id)
      ∧ ((∀ id, t.symbols.get? id = s.symbols.get? id)
          ↔ Shape.reservedName ∉ s.symbols.ids) :=
  ⟨_, decode_decode_encode s source, rfl, rfl, get?_ofList_kept s.symbols, agree_ofList_kept_iff⟩

/-- A symbol with the reserved name is stored, and not there when the baseline is decoded. -/
theorem decode_encode_loses_reserved :
    let s : Snapshot := ⟨"Mod", "2024-01-01T00:00:00.000Z",
      SymbolTable.ofList [("__proto__", "var x: Int")]⟩
    ¬ ∃ t, decode (Utf8.decode (encode s)) "baseline" = .ok t
      ∧ ∀ id, t.symbols.get? id = s.symbols.get? id := by
  intro s
  rintro ⟨t, ht, hall⟩
  rw [decode_decode_encode, Except.ok.injEq] at ht
  have hlost := hall Shape.reservedName
  rw [← ht, get?_ofList_kept, if_pos rfl] at hlost
  have hstored : s.symbols.get? Shape.reservedName = some "var x: Int" := by decide
  rw [hstored] at hlost
  cases hlost

end Baseline

end SurfaceGuard
