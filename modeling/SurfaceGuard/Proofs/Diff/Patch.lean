import SurfaceGuard.Proofs.Diff.Standing

/-!
# Diffs as patches

A diff with the changes of its signatures is a patch: what it removes is deleted from the old
table, what it changes is replaced, and what it adds is taken over from the new one, and this is
the new table (`Diff.agree_patch`).  The changes alone, read the other way, are those of the diff
from new to old, so they lead back as well (`Diff.changes_patch`).
-/

namespace SurfaceGuard

/-! ## Edits of tables -/

namespace SymbolTable

variable {table : SymbolTable} {id : Text}

/-- The table without some identifiers. -/
def without (table : SymbolTable) (ids : List Text) : SymbolTable :=
  ⟨table.entries.filter fun e => e.1 ∉ ids,
    table.distinct.sublist (List.filter_sublist.map Prod.fst)⟩

/-- The table with another signature of an identifier, if it has that. -/
def replace (table : SymbolTable) (id signature : Text) : SymbolTable :=
  if table.contains id then table.insert id signature else table

/-- The table with the signatures that some identifiers have elsewhere. -/
def takeOver (table source : SymbolTable) (ids : List Text) : SymbolTable :=
  ids.foldl (fun table id => (source.get? id).elim table (table.insert id)) table

theorem get?_without (table : SymbolTable) (ids : List Text) (id : Text) :
    (table.without ids).get? id = if id ∈ ids then none else table.get? id := by
  have hfilter := Members.get?_filter (fun k => k ∉ ids) id table.entries
  rw [get?, get?, without, hfilter]
  simp

theorem get?_replace (table : SymbolTable) (k signature id : Text) :
    (table.replace k signature).get? id
      = if k = id then (table.get? id).map fun _ => signature else table.get? id := by
  rw [replace]
  split
  · next hk =>
    obtain ⟨old, hold⟩ := contains_iff.1 hk
    rw [get?_insert]
    split
    · next heq =>
      rw [← heq, hold]
      rfl
    · rfl
  · next hk =>
    rw [Bool.not_eq_true, contains_eq_false_iff] at hk
    split
    · next heq =>
      rw [← heq, hk]
      rfl
    · rfl

theorem get?_takeOver (table source : SymbolTable) (ids : List Text) (id : Text) :
    (table.takeOver source ids).get? id
      = if id ∈ ids then (source.get? id).or (table.get? id) else table.get? id := by
  rw [takeOver]
  induction ids generalizing table with
  | nil => rfl
  | cons k ids ih =>
    rw [List.foldl_cons, ih]
    cases hk : source.get? k with
    | none =>
      by_cases heq : id = k
      · subst heq
        simp [hk]
      · simp [heq]
    | some signature =>
      rw [Option.elim_some, get?_insert]
      by_cases heq : id = k
      · subst heq
        simp [hk]
      · simp [heq, Ne.symm heq]

/-- Changes that agree on the new signature of an identifier give it that signature. -/
theorem get?_foldl_replace (signature : Text → Text) {changes : List SignatureChange}
    (h : ∀ c ∈ changes, c.after = signature c.identifier) (table : SymbolTable) (id : Text) :
    (changes.foldl (fun table c => table.replace c.identifier c.after) table).get? id
      = if id ∈ changes.map SignatureChange.identifier
        then (table.get? id).map fun _ => signature id else table.get? id := by
  induction changes generalizing table with
  | nil => rfl
  | cons c changes ih =>
    obtain ⟨hc, hchanges⟩ := List.forall_mem_cons.1 h
    rw [List.foldl_cons, ih hchanges, get?_replace, hc]
    by_cases heq : id = c.identifier
    · subst heq
      cases table.get? c.identifier <;> simp
    · simp [heq, Ne.symm heq]

end SymbolTable

/-- The change back. -/
def SignatureChange.reversed (c : SignatureChange) : SignatureChange :=
  ⟨c.identifier, c.after, c.before⟩

namespace Diff

variable (old new : Snapshot)

/-! ## The changes of a diff -/

theorem identifiers_changes (d : Diff) :
    (d.changes old new).map SignatureChange.identifier = d.changed := by
  rw [changes, List.map_map]
  exact List.map_id _

/-- A change has the signatures of its identifier, and they are not the same. -/
theorem change_between {c : SignatureChange} (h : c ∈ (between old new).changes old new) :
    old.symbols.get? c.identifier = some c.before
      ∧ new.symbols.get? c.identifier = some c.after ∧ c.before ≠ c.after := by
  obtain ⟨id, hid, rfl⟩ := List.mem_map.1 h
  obtain ⟨v, w, hv, hw, hne⟩ := mem_changed_iff.1 hid
  rw [hv, hw]
  exact ⟨rfl, rfl, hne⟩

/-- The changes back are those of the diff from new to old. -/
theorem reversed_changes :
    ((between old new).changes old new).map SignatureChange.reversed
      = (between new old).changes new old := by
  have hchanged : (between old new).changed = (between new old).changed := sort_differing_comm _ _
  rw [changes, changes, List.map_map, hchanged]
  rfl

/-! ## The patch -/

/-- A table with what the diff removes deleted, the changed signatures replaced, and what the diff
adds taken over from another table. -/
def patch (d : Diff) (changes : List SignatureChange) (source table : SymbolTable) : SymbolTable :=
  (changes.foldl (fun table c => table.replace c.identifier c.after)
    (table.without d.removed)).takeOver source d.added

/-- The patch makes the new table of the old one. -/
theorem agree_patch :
    ((between old new).patch ((between old new).changes old new) new.symbols old.symbols).Agree
      new.symbols := by
  let signature (id : Text) : Text := (new.symbols.get? id).getD []
  have hafter : ∀ c ∈ (between old new).changes old new, c.after = signature c.identifier := by
    intro c hc
    simp only [signature, (change_between old new hc).2.1]
    rfl
  intro id
  rw [patch, SymbolTable.get?_takeOver, SymbolTable.get?_foldl_replace signature hafter,
    SymbolTable.get?_without, identifiers_changes]
  classical
  simp only [mem_removed_iff, mem_added_iff, mem_changed_iff]
  cases old.symbols.get? id with
  | none => cases new.symbols.get? id <;> simp
  | some v =>
    cases hnew : new.symbols.get? id with
    | none => simp
    | some w => by_cases hvw : v = w <;> simp [hvw, signature, hnew]

/-- A diff with its changes is a complete patch.  There is one change for each changed identifier,
in the same order, with its old and its new signature, which differ.  The patch makes the new
table of the old one, and the changes back make the old table of the new one together with the
diff from new to old. -/
theorem changes_patch (old new : Snapshot) :
    let d := between old new
    let changes := d.changes old new
    changes.map SignatureChange.identifier = d.changed
      ∧ (∀ c ∈ changes, old.symbols.get? c.identifier = some c.before
        ∧ new.symbols.get? c.identifier = some c.after ∧ c.before ≠ c.after)
      ∧ (d.patch changes new.symbols old.symbols).Agree new.symbols
      ∧ ((between new old).patch (changes.map SignatureChange.reversed) old.symbols
          new.symbols).Agree old.symbols := by
  intro d changes
  refine ⟨identifiers_changes old new d, fun c hc => change_between old new hc,
    agree_patch old new, ?_⟩
  rw [reversed_changes]
  exact agree_patch new old

/-- A signature that becomes empty is replaced by the empty one, and back. -/
theorem changes_patch_emptied :
    let old : Snapshot := ⟨"M", "t", .ofList [("s:a", "func a"), ("s:b", "func b")]⟩
    let new : Snapshot := ⟨"M", "t", .ofList [("s:c", "func c"), ("s:b", [])]⟩
    let emptied : SignatureChange := ⟨"s:b", "func b", []⟩
    (between old new).changes old new = [emptied]
      ∧ ((between old new).patch [emptied] new.symbols old.symbols).Agree new.symbols
      ∧ ((between new old).patch [emptied.reversed] old.symbols new.symbols).Agree old.symbols := by
  intro old new emptied
  have hchanges : (between old new).changes old new = [emptied] := by decide +kernel
  obtain ⟨-, -, hforth, hback⟩ := changes_patch old new
  rw [hchanges] at hforth hback
  exact ⟨hchanges, hforth, hback⟩

end Diff

end SurfaceGuard
