import SurfaceGuard.Policy
import SurfaceGuard.Proofs.Snapshot

/-!
# What a diff depends on

A diff depends on the signatures of identifiers only, and not on the order in which tables
hold them (`Diff.between_congr`): its lists are sorted.  It has no removals and no changes
if and only if every symbol of the old table is in the new one with the same signature.
-/

namespace SurfaceGuard

namespace Diff

open SymbolTable

/-! ## Equal diffs -/

theorem sort_onlyIn_congr {a a' b b' : SymbolTable} (ha : a.Agree a') (hb : b.Agree b') :
    Text.sort (onlyIn a b) = Text.sort (onlyIn a' b') := by
  have hp : (fun id => !b.contains id) = fun id => !b'.contains id :=
    funext fun id => by rw [hb.contains_eq]
  rw [onlyIn, onlyIn, hp]
  exact Text.sort_eq_sort ((ha.perm.map Prod.fst).filter _)

theorem sort_differing_congr {a a' b b' : SymbolTable} (ha : a.Agree a') (hb : b.Agree b') :
    Text.sort (differing a b) = Text.sort (differing a' b') := by
  have hp : (fun e : Text × Text => (b.get? e.1).any (· != e.2))
      = fun e => (b'.get? e.1).any (· != e.2) :=
    funext fun e => by rw [hb e.1]
  rw [differing, differing, hp]
  exact Text.sort_eq_sort ((ha.perm.filter _).map Prod.fst)

/-- Only the target of the new snapshot and the signatures in the two tables count. -/
theorem between_congr {old old' new new' : Snapshot} (ht : new.target = new'.target)
    (ho : old.symbols.Agree old'.symbols) (hn : new.symbols.Agree new'.symbols) :
    between old new = between old' new' := by
  rw [between, between, ht, sort_onlyIn_congr hn ho, sort_onlyIn_congr ho hn,
    sort_differing_congr ho hn]

/-! ## Empty lists -/

theorem onlyIn_eq_nil_iff {a b : SymbolTable} :
    onlyIn a b = [] ↔ ∀ id, a.contains id = true → b.contains id = true := by
  rw [onlyIn, List.filter_eq_nil_iff]
  simp only [contains_iff_mem_ids, Bool.not_eq_true', Bool.not_eq_false]

theorem differing_eq_nil_iff {a b : SymbolTable} :
    differing a b = [] ↔ ∀ id v w, a.get? id = some v → b.get? id = some w → v = w := by
  rw [differing, List.map_eq_nil_iff, List.filter_eq_nil_iff]
  constructor
  · intro h id v w hv hw
    have hne := h (id, v) (get?_eq_some_iff.1 hv)
    rw [hw, Option.any_some, bne_iff_ne, not_not] at hne
    exact hne.symm
  · rintro h ⟨id, v⟩ hmem
    have hv := get?_eq_some_iff.2 hmem
    cases hw : b.get? id with
    | none => simp
    | some w => simp [h id v w hv hw]

/-- Nothing is removed or changed exactly if the old table is within the new one. -/
theorem within_iff {a b : SymbolTable} : a.Within b ↔ onlyIn a b = [] ∧ differing a b = [] := by
  rw [onlyIn_eq_nil_iff, differing_eq_nil_iff]
  constructor
  · intro h
    refine ⟨fun id ha => ?_, fun id v w hv hw => ?_⟩
    · obtain ⟨v, hv⟩ := contains_iff.1 ha
      exact contains_iff.2 ⟨v, h id v hv⟩
    · rw [h id v hv] at hw
      exact Option.some.inj hw
  · rintro ⟨hc, hs⟩ id v hv
    obtain ⟨w, hw⟩ := contains_iff.1 (hc id (contains_iff.2 ⟨v, hv⟩))
    rw [hw, hs id v w hv hw]

end Diff

end SurfaceGuard
