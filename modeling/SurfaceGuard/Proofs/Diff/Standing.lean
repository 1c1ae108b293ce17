import SurfaceGuard.Proofs.Diff

/-!
# Where identifiers stand

A diff tells the identifiers of two tables apart by their signatures in them, whatever these are;
an empty signature is one as well.  Every identifier of either table stands in exactly one of four
ways (`Diff.Stands`), and in each list of the diff it stands at one place, in ascending order
(`Diff.between_classifies`).

What the lists hold is said for the two lists that they are sorted from, `onlyIn` and `differing`;
the exchange of old and new exchanges the two uses of `onlyIn`.
-/

namespace SurfaceGuard

/-! ## Ascending lists -/

namespace Text

/-- The order by code unit is the lexicographic one. -/
theorem lt_iff {s t : Text} : s < t ↔ le s t = true ∧ s ≠ t := by
  induction s generalizing t with
  | nil => cases t <;> simp [le]
  | cons u s ih =>
    cases t with
    | nil => simp [le]
    | cons v t =>
      rw [List.cons_lt_cons_iff, le_cons_iff, ih, UInt16.lt_iff_toNat_lt]
      constructor
      · rintro (huv | ⟨rfl, hle, hne⟩)
        · refine ⟨Or.inl huv, ?_⟩
          rintro ⟨⟩
          exact Nat.lt_irrefl _ huv
        · exact ⟨Or.inr ⟨rfl, hle⟩, fun h => hne (List.cons.inj h).2⟩
      · rintro ⟨huv | ⟨rfl, hle⟩, hne⟩
        · exact Or.inl huv
        · exact Or.inr ⟨rfl, hle, fun h => hne (congrArg _ h)⟩

theorem mem_sort {t : Text} {l : List Text} : t ∈ sort l ↔ t ∈ l := (sort_perm l).mem_iff

/-- Different texts are sorted in strictly ascending order. -/
theorem sort_ascending {l : List Text} (h : l.Nodup) : (sort l).Pairwise (· < ·) := by
  have hne : (sort l).Nodup := (sort_perm l).nodup_iff.2 h
  exact ((sort_pairwise l).and hne).imp fun hst => lt_iff.2 hst

end Text

/-! ## What is in the lists -/

namespace SymbolTable

theorem nodup_ids (table : SymbolTable) : table.ids.Nodup := table.distinct

theorem contains_eq_false_iff {table : SymbolTable} {id : Text} :
    table.contains id = false ↔ table.get? id = none := by
  rw [contains, Option.isSome_eq_false_iff, Option.isNone_iff_eq_none]

end SymbolTable

namespace Diff

open SymbolTable

variable {a b : SymbolTable} {id : Text}

theorem mem_onlyIn_iff : id ∈ onlyIn a b ↔ (∃ v, a.get? id = some v) ∧ b.get? id = none := by
  rw [onlyIn, List.mem_filter, ← contains_iff_mem_ids, contains_iff, Bool.not_eq_true',
    contains_eq_false_iff]

theorem mem_differing_iff :
    id ∈ differing a b ↔ ∃ v w, a.get? id = some v ∧ b.get? id = some w ∧ v ≠ w := by
  rw [differing, List.mem_map]
  constructor
  · rintro ⟨⟨k, v⟩, hmem, rfl⟩
    obtain ⟨hentry, hdiffers⟩ := List.mem_filter.1 hmem
    obtain ⟨w, hw, hne⟩ := (Option.any_eq_true _ _).1 hdiffers
    exact ⟨v, w, get?_eq_some_iff.2 hentry, hw, (bne_iff_ne.1 hne).symm⟩
  · rintro ⟨v, w, hv, hw, hne⟩
    refine ⟨(id, v), List.mem_filter.2 ⟨get?_eq_some_iff.1 hv, ?_⟩, rfl⟩
    rw [hw, Option.any_some, bne_iff_ne]
    exact hne.symm

theorem nodup_onlyIn (a b : SymbolTable) : (onlyIn a b).Nodup := a.nodup_ids.filter _

theorem nodup_differing (a b : SymbolTable) : (differing a b).Nodup :=
  a.nodup_ids.sublist (List.filter_sublist.map Prod.fst)

/-- What differs does so in both directions. -/
theorem sort_differing_comm (a b : SymbolTable) :
    Text.sort (differing a b) = Text.sort (differing b a) := by
  refine Text.sort_eq_sort ?_
  refine (List.perm_ext_iff_of_nodup (nodup_differing a b) (nodup_differing b a)).2 fun id => ?_
  rw [mem_differing_iff, mem_differing_iff]
  constructor
  · rintro ⟨v, w, hv, hw, hne⟩
    exact ⟨w, v, hw, hv, hne.symm⟩
  · rintro ⟨w, v, hw, hv, hne⟩
    exact ⟨v, w, hv, hw, hne.symm⟩

section Between

variable {old new : Snapshot}

theorem mem_removed_iff : id ∈ (between old new).removed ↔
    (∃ v, old.symbols.get? id = some v) ∧ new.symbols.get? id = none :=
  Text.mem_sort.trans mem_onlyIn_iff

theorem mem_added_iff : id ∈ (between old new).added ↔
    (∃ w, new.symbols.get? id = some w) ∧ old.symbols.get? id = none :=
  Text.mem_sort.trans mem_onlyIn_iff

theorem mem_changed_iff : id ∈ (between old new).changed ↔
    ∃ v w, old.symbols.get? id = some v ∧ new.symbols.get? id = some w ∧ v ≠ w :=
  Text.mem_sort.trans mem_differing_iff

theorem isEmpty_iff (d : Diff) :
    d.isEmpty = true ↔ d.added = [] ∧ d.removed = [] ∧ d.changed = [] := by
  rw [isEmpty, Bool.and_eq_true, Bool.and_eq_true, List.isEmpty_iff, List.isEmpty_iff,
    List.isEmpty_iff, and_assoc]

/-- Nothing differs exactly if the tables agree. -/
theorem isEmpty_between_iff :
    (between old new).isEmpty = true ↔ old.symbols.Agree new.symbols := by
  have hadded : (between old new).added = [] ↔
      ∀ id, new.symbols.contains id = true → old.symbols.contains id = true :=
    Text.sort_eq_nil_iff.trans onlyIn_eq_nil_iff
  have hrest : (between old new).removed = [] ∧ (between old new).changed = [] ↔
      old.symbols.Within new.symbols := by
    rw [within_iff, ← @Text.sort_eq_nil_iff (onlyIn _ _), ← @Text.sort_eq_nil_iff (differing _ _)]
    rfl
  rw [isEmpty_iff, hadded, hrest, SymbolTable.agree_iff, and_comm]

/-! ## The four ways to stand -/

/-- How an identifier of two tables can stand in them. -/
inductive Standing where
  | removed
  | added
  | changed
  | kept
  deriving DecidableEq, Repr

/-- The identifier is in the list of its standing and in no other one, and its signatures in the two
tables are as that standing has them. -/
def Stands (d : Diff) (a b : SymbolTable) (id : Text) : Standing → Prop
  | .removed => (id ∈ d.removed ∧ id ∉ d.added ∧ id ∉ d.changed)
      ∧ (∃ v, a.get? id = some v) ∧ b.get? id = none
  | .added => (id ∉ d.removed ∧ id ∈ d.added ∧ id ∉ d.changed)
      ∧ a.get? id = none ∧ ∃ w, b.get? id = some w
  | .changed => (id ∉ d.removed ∧ id ∉ d.added ∧ id ∈ d.changed)
      ∧ ∃ v w, a.get? id = some v ∧ b.get? id = some w ∧ v ≠ w
  | .kept => (id ∉ d.removed ∧ id ∉ d.added ∧ id ∉ d.changed)
      ∧ ∃ v, a.get? id = some v ∧ b.get? id = some v

/-- The standing that goes with the signatures of an identifier, if it has any. -/
def standing? : Option Text → Option Text → Option Standing
  | none, none => none
  | some _, none => some .removed
  | none, some _ => some .added
  | some v, some w => some (if v = w then .kept else .changed)

/-- The lists of a diff say of each identifier how it stands. -/
theorem stands_iff {s : Standing} :
    (between old new).Stands old.symbols new.symbols id s
      ↔ standing? (old.symbols.get? id) (new.symbols.get? id) = some s := by
  cases s <;> rw [Stands, mem_removed_iff, mem_added_iff, mem_changed_iff] <;>
    cases old.symbols.get? id <;> cases new.symbols.get? id <;> simp [standing?] <;> grind

end Between

/-- A diff classifies exactly.  Every identifier of either table stands in exactly one way, and no
other one is in any list; each list is strictly ascending.  A diff depends on the tables and the new
target alone.  The exchange of the snapshots exchanges what is added and what is removed, and leaves
what is changed.  Nothing differs if and only if the tables agree. -/
theorem between_classifies (old new : Snapshot) :
    (∀ id, old.symbols.contains id = true ∨ new.symbols.contains id = true →
      ∃! s, (between old new).Stands old.symbols new.symbols id s)
    ∧ (∀ id, ¬(old.symbols.contains id = true ∨ new.symbols.contains id = true) →
      id ∉ (between old new).removed ∧ id ∉ (between old new).added
        ∧ id ∉ (between old new).changed)
    ∧ ((between old new).removed.Pairwise (· < ·) ∧ (between old new).added.Pairwise (· < ·)
      ∧ (between old new).changed.Pairwise (· < ·))
    ∧ (∀ old' new' : Snapshot, old'.symbols.Agree old.symbols → new'.symbols.Agree new.symbols →
      new'.target = new.target → between old' new' = between old new)
    ∧ ((between new old).added = (between old new).removed
      ∧ (between new old).removed = (between old new).added
      ∧ (between new old).changed = (between old new).changed)
    ∧ ((between old new).isEmpty = true ↔ old.symbols.Agree new.symbols) := by
  refine ⟨fun id hid => ?_, fun id hid => ?_, ⟨?_, ?_, ?_⟩,
    fun old' new' hold hnew htarget => between_congr htarget hold hnew,
    ⟨rfl, rfl, sort_differing_comm _ _⟩, isEmpty_between_iff⟩
  · have hsome : ∃ s, standing? (old.symbols.get? id) (new.symbols.get? id) = some s := by
      rw [SymbolTable.contains_iff, SymbolTable.contains_iff] at hid
      rcases hid with ⟨v, hv⟩ | ⟨w, hw⟩
      · rw [hv]
        cases new.symbols.get? id <;> exact ⟨_, rfl⟩
      · rw [hw]
        cases old.symbols.get? id <;> exact ⟨_, rfl⟩
    obtain ⟨s, hs⟩ := hsome
    refine ⟨s, stands_iff.2 hs, fun s' hs' => ?_⟩
    exact Option.some.inj ((stands_iff.1 hs').symm.trans hs)
  · rw [not_or, Bool.not_eq_true, Bool.not_eq_true, contains_eq_false_iff,
      contains_eq_false_iff] at hid
    obtain ⟨hold, hnew⟩ := hid
    rw [mem_removed_iff, mem_added_iff, mem_changed_iff, hold, hnew]
    simp
  · exact Text.sort_ascending (nodup_onlyIn _ _)
  · exact Text.sort_ascending (nodup_onlyIn _ _)
  · exact Text.sort_ascending (nodup_differing _ _)

/-- An empty signature is one that changes, and one that can be removed. -/
theorem between_classifies_empty_signatures :
    let old : Snapshot := ⟨"M", "t", .ofList [("s:a", []), ("s:b", []), ("s:c", "func c")]⟩
    let new : Snapshot := ⟨"M", "t'", .ofList [("s:c", "func c"), ("s:b", "func b"), ("s:", [])]⟩
    between old new = ⟨"M", ["s:"], ["s:a"], ["s:b"]⟩
      ∧ (∃! s, (between old new).Stands old.symbols new.symbols "s:b" s)
      ∧ (between old new).Stands old.symbols new.symbols "s:b" .changed := by
  intro old new
  obtain ⟨hunique, -⟩ := between_classifies old new
  exact ⟨by decide +kernel, hunique "s:b" (Or.inl (by decide)), stands_iff.2 (by decide)⟩

end Diff

end SurfaceGuard
