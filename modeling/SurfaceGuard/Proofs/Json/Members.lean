import SurfaceGuard.Json.Basic
import SurfaceGuard.Proofs.Text.Order

/-!
# Members as finite maps

The members of an object, and the entries of a table, are lists of pairs with distinct
names.  What counts is the value of each name, `Members.get?`: two such lists with the
same values are arrangements of each other (`perm_of_get?_eq`), and sorting by name gives
them one common form (`sort_eq_sort`).
-/

namespace SurfaceGuard.Members

variable {α β : Type}

/-- The names of a list of members. -/
def names (ms : List (Text × α)) : List Text := ms.map Prod.fst

/-! ## Look-up -/

@[simp]
theorem get?_nil (name : Text) : get? name ([] : List (Text × α)) = none := rfl

theorem get?_cons (name k : Text) (v : α) (ms : List (Text × α)) :
    get? name ((k, v) :: ms) = if k = name then some v else get? name ms := by
  by_cases h : k = name
  · subst h
    simp [get?]
  · rw [if_neg h, get?, List.lookup_cons, beq_false_of_ne (Ne.symm h)]
    rfl

theorem get?_eq_none_iff {name : Text} {ms : List (Text × α)} :
    get? name ms = none ↔ name ∉ names ms := by
  induction ms with
  | nil => simp [names]
  | cons m ms ih =>
    obtain ⟨k, v⟩ := m
    by_cases h : k = name
    · simp [get?_cons, names, h]
    · rw [get?_cons, if_neg h, ih]
      simp [names, Ne.symm h]

theorem mem_of_get? {name : Text} {v : α} {ms : List (Text × α)} (h : get? name ms = some v) :
    (name, v) ∈ ms := by
  induction ms with
  | nil => simp at h
  | cons m ms ih =>
    obtain ⟨k, w⟩ := m
    rw [get?_cons] at h
    by_cases hk : k = name
    · rw [if_pos hk, Option.some.injEq] at h
      subst hk h
      exact List.mem_cons_self
    · rw [if_neg hk] at h
      exact List.mem_cons_of_mem _ (ih h)

theorem get?_of_mem {name : Text} {v : α} {ms : List (Text × α)} (hd : (names ms).Nodup)
    (h : (name, v) ∈ ms) : get? name ms = some v := by
  induction ms with
  | nil => simp at h
  | cons m ms ih =>
    obtain ⟨k, w⟩ := m
    rw [names, List.map_cons, List.nodup_cons] at hd
    rcases List.mem_cons.1 h with h | h
    · cases h
      rw [get?_cons, if_pos rfl]
    · have hk : k ≠ name := by
        rintro rfl
        exact hd.1 (List.mem_map.2 ⟨(k, v), h, rfl⟩)
      rw [get?_cons, if_neg hk, ih hd.2 h]

theorem get?_eq_some_iff {name : Text} {v : α} {ms : List (Text × α)} (hd : (names ms).Nodup) :
    get? name ms = some v ↔ (name, v) ∈ ms :=
  ⟨mem_of_get?, get?_of_mem hd⟩

theorem get?_map (f : α → β) (name : Text) (ms : List (Text × α)) :
    get? name (ms.map fun m => (m.1, f m.2)) = (get? name ms).map f := by
  induction ms with
  | nil => rfl
  | cons m ms ih =>
    obtain ⟨k, v⟩ := m
    rw [List.map_cons, get?_cons, get?_cons, ih]
    by_cases h : k = name <;> simp [h]

theorem get?_filter (p : Text → Bool) (name : Text) (ms : List (Text × α)) :
    get? name (ms.filter fun m => p m.1) = if p name then get? name ms else none := by
  induction ms with
  | nil => simp
  | cons m ms ih =>
    obtain ⟨k, v⟩ := m
    by_cases hk : k = name
    · subst hk
      by_cases hp : p k <;> simp [hp, get?_cons, ih]
    · by_cases hp : p k <;> simp [hp, get?_cons, hk, ih]

theorem names_map (f : α → β) (ms : List (Text × α)) :
    names (ms.map fun m => (m.1, f m.2)) = names ms := by
  rw [names, names, List.map_map]
  rfl

/-! ## Setting a name -/

theorem get?_insert (name k : Text) (v : α) (ms : List (Text × α)) :
    get? name (insert k v ms) = if k = name then some v else get? name ms := by
  induction ms with
  | nil => rw [insert, get?_cons]
  | cons m ms ih =>
    obtain ⟨k', w⟩ := m
    by_cases h : k' = k
    · subst h
      rw [insert, if_pos rfl, get?_cons, get?_cons]
      by_cases hk : k' = name <;> simp [hk]
    · rw [insert, if_neg h, get?_cons, get?_cons, ih]
      by_cases hk : k' = name
      · subst hk
        rw [if_pos rfl, if_neg (Ne.symm h), if_pos rfl]
      · rw [if_neg hk, if_neg hk]

theorem insert_of_not_mem {k : Text} {v : α} {ms : List (Text × α)} (h : k ∉ names ms) :
    insert k v ms = ms ++ [(k, v)] := by
  induction ms with
  | nil => rfl
  | cons m ms ih =>
    obtain ⟨k', w⟩ := m
    rw [names, List.map_cons, List.mem_cons, not_or] at h
    rw [insert, if_neg (Ne.symm h.1), ih h.2, List.cons_append]

theorem foldl_insert {ms ns : List (Text × α)} (hd : (names (ms ++ ns)).Nodup) :
    ns.foldl (fun members p => insert p.1 p.2 members) ms = ms ++ ns := by
  induction ns generalizing ms with
  | nil => simp
  | cons n ns ih =>
    obtain ⟨k, v⟩ := n
    have hk : k ∉ names ms := by
      rw [names, List.map_append, List.nodup_append] at hd
      intro hc
      exact hd.2.2 k hc k (by simp) rfl
    rw [List.foldl_cons, insert_of_not_mem hk, ih (by simpa using hd), List.append_assoc,
      List.singleton_append]

/-- Distinct names stay as they are written. -/
theorem ofPairs_of_nodup {ms : List (Text × α)} (hd : (names ms).Nodup) : ofPairs ms = ms := by
  rw [ofPairs, foldl_insert (by simpa using hd), List.nil_append]

/-! ## Arrangements -/

theorem nodup_names_of_perm {ms ns : List (Text × α)} (h : ms.Perm ns) :
    (names ms).Nodup ↔ (names ns).Nodup :=
  (h.map Prod.fst).nodup_iff

theorem get?_of_perm {ms ns : List (Text × α)} (h : ms.Perm ns) (hd : (names ms).Nodup)
    (name : Text) : get? name ms = get? name ns := by
  apply Option.ext
  intro v
  rw [get?_eq_some_iff hd, get?_eq_some_iff ((nodup_names_of_perm h).1 hd)]
  exact h.mem_iff

/-- Distinct names with the same values are the same members in some order. -/
theorem perm_of_get?_eq {ms ns : List (Text × α)} (hm : (names ms).Nodup) (hn : (names ns).Nodup)
    (h : ∀ name, get? name ms = get? name ns) : ms.Perm ns := by
  refine (List.perm_ext_iff_of_nodup (List.Nodup.of_map _ hm) (List.Nodup.of_map _ hn)).2 ?_
  rintro ⟨name, v⟩
  rw [← get?_eq_some_iff hm, ← get?_eq_some_iff hn, h name]

theorem sort_perm (ms : List (Text × α)) : (sort ms).Perm ms := List.mergeSort_perm ms _

theorem nodup_names_sort {ms : List (Text × α)} (hd : (names ms).Nodup) :
    (names (sort ms)).Nodup :=
  (nodup_names_of_perm (sort_perm ms)).2 hd

theorem get?_sort {ms : List (Text × α)} (hd : (names ms).Nodup) (name : Text) :
    get? name (sort ms) = get? name ms :=
  get?_of_perm (sort_perm ms) (nodup_names_sort hd) name

theorem sort_pairwise (ms : List (Text × α)) :
    (sort ms).Pairwise fun m n => Text.le m.1 n.1 = true :=
  @List.pairwise_mergeSort _ (fun m n => Text.le m.1 n.1) (fun _ _ _ => Text.le_trans)
    (fun m n => Bool.or_eq_true_iff.2 (Text.le_total m.1 n.1)) ms

/-- Sorting by name gives arrangements of the same members one common form. -/
theorem sort_eq_sort {ms ns : List (Text × α)} (hm : (names ms).Nodup) (hn : (names ns).Nodup)
    (h : ∀ name, get? name ms = get? name ns) : sort ms = sort ns := by
  have hp : ms.Perm ns := perm_of_get?_eq hm hn h
  refine List.Perm.eq_of_pairwise ?_ (sort_pairwise ms) (sort_pairwise ns)
    (((sort_perm ms).trans hp).trans (sort_perm ns).symm)
  rintro ⟨k, v⟩ ⟨k', w⟩ hv hw hle hge
  have hk : k = k' := Text.le_antisymm hle hge
  subst hk
  have hv' := get?_of_mem (nodup_names_sort hm) hv
  have hw' := get?_of_mem (nodup_names_sort hn) hw
  rw [get?_sort hm, h, ← get?_sort hn, hw', Option.some.injEq] at hv'
  rw [hv']

theorem sort_eq_of_pairwise {ms ns : List (Text × α)} (hp : ms.Perm ns) (hd : (names ms).Nodup)
    (h : ns.Pairwise fun m n => Text.le m.1 n.1 = true) : sort ms = ns := by
  rw [sort_eq_sort hd ((nodup_names_of_perm hp).1 hd) (get?_of_perm hp hd)]
  exact List.mergeSort_of_pairwise h

theorem sort_map (f : α → β) (ms : List (Text × α)) :
    (sort ms).map (fun m => (m.1, f m.2)) = sort (ms.map fun m => (m.1, f m.2)) :=
  List.map_mergeSort fun _ _ _ _ => rfl

/-- Enumeration only rearranges the members. -/
theorem enumerated_perm (ms : List (Text × α)) : (enumerated ms).Perm ms := by
  have hnone : (fun m : Text × α => (index? m.1).isNone) = fun m => !(index? m.1).isSome := by
    funext m
    cases index? m.1 <;> rfl
  rw [enumerated, hnone]
  exact ((List.mergeSort_perm _ _).append_right _).trans (List.filter_append_perm _ ms)

theorem enumerated_map (f : α → β) (ms : List (Text × α)) :
    enumerated (ms.map fun m => (m.1, f m.2)) = (enumerated ms).map fun m => (m.1, f m.2) := by
  rw [enumerated, enumerated, List.filter_map, List.filter_map, List.map_append,
    List.map_mergeSort]
  · rfl
  · intro _ _ _ _
    rfl

end SurfaceGuard.Members
