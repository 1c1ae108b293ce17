import SurfaceGuard.Proofs.Json.Members
import SurfaceGuard.Snapshot

/-!
# What a snapshot holds

The table of a graph has, for each identifier, the signature of the last visible symbol
with that identifier (`Graph.get?_table`).  The induction is on the symbols from the last
one back, as the last one decides.
-/

namespace SurfaceGuard

namespace SymbolTable

/-! ## Look-up -/

theorem nodup (table : SymbolTable) : (Members.names table.toList).Nodup := table.distinct

theorem entries_foldl_insert (pairs : List (Text × Text)) (table : SymbolTable) :
    (pairs.foldl (fun table p => table.insert p.1 p.2) table).entries
      = pairs.foldl (fun ms p => Members.insert p.1 p.2 ms) table.entries := by
  induction pairs generalizing table with
  | nil => rfl
  | cons p ps ih =>
    rw [List.foldl_cons, List.foldl_cons, ih]
    rfl

/-- Pairs with distinct names are the entries of their table. -/
theorem entries_ofList {pairs : List (Text × Text)} (hd : (Members.names pairs).Nodup) :
    (ofList pairs).entries = pairs := by
  rw [ofList, entries_foldl_insert]
  exact Members.ofPairs_of_nodup hd

theorem get?_insert (table : SymbolTable) (id k signature : Text) :
    (table.insert k signature).get? id = if k = id then some signature else table.get? id :=
  Members.get?_insert id k signature table.entries

theorem get?_eq_none_iff {table : SymbolTable} {id : Text} :
    table.get? id = none ↔ id ∉ table.ids :=
  Members.get?_eq_none_iff

theorem contains_iff {table : SymbolTable} {id : Text} :
    table.contains id = true ↔ ∃ signature, table.get? id = some signature :=
  Option.isSome_iff_exists

theorem contains_iff_mem_ids {table : SymbolTable} {id : Text} :
    table.contains id = true ↔ id ∈ table.ids := by
  rw [contains, Option.isSome_iff_ne_none, Ne, get?_eq_none_iff, not_not]

theorem get?_eq_some_iff {table : SymbolTable} {id signature : Text} :
    table.get? id = some signature ↔ (id, signature) ∈ table.toList :=
  Members.get?_eq_some_iff table.distinct

/-! ## Identifiers -/

theorem length_ids (table : SymbolTable) : table.ids.length = table.size := List.length_map _

theorem ids_insert (table : SymbolTable) (id signature : Text) :
    (table.insert id signature).ids = if id ∈ table.ids then table.ids else table.ids ++ [id] :=
  Members.keys_insert id signature table.entries

theorem mem_ids_insert {table : SymbolTable} {id k signature : Text} :
    id ∈ (table.insert k signature).ids ↔ id = k ∨ id ∈ table.ids := by
  rw [ids_insert]
  split
  · next hk => exact (or_iff_right_of_imp fun h => h ▸ hk).symm
  · rw [List.mem_append, List.mem_singleton, or_comm]

/-- The identifiers of a table that is made of pairs are the names of the pairs. -/
theorem mem_ids_ofList {pairs : List (Text × Text)} {id : Text} :
    id ∈ (ofList pairs).ids ↔ id ∈ Members.names pairs := by
  suffices h : ∀ table : SymbolTable,
      id ∈ (pairs.foldl (fun table p => table.insert p.1 p.2) table).ids
        ↔ id ∈ Members.names pairs ∨ id ∈ table.ids from
    (h empty).trans (or_iff_left List.not_mem_nil)
  induction pairs with
  | nil => exact fun table => (or_iff_right List.not_mem_nil).symm
  | cons p ps ih =>
    intro table
    rw [List.foldl_cons, ih, mem_ids_insert, Members.names, Members.names, List.map_cons,
      List.mem_cons, or_left_comm, or_assoc]

/-! ## Comparing tables -/

/-- The tables have the same identifiers with the same signatures. -/
def Agree (a b : SymbolTable) : Prop := ∀ id, a.get? id = b.get? id

theorem Agree.perm {a b : SymbolTable} (h : a.Agree b) : a.toList.Perm b.toList :=
  Members.perm_of_get?_eq a.nodup b.nodup h

theorem Agree.contains_eq {a b : SymbolTable} (h : a.Agree b) (id : Text) :
    a.contains id = b.contains id := by
  rw [contains, contains, h id]

/-- One table has every symbol of the other, with the same signature. -/
def Within (a b : SymbolTable) : Prop :=
  ∀ id signature, a.get? id = some signature → b.get? id = some signature

/-- Tables agree if one is within the other and has no fewer identifiers. -/
theorem agree_iff {a b : SymbolTable} :
    a.Agree b ↔ a.Within b ∧ ∀ id, b.contains id = true → a.contains id = true := by
  constructor
  · intro h
    exact ⟨fun id signature hs => h id ▸ hs, fun id hb => (h.contains_eq id).trans hb⟩
  · rintro ⟨hw, hc⟩ id
    cases ha : a.get? id with
    | some signature => rw [hw id signature ha]
    | none =>
      cases hb : b.get? id with
      | none => rfl
      | some signature =>
        obtain ⟨v, hv⟩ := contains_iff.1 (hc id (contains_iff.2 ⟨signature, hb⟩))
        rw [hv] at ha
        cases ha

end SymbolTable

/-! ## Snapshots of graphs -/

/-- A point in time that a date can have. -/
def Timestamp.IsValid (ms : Number) : Prop :=
  ms.isFinite = true ∧ ms.toInt.natAbs ≤ Timestamp.furthest

/-- Exactly such points have a text. -/
theorem Timestamp.exists_text?_iff {ms : Number} :
    (∃ text, Timestamp.text? ms = some text) ↔ Timestamp.IsValid ms := by
  rw [Timestamp.text?, Timestamp.IsValid]
  split <;> simp_all

theorem Timestamp.text?_zero :
    Timestamp.text? (.zero false) = some ("1970-01-01T00:00:00.000Z" : Text) := by
  decide +kernel

theorem Timestamp.isValid_zero : Timestamp.IsValid (.zero false) :=
  Timestamp.exists_text?_iff.1 ⟨_, Timestamp.text?_zero⟩

namespace Graph

/-- The visible symbols with the given identifier, in order. -/
def occurrences (graph : Graph) (id : Text) : List Symbol :=
  graph.symbols.filter fun s => s.isVisible && s.identifier == id

/-- The public surface: each identifier of a visible symbol has the signature of its last
occurrence. -/
def surface (graph : Graph) (id : Text) : Option Text :=
  (graph.occurrences id).getLast?.map Symbol.signature

theorem collect_append (symbols : List Symbol) (s : Symbol) :
    collect ⟨symbols ++ [s]⟩ = record (collect ⟨symbols⟩) s := by
  rw [collect, List.foldl_append]
  rfl

theorem get?_record (state : SymbolTable × List Text) (s : Symbol) (id : Text) :
    (record state s).1.get? id
      = if s.isVisible && s.identifier == id then some s.signature else state.1.get? id := by
  rw [record]
  by_cases hv : s.isVisible
  · rw [if_pos hv, SymbolTable.get?_insert, hv, Bool.true_and]
    simp only [beq_iff_eq]
  · rw [if_neg hv, Bool.eq_false_iff.2 hv, Bool.false_and]
    rfl

/-- The table of a graph is its public surface. -/
theorem get?_table (graph : Graph) (id : Text) : graph.table.get? id = graph.surface id := by
  obtain ⟨symbols⟩ := graph
  induction symbols using List.reverseRecOn with
  | nil => rfl
  | append_singleton symbols s ih =>
    rw [table, collect_append, get?_record, surface, occurrences, List.filter_append,
      List.filter_singleton]
    cases s.isVisible && s.identifier == id with
    | true =>
      rw [cond_true, List.getLast?_concat]
      rfl
    | false =>
      rw [cond_false, List.append_nil]
      exact ih

/-- An identifier that no visible symbol has is not in the table. -/
theorem not_mem_ids_table {graph : Graph} {id : Text}
    (h : ∀ s ∈ graph.symbols, s.isVisible = true → s.identifier ≠ id) : id ∉ graph.table.ids := by
  have hnil : graph.occurrences id = [] := by
    refine List.filter_eq_nil_iff.2 fun s hs => ?_
    rw [Bool.and_eq_true, beq_iff_eq]
    exact fun hc => h s hs hc.1 hc.2
  rw [← SymbolTable.get?_eq_none_iff, get?_table, surface, hnil]
  rfl

theorem target_of_snapshot? {graph : Graph} {target : Text} {now : Number} {s : Snapshot}
    (h : graph.snapshot? target now = some s) : s.target = target := by
  obtain ⟨createdAt, -, rfl⟩ := Option.map_eq_some_iff.1 h
  rfl

/-- A snapshot can be made at any point in time that a date can have. -/
theorem exists_snapshot? {now : Number} (hnow : Timestamp.IsValid now) (graph : Graph)
    (target : Text) : ∃ s, graph.snapshot? target now = some s ∧ s.symbols = graph.table := by
  obtain ⟨text, htext⟩ := Timestamp.exists_text?_iff.2 hnow
  rw [snapshot?, htext]
  exact ⟨_, rfl, rfl⟩

end Graph

end SurfaceGuard
