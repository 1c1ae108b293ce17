import SurfaceGuard.Proofs.Guard.Turn
import SurfaceGuard.Proofs.Snapshot

/-!
# What a snapshot keeps of a graph

The table of a graph is filled symbol by symbol, from the first to the last.  `Collected` says what
the table and the list of repeated identifiers are after some of the symbols; one more symbol keeps
it (`Collected.record`), so it holds of all of them (`collected`).  A snapshot therefore has the
identifiers of the visible symbols in the order in which they first came, each with the signature of
its last visible symbol, and what is recorded counts the occurrences in between
(`snapshot_keeps_visible`).
-/

namespace SurfaceGuard

/-! ## Later occurrences -/

/-- The texts of a list that stand at a later place than the first of their kind, in order. -/
def Text.again (l : List Text) : List Text :=
  (l.zipIdx.filter fun p => l.idxOf p.1 < p.2).map Prod.fst

/-- A text comes again exactly if it has come before. -/
theorem Text.again_concat (l : List Text) (t : Text) :
    again (l ++ [t]) = again l ++ if t ∈ l then [t] else [] := by
  have hbefore : l.zipIdx.filter (fun p => (l ++ [t]).idxOf p.1 < p.2)
      = l.zipIdx.filter fun p => l.idxOf p.1 < p.2 := by
    refine List.filter_congr fun p hp => ?_
    have hmem : p.1 ∈ l := List.fst_mem_of_mem_zipIdx hp
    rw [List.idxOf_append_of_mem hmem]
  have hlast : (l ++ [t]).idxOf t < l.length ↔ t ∈ l := by
    rw [List.idxOf_append]
    split <;> simp_all [List.idxOf_lt_length_iff]
  rw [again, List.zipIdx_append, List.filter_append, hbefore, List.map_append]
  by_cases h : t ∈ l <;> simp [again, hlast, h]

/-- Is the entry a warning? -/
def Entry.isWarning : Entry → Bool
  | .message .warning _ => true
  | _ => false

theorem Symbol.isVisible_iff {s : Symbol} : s.isVisible = true ↔
    s.accessLevel = some ("public" : Text) ∨ s.accessLevel = some ("open" : Text) := by
  cases h : s.accessLevel <;> simp [isVisible, isVisibleLevel, visibleLevels, h]

namespace Graph

/-! ## Symbol by symbol -/

/-- The identifiers of the visible symbols, in order. -/
def visibleIds (graph : Graph) : List Text :=
  (graph.symbols.filter Symbol.isVisible).map Symbol.identifier

theorem visibleIds_concat (symbols : List Symbol) (s : Symbol) : visibleIds ⟨symbols ++ [s]⟩
    = visibleIds ⟨symbols⟩ ++ if s.isVisible then [s.identifier] else [] := by
  cases h : s.isVisible <;> simp [visibleIds, h]

/-- What a table and a list of repeated identifiers are after the given symbols. -/
structure Collected (graph : Graph) (state : SymbolTable × List Text) : Prop where
  ids : ∀ id, id ∈ state.1.ids ↔ id ∈ graph.visibleIds
  order : state.1.ids.Pairwise fun a b => graph.visibleIds.idxOf a < graph.visibleIds.idxOf b
  repeated : state.2 = Text.again graph.visibleIds
  count : state.2.length + state.1.size = graph.visibleIds.length

variable {symbols : List Symbol} {state : SymbolTable × List Text}

/-- A visible symbol whose identifier has not come before has a place of its own, the last one. -/
theorem Collected.record_first (h : Collected ⟨symbols⟩ state) {s : Symbol} (hv : s.isVisible)
    (hnew : s.identifier ∉ visibleIds ⟨symbols⟩) :
    Collected ⟨symbols ++ [s]⟩ (record state s) := by
  have hvisible : visibleIds ⟨symbols ++ [s]⟩ = visibleIds ⟨symbols⟩ ++ [s.identifier] := by
    rw [visibleIds_concat, if_pos hv]
  have hnot : s.identifier ∉ state.1.ids := fun hmem => hnew ((h.ids _).1 hmem)
  have hrecord : record state s = (state.1.insert s.identifier s.signature, state.2) := by
    rw [record, if_pos hv, if_neg fun hc => hnot (SymbolTable.contains_iff_mem_ids.1 hc)]
  have hids : (state.1.insert s.identifier s.signature).ids = state.1.ids ++ [s.identifier] := by
    rw [SymbolTable.ids_insert, if_neg hnot]
  rw [hrecord]
  refine ⟨fun id => ?_, ?_, ?_, ?_⟩
  · rw [hids, hvisible, List.mem_append, List.mem_append, h.ids]
  · rw [hids, hvisible, List.pairwise_append]
    refine ⟨?_, List.pairwise_singleton _ _, fun a ha b hb => ?_⟩
    · refine h.order.imp_of_mem fun ha hb hab => ?_
      rw [List.idxOf_append_of_mem ((h.ids _).1 ha), List.idxOf_append_of_mem ((h.ids _).1 hb)]
      exact hab
    · have hlt := List.idxOf_lt_length_iff.2 ((h.ids a).1 ha)
      rw [List.mem_singleton.1 hb, List.idxOf_append_of_mem ((h.ids a).1 ha),
        List.idxOf_append_of_notMem hnew]
      omega
  · rw [hvisible, Text.again_concat, if_neg hnew, List.append_nil]
    exact h.repeated
  · rw [← SymbolTable.length_ids, hids, hvisible, List.length_append, List.length_append,
      ← h.count, SymbolTable.length_ids, Nat.add_assoc]

/-- A visible symbol whose identifier has come before counts as a repetition and has no place of its
own. -/
theorem Collected.record_again (h : Collected ⟨symbols⟩ state) {s : Symbol} (hv : s.isVisible)
    (hold : s.identifier ∈ visibleIds ⟨symbols⟩) :
    Collected ⟨symbols ++ [s]⟩ (record state s) := by
  have hvisible : visibleIds ⟨symbols ++ [s]⟩ = visibleIds ⟨symbols⟩ ++ [s.identifier] := by
    rw [visibleIds_concat, if_pos hv]
  have hmem : s.identifier ∈ state.1.ids := (h.ids _).2 hold
  have hrecord : record state s
      = (state.1.insert s.identifier s.signature, state.2 ++ [s.identifier]) := by
    rw [record, if_pos hv, if_pos (SymbolTable.contains_iff_mem_ids.2 hmem)]
  have hids : (state.1.insert s.identifier s.signature).ids = state.1.ids := by
    rw [SymbolTable.ids_insert, if_pos hmem]
  rw [hrecord]
  refine ⟨fun id => ?_, ?_, ?_, ?_⟩
  · rw [hids, h.ids, hvisible, List.mem_append, List.mem_singleton]
    exact (or_iff_left_of_imp fun hid => hid ▸ hold).symm
  · rw [hids, hvisible]
    refine h.order.imp_of_mem fun ha hb hab => ?_
    rw [List.idxOf_append_of_mem ((h.ids _).1 ha), List.idxOf_append_of_mem ((h.ids _).1 hb)]
    exact hab
  · rw [hvisible, Text.again_concat, if_pos hold, ← h.repeated]
  · rw [← SymbolTable.length_ids, hids, hvisible, List.length_append, List.length_append,
      ← h.count, SymbolTable.length_ids]
    exact Nat.add_right_comm ..

/-- One more symbol keeps it. -/
theorem Collected.record (h : Collected ⟨symbols⟩ state) (s : Symbol) :
    Collected ⟨symbols ++ [s]⟩ (record state s) := by
  by_cases hv : s.isVisible
  · by_cases hold : s.identifier ∈ visibleIds ⟨symbols⟩
    · exact h.record_again hv hold
    · exact h.record_first hv hold
  · have hvisible : visibleIds ⟨symbols ++ [s]⟩ = visibleIds ⟨symbols⟩ := by
      rw [visibleIds_concat, if_neg hv, List.append_nil]
    rw [Graph.record, if_neg hv]
    exact ⟨hvisible ▸ h.ids, hvisible ▸ h.order, hvisible ▸ h.repeated, hvisible ▸ h.count⟩

theorem collected (graph : Graph) : graph.Collected graph.collect := by
  obtain ⟨symbols⟩ := graph
  induction symbols using List.reverseRecOn with
  | nil => exact ⟨fun id => Iff.rfl, List.Pairwise.nil, rfl, rfl⟩
  | append_singleton symbols s ih =>
    rw [collect_append]
    exact ih.record s

/-! ## All symbols -/

theorem mem_visibleIds {graph : Graph} {id : Text} : id ∈ graph.visibleIds ↔
    ∃ s ∈ graph.symbols,
      (s.accessLevel = some ("public" : Text) ∨ s.accessLevel = some ("open" : Text))
        ∧ s.identifier = id := by
  simp only [visibleIds, List.mem_map, List.mem_filter, Symbol.isVisible_iff, and_assoc]

/-- An identifier comes again exactly at the places of a visible symbol after its first. -/
theorem repeated_eq (graph : Graph) : graph.repeated = Text.again graph.visibleIds :=
  graph.collected.repeated

/-- The message on an identifier that came again. -/
def repetition (target id : Text) : Entry :=
  .message .debug ("Duplicate symbol identifier in " ++ target ++ ": " ++ id)

/-- The warning that identifiers came again, with their count. -/
def repetitions (target : Text) (count : Nat) : Entry :=
  .message .warning
    (target ++ ": " ++ Text.ofNat count ++ " duplicate public symbol identifier(s) in export")

/-- The message on the number of symbols in the table, of those in the graph. -/
def summary (graph : Graph) (target : Text) : Entry :=
  .message .debug (target ++ ": " ++ Text.ofNat graph.table.size ++ " public symbols of "
    ++ Text.ofNat graph.symbols.length)

theorem remarks_eq (graph : Graph) (target : Text) : graph.remarks target
    = graph.repeated.map (repetition target)
      ++ (if graph.repeated.length = 0 then [] else [repetitions target graph.repeated.length])
      ++ [graph.summary target] := by
  simp only [remarks, List.isEmpty_iff, List.length_eq_zero_iff]
  rfl

/-- There is a warning in the remarks exactly if there are repetitions, and then there is one. -/
theorem filter_isWarning_remarks (graph : Graph) (target : Text) :
    (graph.remarks target).filter Entry.isWarning
      = if graph.repeated.length = 0 then [] else [repetitions target graph.repeated.length] := by
  have hdebug : (graph.repeated.map (repetition target)).filter Entry.isWarning = [] := by
    simp [repetition, Entry.isWarning]
  have hsummary : [graph.summary target].filter Entry.isWarning = [] := rfl
  rw [remarks_eq, List.filter_append, List.filter_append, hdebug, hsummary, List.append_nil,
    List.nil_append]
  split <;> rfl

/-- A snapshot keeps exactly the visible symbols, at the place of the first with an identifier and
with the signature of the last.  Each visible symbol that is not the first with its identifier is
remarked on, in order, and if there are any then one warning has their count. -/
theorem snapshot_keeps_visible (graph : Graph) (target : Text) (now : Number)
    (hnow : Timestamp.IsValid now) :
    ∃ s n, (∀ w, Guard.snapshotOf graph target now w = (.ok s, w.logged (graph.remarks target)))
      ∧ (∀ id, id ∈ s.symbols.ids ↔
        ∃ symbol ∈ graph.symbols,
          (symbol.accessLevel = some ("public" : Text) ∨ symbol.accessLevel = some ("open" : Text))
            ∧ symbol.identifier = id)
      ∧ s.symbols.ids.Pairwise (fun a b => graph.visibleIds.idxOf a < graph.visibleIds.idxOf b)
      ∧ (∀ id, s.symbols.get? id = (graph.occurrences id).getLast?.map Symbol.signature)
      ∧ n + s.symbols.size = (graph.symbols.filter Symbol.isVisible).length
      ∧ n = (Text.again graph.visibleIds).length
      ∧ graph.remarks target = (Text.again graph.visibleIds).map (repetition target)
        ++ (if n = 0 then [] else [repetitions target n]) ++ [graph.summary target]
      ∧ (graph.remarks target).filter Entry.isWarning
        = if n = 0 then [] else [repetitions target n] := by
  obtain ⟨s, hs, htable⟩ := exists_snapshot? hnow graph target
  have hcollected := graph.collected
  refine ⟨s, graph.repeated.length, fun w => ?_, fun id => ?_, ?_, fun id => ?_, ?_, ?_, ?_,
    graph.filter_isWarning_remarks target⟩
  · rw [Guard.snapshotOf_eq, hs]
    rfl
  · rw [htable, ← mem_visibleIds]
    exact hcollected.ids id
  · rw [htable]
    exact hcollected.order
  · rw [htable]
    exact graph.get?_table id
  · rw [htable, ← List.length_map Symbol.identifier]
    exact hcollected.count
  · rw [repeated_eq]
  · rw [← repeated_eq]
    exact graph.remarks_eq target

/-- Three visible symbols of one identifier with a hidden one after them, and two of another. -/
theorem snapshot_keeps_visible_of_repetitions :
    let symbol (id title level : Text) : Symbol := ⟨id, title, "func", none, some level, none⟩
    let graph : Graph := ⟨[symbol "s:b" "b" "public", symbol "s:a" "a" "open",
      symbol "s:b" "c" "open", symbol "s:a" "d" "public", symbol "s:b" "e" "public",
      symbol "s:b" "f" "internal", symbol "s:h" "h" "private"]⟩
    Timestamp.IsValid (.zero false)
      ∧ ∃ s, (∀ w, Guard.snapshotOf graph "Mod" (.zero false) w
          = (.ok s, w.logged (graph.remarks "Mod")))
        ∧ s.symbols.get? "s:b" = some ("func e" : Text)
        ∧ s.symbols.get? "s:a" = some ("func d" : Text)
        ∧ ("s:h" : Text) ∉ s.symbols.ids ∧ s.symbols.size = 2
        ∧ graph.remarks "Mod" = [repetition "Mod" "s:b", repetition "Mod" "s:a",
          repetition "Mod" "s:b", repetitions "Mod" 3,
          .message .debug "Mod: 2 public symbols of 7"] := by
  intro symbol graph
  have hzero := Timestamp.isValid_zero
  obtain ⟨s, n, hsnapshot, hids, -, hget, hcount, hn, hremarks, -⟩ :=
    snapshot_keeps_visible graph "Mod" (.zero false) hzero
  have hagain : Text.again graph.visibleIds = (["s:b", "s:a", "s:b"] : List Text) := by decide
  rw [hagain] at hn
  refine ⟨hzero, s, hsnapshot, (hget _).trans (by decide), (hget _).trans (by decide),
    fun h => ?_, ?_, ?_⟩
  · exact absurd ((hids _).1 h) (by decide)
  · rw [hn] at hcount
    exact Nat.add_left_cancel hcount
  · rw [hremarks, hagain, hn]
    decide +kernel

end Graph

end SurfaceGuard
