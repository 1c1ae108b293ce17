import Mathlib.Logic.Relation
import SurfaceGuard.Proofs.Baseline.Bytes
import SurfaceGuard.Proofs.Diff
import SurfaceGuard.Proofs.Graph.Likeness
import SurfaceGuard.Proofs.Text.Space

/-!
# Exports that differ in noise only

Two exports of one public interface differ in much that the guard must not see: the layout of
the document, members it does not declare, the order of the symbols, symbols that no client can
use, and the way a declaration is cut into pieces and spaced.  `Noise` is one such difference.

What a baseline stores is the list of visible symbols up to its order (`encode_eq_iff_perm`), and
noise keeps that (`Noise.interface_perm`).
-/

namespace SurfaceGuard

namespace Symbol

/-- The symbol with a new declaration. -/
def declare (s : Symbol) (fragments : List Fragment) : Symbol :=
  { s with fragments := some fragments }

theorem signature_declare (s : Symbol) {fs : List Fragment} (h : fs ≠ []) :
    (s.declare fs).signature = Text.fold (declaration fs) := by
  cases fs with
  | nil => exact absurd rfl h
  | cons f fs => rfl

end Symbol

namespace Graph

/-! ## The interface -/

/-- The identifiers and signatures of the visible symbols, in order. -/
def interface (graph : Graph) : List (Text × Text) :=
  (graph.symbols.filter Symbol.isVisible).map fun s => (s.identifier, s.signature)

/-- No two visible symbols share an identifier. -/
def IsDistinct (graph : Graph) : Prop := (Members.names graph.interface).Nodup

instance (graph : Graph) : Decidable graph.IsDistinct := List.nodupDecidable _

theorem interface_append (before after : List Symbol) :
    interface ⟨before ++ after⟩ = interface ⟨before⟩ ++ interface ⟨after⟩ := by
  simp [interface]

theorem interface_cons (s : Symbol) (after : List Symbol) :
    interface ⟨s :: after⟩
      = (if s.isVisible then [(s.identifier, s.signature)] else []) ++ interface ⟨after⟩ := by
  cases h : s.isVisible <;> simp [interface, h]

/-- The table of a graph is that of its interface. -/
theorem table_eq_ofList (graph : Graph) : graph.table = SymbolTable.ofList graph.interface := by
  obtain ⟨symbols⟩ := graph
  induction symbols using List.reverseRecOn with
  | nil => rfl
  | append_singleton symbols s ih =>
    rw [table] at ih
    rw [table, collect_append, record, interface_append, interface_cons, SymbolTable.ofList,
      List.foldl_append]
    cases s.isVisible with
    | false => exact ih
    | true => exact congrArg (·.insert s.identifier s.signature) ih

theorem IsDistinct.get?_table {graph : Graph} (h : graph.IsDistinct) (id : Text) :
    graph.table.get? id = Members.get? id graph.interface := by
  rw [table_eq_ofList, SymbolTable.get?, SymbolTable.entries_ofList h]

theorem agree_table_iff_perm {graph graph' : Graph} (h : graph.IsDistinct)
    (h' : graph'.IsDistinct) :
    graph.table.Agree graph'.table ↔ graph.interface.Perm graph'.interface := by
  simp only [SymbolTable.Agree, h.get?_table, h'.get?_table]
  exact ⟨Members.perm_of_get?_eq h h', fun hp => Members.get?_of_perm hp h⟩

/-- Baselines of one target and time have the same bytes exactly if the interfaces are the same
up to their order. -/
theorem encode_eq_iff_perm {graph graph' : Graph} {s s' : Snapshot} (h : graph.IsDistinct)
    (h' : graph'.IsDistinct) (htarget : s.target = s'.target)
    (hcreated : s.createdAt = s'.createdAt) (hs : s.symbols = graph.table)
    (hs' : s'.symbols = graph'.table) :
    Baseline.encode s = Baseline.encode s' ↔ graph.interface.Perm graph'.interface := by
  rw [Baseline.encode_eq_iff, Baseline.toJson_eq_iff, ← agree_table_iff_perm h h', hs, hs']
  simp [htarget, hcreated, SymbolTable.Agree]

/-! ## Edits of a graph -/

/-- One edit of a graph that leaves its interface alone. -/
inductive Edit : Graph → Graph → Prop where
  /-- The symbols in another order. -/
  | reorder {symbols symbols' : List Symbol} (h : symbols.Perm symbols') :
      Edit ⟨symbols⟩ ⟨symbols'⟩
  /-- One more symbol that is not visible, whatever its identifier. -/
  | insert (before after : List Symbol) {s : Symbol} (h : s.isVisible = false) :
      Edit ⟨before ++ after⟩ ⟨before ++ s :: after⟩
  /-- One symbol less that is not visible. -/
  | delete (before after : List Symbol) {s : Symbol} (h : s.isVisible = false) :
      Edit ⟨before ++ s :: after⟩ ⟨before ++ after⟩
  /-- A declaration cut into other pieces of any kinds. -/
  | split (before after : List Symbol) (s : Symbol) {fs fs' : List Fragment} (hfs : fs ≠ [])
      (hfs' : fs' ≠ []) (h : Symbol.declaration fs = Symbol.declaration fs') :
      Edit ⟨before ++ s.declare fs :: after⟩ ⟨before ++ s.declare fs' :: after⟩
  /-- A declaration with other white space. -/
  | respace (before after : List Symbol) (s : Symbol) {fs fs' : List Fragment} (hfs : fs ≠ [])
      (hfs' : fs' ≠ []) (h : Text.Respaced (Symbol.declaration fs) (Symbol.declaration fs')) :
      Edit ⟨before ++ s.declare fs :: after⟩ ⟨before ++ s.declare fs' :: after⟩

theorem interface_redeclare (before after : List Symbol) (s : Symbol) {fs fs' : List Fragment}
    (hfs : fs ≠ []) (hfs' : fs' ≠ [])
    (h : Text.fold (Symbol.declaration fs) = Text.fold (Symbol.declaration fs')) :
    interface ⟨before ++ s.declare fs :: after⟩ = interface ⟨before ++ s.declare fs' :: after⟩ := by
  rw [interface_append, interface_append, interface_cons, interface_cons,
    Symbol.signature_declare s hfs, Symbol.signature_declare s hfs', h]
  rfl

/-- An edit keeps the interface up to its order. -/
theorem Edit.interface_perm {graph graph' : Graph} (h : Edit graph graph') :
    graph.interface.Perm graph'.interface := by
  cases h with
  | reorder h => exact (h.filter _).map _
  | insert before after h => simp [interface_append, interface_cons, h]
  | delete before after h => simp [interface_append, interface_cons, h]
  | split before after s hfs hfs' h =>
    exact .of_eq (interface_redeclare before after s hfs hfs' (congrArg Text.fold h))
  | respace before after s hfs hfs' h =>
    exact .of_eq (interface_redeclare before after s hfs hfs' h.fold_eq)

end Graph

/-! ## Noise in a text -/

/-- One edit of the text of an export that says nothing about the interface. -/
inductive Noise : Text → Text → Prop where
  /-- Another layout, another order of members, other undeclared members at any depth. -/
  | dress {text text' : Text} {json json' : Json} (h : Json.read? text = some json)
      (h' : Json.read? text' = some json') (hlike : Graph.likeness json json') : Noise text text'
  /-- An edit of the graph. -/
  | edit {text text' source source' : Text} {graph graph' : Graph}
      (h : Graph.parse text source = .ok graph) (h' : Graph.parse text' source' = .ok graph')
      (hedit : Graph.Edit graph graph') : Noise text text'

/-- The text is accepted with the interface of the graph, up to its order. -/
def Graph.Exports (graph : Graph) (text : Text) : Prop :=
  ∀ source, ∃ graph', Graph.parse text source = .ok graph' ∧
    graph.interface.Perm graph'.interface

theorem Graph.exports_of_parse {text source : Text} {graph : Graph}
    (h : Graph.parse text source = .ok graph) : graph.Exports text :=
  fun _ => ⟨graph, parse_eq_ok_iff.2 (parse_eq_ok_iff.1 h), .refl _⟩

/-- Noise in an accepted text gives an accepted text with the same interface. -/
theorem Noise.exports {text text' : Text} {graph : Graph} (h : Noise text text')
    (hexports : graph.Exports text) : graph.Exports text' := by
  intro source'
  cases h with
  | dress h h' hlike =>
    obtain ⟨graph', hparse, hperm⟩ := hexports source'
    obtain ⟨json, hread, hshape⟩ := Graph.parse_eq_ok_iff.1 hparse
    rw [h, Option.some.injEq] at hread
    rw [← hread, Graph.respects_shape _ _ hlike] at hshape
    exact ⟨graph', Graph.parse_eq_ok_iff.2 ⟨_, h', hshape⟩, hperm⟩
  | @edit source _ _ _ h h' hedit =>
    -- what the text exports is the graph that is edited
    obtain ⟨graph', hparse, hperm⟩ := hexports source
    rw [h, Except.ok.injEq] at hparse
    rw [← hparse] at hperm
    exact ⟨_, Graph.parse_eq_ok_iff.2 (Graph.parse_eq_ok_iff.1 h'),
      hperm.trans hedit.interface_perm⟩

/-- So does any combination of noise. -/
theorem Graph.Exports.of_noise {text text' : Text} {graph : Graph} (hexports : graph.Exports text)
    (h : Relation.ReflTransGen Noise text text') : graph.Exports text' := by
  induction h with
  | refl => exact hexports
  | tail _ hnoise ih => exact hnoise.exports ih

/-- Snapshots whose tables agree do not differ. -/
theorem Diff.isEmpty_between {s s' : Snapshot} (h : s.symbols.Agree s'.symbols) :
    (between s s').isEmpty = true := by
  obtain ⟨hremoved, hchanged⟩ := within_iff.1 (SymbolTable.agree_iff.1 h).1
  have hsymm : s'.symbols.Agree s.symbols := fun id => (h id).symm
  have hadded := (within_iff.1 (SymbolTable.agree_iff.1 hsymm).1).1
  simp [between, isEmpty, hremoved, hchanged, hadded, Text.sort]

/-- Baselines are immune to noise.  Two accepted texts, of which the second is the first with any
combination of noise, give snapshots with the same bytes and no difference between them; and the
bytes are the same only if the texts have the same visible identifiers and signatures. -/
theorem encode_snapshot_of_noise (text text' source source' target : Text) (now : Number)
    (graph graph' : Graph) (hparse : Graph.parse text source = .ok graph)
    (hparse' : Graph.parse text' source' = .ok graph') (hd : graph.IsDistinct)
    (hd' : graph'.IsDistinct) (hnow : Timestamp.IsValid now) :
    ∃ s s', graph.snapshot? target now = some s ∧ graph'.snapshot? target now = some s'
      ∧ (Relation.ReflTransGen Noise text text' →
          Baseline.encode s = Baseline.encode s' ∧ (Diff.between s s').isEmpty = true
            ∧ (Diff.between s' s).isEmpty = true)
      ∧ (Baseline.encode s = Baseline.encode s' →
          ∀ id signature,
            (id, signature) ∈ graph.interface ↔ (id, signature) ∈ graph'.interface) := by
  obtain ⟨createdAt, hcreated⟩ := Timestamp.exists_text?_iff.2 hnow
  have hencode : Baseline.encode ⟨target, createdAt, graph.table⟩
        = Baseline.encode ⟨target, createdAt, graph'.table⟩
      ↔ graph.interface.Perm graph'.interface :=
    Graph.encode_eq_iff_perm hd hd' rfl rfl rfl rfl
  refine ⟨⟨target, createdAt, graph.table⟩, ⟨target, createdAt, graph'.table⟩,
    by rw [Graph.snapshot?, hcreated]; rfl, by rw [Graph.snapshot?, hcreated]; rfl, ?_, ?_⟩
  · intro hnoise
    obtain ⟨_, hparse'', hperm⟩ := (Graph.exports_of_parse hparse).of_noise hnoise source'
    rw [hparse', Except.ok.injEq] at hparse''
    rw [← hparse''] at hperm
    have hagree := (Graph.agree_table_iff_perm hd hd').2 hperm
    exact ⟨hencode.2 hperm, Diff.isEmpty_between hagree,
      Diff.isEmpty_between fun id => (hagree id).symm⟩
  · intro hbytes id signature
    exact (hencode.1 hbytes).mem_iff

/-- A declaration that is cut and spaced in another way, and then a symbol of the same identifier
that is not visible, in a document with another layout and an undeclared member. -/
theorem encode_snapshot_of_noise_function :
    let symbol : Text := "\x7b\"identifier\":\x7b\"precise\":\"s:f\"\x7d,"
      ++ "\"names\":\x7b\"title\":\"f\"\x7d,\"kind\":\x7b\"identifier\":\"func\"\x7d,"
    let fragment (spelling : Text) : Text :=
      "\x7b\"kind\":\"text\",\"spelling\":\"" ++ spelling ++ "\"\x7d"
    let visible (fragments : Text) : Text := symbol ++ "\"accessLevel\":\"public\","
      ++ "\"declarationFragments\":[" ++ fragments ++ "]\x7d"
    let text : Text := "\x7b\"symbols\":[" ++ visible (fragment "func f") ++ "]\x7d"
    let text' : Text := "\x7b \"module\" : null, \"symbols\" : [" ++ symbol
      ++ "\"accessLevel\":\"internal\"\x7d, "
      ++ visible (fragment "func" ++ "," ++ fragment "\\t f") ++ "] \x7d"
    ∃ graph graph' s s', Graph.parse text "old" = .ok graph ∧ Graph.parse text' "new" = .ok graph'
      ∧ graph ≠ graph' ∧ graph.snapshot? "Mod" (.zero false) = some s
      ∧ graph'.snapshot? "Mod" (.zero false) = some s'
      ∧ Baseline.encode s = Baseline.encode s' := by
  intro symbol fragment visible text text'
  let middle : Text := "\x7b\"symbols\":["
    ++ visible (fragment "func" ++ "," ++ fragment "\\t f") ++ "]\x7d"
  let f : Symbol := ⟨"s:f", "f", "func", none, some "public", none⟩
  let hidden : Symbol := ⟨"s:f", "f", "func", none, some "internal", none⟩
  let fs : List Fragment := [⟨"text", "func f"⟩]
  let fs' : List Fragment := [⟨"text", "func"⟩, ⟨"text", "\t f"⟩]
  have hparses : Graph.parse text "old" = .ok ⟨[f.declare fs]⟩
      ∧ Graph.parse middle "old" = .ok ⟨[f.declare fs']⟩
      ∧ Graph.parse text' "new" = .ok ⟨[hidden, f.declare fs']⟩ := by decide +kernel
  obtain ⟨hparse, hmiddle, hparse'⟩ := hparses
  have hspaced : Text.Respaced (Symbol.declaration fs) (Symbol.declaration fs') :=
    @Text.Respaced.run " " "\t " "func" "f" (by decide) (by decide) (by decide) (by decide)
  have hnoise : Relation.ReflTransGen Noise text text' :=
    .tail (.single (.edit hparse hmiddle (.respace [] [] f (by decide) (by decide) hspaced)))
      (.edit hmiddle hparse' (.insert [] [f.declare fs'] (by decide)))
  obtain ⟨s, s', hs, hs', hsame, -⟩ := encode_snapshot_of_noise text text' "old" "new" "Mod"
    (.zero false) _ _ hparse hparse' (by decide) (by decide) Timestamp.isValid_zero
  exact ⟨_, _, s, s', hparse, hparse', by decide, hs, hs', (hsame hnoise).1⟩

end SurfaceGuard
