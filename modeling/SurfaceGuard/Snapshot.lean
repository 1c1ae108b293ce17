import SurfaceGuard.Graph
import SurfaceGuard.Log
import SurfaceGuard.Timestamp

/-!
# Snapshots

A snapshot is the public interface of a target at a point in time: a table from symbol
identifiers to signatures.  `Graph.snapshot` makes one from a symbol graph; of several
visible symbols with one identifier the last one counts, at the place of the first.
-/

namespace SurfaceGuard

/-- A table from identifiers to signatures, in the order in which identifiers first came. -/
structure SymbolTable where
  entries : List (Text × Text)
  distinct : (entries.map Prod.fst).Nodup

namespace SymbolTable

/-- The table without symbols. -/
def empty : SymbolTable := ⟨[], by simp⟩

/-- The table with the signature of an identifier set. -/
def insert (table : SymbolTable) (id signature : Text) : SymbolTable :=
  ⟨Members.insert id signature table.entries, Members.nodup_insert id signature table.distinct⟩

/-- The table of a list of pairs: of a repeated identifier the last signature counts. -/
def ofList (pairs : List (Text × Text)) : SymbolTable :=
  pairs.foldl (fun table p => table.insert p.1 p.2) empty

/-- The pairs of the table. -/
def toList (table : SymbolTable) : List (Text × Text) := table.entries

/-- The signature of an identifier. -/
def get? (table : SymbolTable) (id : Text) : Option Text := Members.get? id table.entries

/-- Does the table have the identifier? -/
def contains (table : SymbolTable) (id : Text) : Bool := (table.get? id).isSome

/-- The identifiers. -/
def ids (table : SymbolTable) : List Text := table.entries.map Prod.fst

/-- The number of symbols. -/
def size (table : SymbolTable) : Nat := table.entries.length

end SymbolTable

/-- The public interface of a target at a point in time. -/
structure Snapshot where
  target : Text
  /-- When the snapshot was made; it is never compared. -/
  createdAt : Text
  symbols : SymbolTable

/-! ## From symbol graphs -/

namespace Graph

/-- One more symbol: the table with it, and the identifiers that came again. -/
def record (state : SymbolTable × List Text) (s : Symbol) : SymbolTable × List Text :=
  if s.isVisible then
    (state.1.insert s.identifier s.signature,
      if state.1.contains s.identifier then state.2 ++ [s.identifier] else state.2)
  else state

/-- The table of the visible symbols, and the identifiers that came again, in order. -/
def collect (graph : Graph) : SymbolTable × List Text :=
  graph.symbols.foldl record (SymbolTable.empty, [])

/-- The table of the visible symbols. -/
def table (graph : Graph) : SymbolTable := graph.collect.1

/-- The identifiers of visible symbols that came again, in order. -/
def repeated (graph : Graph) : List Text := graph.collect.2

/-- What the making of a snapshot records. -/
def remarks (graph : Graph) (target : Text) : List Entry :=
  (graph.repeated.map fun id =>
      .message .debug ("Duplicate symbol identifier in " ++ target ++ ": " ++ id))
    ++ (if graph.repeated.isEmpty then [] else
        [.message .warning (target ++ ": " ++ Text.ofNat graph.repeated.length
          ++ " duplicate public symbol identifier(s) in export")])
    ++ [.message .debug (target ++ ": " ++ Text.ofNat graph.table.size ++ " public symbols of "
          ++ Text.ofNat graph.symbols.length)]

/-- The snapshot of a graph at a point in time; none if that has no text. -/
def snapshot? (graph : Graph) (target : Text) (now : Number) : Option Snapshot :=
  (Timestamp.text? now).map fun createdAt => ⟨target, createdAt, graph.table⟩

end Graph

end SurfaceGuard
